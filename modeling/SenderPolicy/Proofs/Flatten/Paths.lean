/-
  SenderPolicy.Proofs.Flatten.Paths — what a walk depends on.

  A walk below a domain never reads the record of that domain: it would go in a loop, and stops before it
  asks. So what the domain publishes makes no difference to it. And a clean walk that starts from a domain
  the record of `d` goes on to does not come to `d`, since it would come back to where it started; so it
  gives the same branch whether it starts on its own or below `d`.
  - `walk_congr`: below a domain the walk does not depend on what the domain publishes.
  - `walk_below`: a clean walk is the same below a domain that goes on to its start.
-/

import SenderPolicy.Proofs.Domain.Alias
import SenderPolicy.Proofs.Flatten.CleanWalk

namespace SenderPolicy.Flatten

open Dns
open Branch (Clean)

variable {limits : Limits} {ask ask' : Ask Id} {room : Nat} {v : Visit} {d : String}

/-! ## Sources that differ in one domain -/

/-- Two sources that may differ in the texts of one domain, and in nothing else. -/
def AgreeBut (d : String) (ask ask' : Ask Id) : Prop :=
  ∀ q : Question, q.normalize ≠ ⟨d, "TXT"⟩ → ask q = ask' q

theorem texts_congr (h : AgreeBut d ask ask') {name type : String}
    (hq : Text.upper type ≠ "TXT" ∨ Domain.normalize name ≠ d) : texts ask name type = texts ask' name type := by
  unfold texts
  rw [h ⟨name, type⟩ fun he => ?_]
  obtain ⟨hname, htype⟩ := Question.mk.inj he
  exact hq.elim (fun ht => ht htype) fun hn => hn hname

theorem someTexts_congr (h : AgreeBut d ask ask') {name type : String} (hq : Text.upper type ≠ "TXT") :
    someTexts ask name type = someTexts ask' name type := by
  unfold someTexts
  rw [texts_congr h (Or.inl hq)]

theorem addressBranch_congr (h : AgreeBut d ask ask') (name : String) (v4 v6 : Option String) :
    addressBranch ask name v4 v6 = addressBranch ask' name v4 v6 := by
  unfold addressBranch addresses
  rw [someTexts_congr h (by decide), someTexts_congr h (by decide)]

theorem mxBranch_congr (h : AgreeBut d ask ask') (target : String) (v4 v6 : Option String) :
    mxBranch ask target v4 v6 = mxBranch ask' target v4 v6 := by
  have hexchange : exchangeBranch ask v4 v6 = exchangeBranch ask' v4 v6 := by
    funext e
    unfold exchangeBranch
    rw [addressBranch_congr h]
  unfold mxBranch exchanges
  rw [texts_congr h (Or.inl (by decide)), hexchange]

/-- Addresses and exchanges do not depend on texts. -/
theorem hostsBranch_congr (h : AgreeBut d ask ask') (domain : String) : hostsBranch ask domain = hostsBranch ask' domain := by
  funext hosts
  unfold hostsBranch
  dsimp only
  rw [mxBranch_congr h, addressBranch_congr h]

theorem published_congr (h : AgreeBut d ask ask') {domain : String} (hd : Domain.normalize domain ≠ d) :
    Record.published ask domain = Record.published ask' domain := by
  unfold Record.published
  rw [texts_congr h (Or.inr hd)]

/-! ## Below a domain -/

def NoBlank (name : String) : Prop := ∀ c ∈ name.toList, Text.isBlank c = false

theorem noBlank_key {name : String} (h : NoBlank name) : NoBlank (Domain.key name) :=
  fun c hc => Domain.isBlank_of_normal (Domain.key_normal h c hc)

theorem noBlank_of_child {record : String} {child : Visit} (h : child ∈ children limits v record) : NoBlank child.name := by
  obtain ⟨name, hname, rfl⟩ := List.mem_map.mp h
  split at hname
  · obtain ⟨w, hw, -, rfl⟩ := mem_nested_planOf hname
    exact noBlank_key hw
  · cases hname

theorem path_of_child {record : String} {child : Visit} (h : child ∈ children limits v record) :
    child.path = v.path ++ [v.domain] := by
  obtain ⟨name, _, rfl⟩ := List.mem_map.mp h
  rfl

/-- Below a domain the walk does not depend on what the domain publishes. -/
theorem walk_congr (h : AgreeBut d ask ask') (hascii : ∀ c ∈ d.toList, c.toNat < 128) (hpath : d ∈ v.path)
    (hname : NoBlank v.name) : walk limits ask room v = walk limits ask' room v := by
  induction room generalizing v with
  | zero => rfl
  | succ room ih =>
    rw [walk_succ, walk_succ]
    by_cases hfresh : v.domain ∈ v.path
    · rw [if_pos hfresh, if_pos hfresh]
    have hd : Domain.normalize v.domain ≠ d := by
      intro he
      have hsame : v.domain = d := Domain.eq_of_normalize_key hname hascii he
      rw [hsame] at hfresh
      exact hfresh hpath
    have hfollowed : ∀ record hosts,
        followed limits ask room v record hosts = followed limits ask' room v record hosts := by
      intro record hosts
      have hchildren : ∀ child ∈ children limits v record,
          awaited limits child.name (walk limits ask room child)
            = awaited limits child.name (walk limits ask' room child) := by
        intro child hchild
        have hbelow : d ∈ child.path := by
          rw [path_of_child hchild]
          exact List.mem_append_left _ hpath
        rw [ih hbelow (noBlank_of_child hchild)]
      unfold followed
      rw [List.map_congr_left hchildren]
    rw [if_neg hfresh, if_neg hfresh, published_congr h hd, hostsBranch_congr h]
    simp only [hfollowed]

/-- The visit as it is below `d`. -/
def Visit.below (v : Visit) (d : String) : Visit := { v with path := d :: v.path }

theorem children_below (record : String) :
    children limits (v.below d) record = (children limits v record).map (·.below d) := by
  unfold children
  rw [List.map_map]
  rfl

/-- A clean walk is the same below a domain whose record goes on to a domain that it has come through. -/
theorem walk_below {record e : String} (hrec : limits.recursive = true)
    (hpublished : (Record.published ask d).run = .ok (.ok record)) (he : e ∈ ((planOf record).branch d).nested)
    (hclean : Clean (walk limits ask room v)) (hseen : Domain.key e ∈ v.path ++ [v.domain]) :
    walk limits ask room (v.below d) = walk limits ask room v := by
  induction room generalizing v with
  | zero => rfl
  | succ room ih =>
    obtain ⟨below, record', hosts, hroom, hvisit⟩ := walk_clean hclean
    obtain rfl := Nat.succ.inj hroom
    -- Coming to `d` the walk would go on to `e`, where it has been.
    have hother : v.domain ≠ d := by
      intro hd
      have hp := hvisit.published
      rw [hd, hpublished] at hp
      obtain rfl : record = record' := Except.ok.inj (Except.ok.inj hp)
      have hchild : v.next e ∈ children limits v record := by
        unfold children own
        rw [if_pos hrec, hd]
        exact List.mem_map_of_mem he
      obtain ⟨_, _, _, _, hbelow⟩ := walk_clean (hvisit.below _ hchild)
      exact hbelow.fresh hseen
    have hfresh : (v.below d).domain ∉ (v.below d).path := by
      intro hm
      rcases List.mem_cons.mp hm with hm | hm
      · exact hother hm
      · exact hvisit.fresh hm
    have hchildren : ∀ child ∈ children limits v record',
        awaited limits child.name (walk limits ask room (child.below d)) = walk limits ask room child := by
      intro child hchild
      have hseen' : Domain.key e ∈ child.path ++ [child.domain] := by
        rw [path_of_child hchild]
        exact List.mem_append_left _ hseen
      rw [ih (hvisit.below child hchild) hseen', awaited_of_not_silent limits (hvisit.heard child hchild)]
    have hbelow : (children limits (v.below d) record').map (fun child => awaited limits child.name (walk limits ask room child))
        = (children limits v record').map (walk limits ask room) := by
      rw [children_below, List.map_map]
      exact List.map_congr_left hchildren
    have hheard : (Branch.join ((children limits v record').map (walk limits ask room))).silent = false :=
      join_not_silent (List.forall_mem_map.mpr hvisit.heard)
    have hdomain : (v.below d).domain = v.domain := rfl
    rw [walk_followed hfresh hvisit.timely (hdomain ▸ hvisit.published) (hdomain ▸ hvisit.looked), hvisit.whole, followed,
      hbelow, collected_of_not_silent _ _ _ hheard]
    rfl

end SenderPolicy.Flatten
