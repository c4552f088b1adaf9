/-
  SenderPolicy.Proofs.Record.PolicyWarnings — what is said about the policy of a record, against what was read of it.

  A record ends in an `all` or hands over by a redirect. It is warned of if it does neither, if it does both, and if
  mechanisms stand behind the first `all`, where they are not reached. The `all` counts once it has been read, so it
  is one of the mechanisms. The redirect counts as soon as its name has been seen: one that is then rejected, as it
  has no value or is not well formed, is none of the modifiers and still hides that the record has no policy.
  - `isAll_readTerm`: an `all` is read exactly from the word, with or without a qualifier.
  - `hasRedirect_readTerms`: a redirect is read exactly if the first of them has a value and is well formed.
  - `policy_warnings_agree_iff`: the warnings agree with the mechanisms and modifiers under just this condition.
  - `empty_redirect_hides_missing_policy`: `redirect=` alone is a record with no policy and no warning.
-/

import SenderPolicy.Installed
import SenderPolicy.Proofs.Record.Independence

namespace SenderPolicy.Record

open Text
open Mechanism (Kind)

variable {seen : Seen} {token : String} {o : Outcome} {ts : List String} {os : List Outcome}

/-! ## The first `all` -/

/-- The word `all` in any case, with or without a qualifier. -/
def spellsAll (token : String) : Bool := spells (Grammar.unqualified token.toList) Kind.all.name.toList

/-- No letter of the word has other characters that fold to it. -/
theorem onlyFolds_all {c : Char} (h : fold c ∈ Kind.all.name.toList) : onlyFolds c = false := by
  by_contra hfolds
  simp only [onlyFolds, Bool.not_eq_false, Bool.or_eq_true, beq_iff_eq] at hfolds
  rcases hfolds with (rfl | rfl) | rfl <;> exact absurd h (by decide)

theorem readTerm_spellsAll [Packages] (h : spellsAll token = true) (seen : Seen) :
    ∃ m faults ws, readTerm seen token = .ok (.mechanism m faults ws) ∧ m.kind = .all := by
  have hspells := spells_iff.mp h
  have hshape := Token.mechanism?_of_spells (List.append_nil _).symm (k := .all) (by decide) hspells (by simp)
  have hcheck : Grammar.check token = none := (Token.check_mechanism hshape (k := .all) (by decide) hspells).mpr rfl
  have hname : lower (String.ofList (Grammar.unqualified token.toList)) = Kind.all.name := by
    refine Token.lower_keyword (by decide) hspells ?_
    intro c hc
    refine onlyFolds_all ?_
    rw [← hspells]
    exact List.mem_map_of_mem hc
  have hkind : Kind.ofName Kind.all.name = .all := Kind.ofName_name (by decide)
  unfold readTerm
  rw [hshape]
  unfold readMechanism
  simp only [Token.Written.term, hname, hkind, hcheck, Token.value?]
  exact ⟨_, _, _, rfl, rfl⟩

theorem isAll_readTerm [Packages] (h : readTerm seen token = .ok o) : isAll o = spellsAll token := by
  by_cases hs : spellsAll token = true
  · obtain ⟨m, faults, ws, hread, hkind⟩ := readTerm_spellsAll hs seen
    rw [h] at hread
    cases hread
    simp [isAll, Outcome.mechanism?, hkind, hs]
  · cases o with
    | mechanism m faults ws =>
      by_cases hkind : m.kind = .all
      · obtain ⟨w, hfrom, _⟩ := readFrom_of_mechanism h
        have hspells := hfrom.spells
        have hbehind := (Token.check_mechanism hfrom.shape hfrom.standard hspells).mp hfrom.wellFormed
        rw [hkind] at hspells hbehind
        have hrest : w.rest = [] := Option.some.inj hbehind
        have hbody := (Token.mechanism?_spells hfrom.shape).1
        rw [hrest, List.append_nil] at hbody
        rw [spellsAll, hbody] at hs
        exact absurd (spells_iff.mpr hspells) hs
      · simp [isAll, Outcome.mechanism?, hkind, hs]
    | _ => simp [isAll, Outcome.mechanism?, hs]

theorem map_isAll [Packages] (h : readTerms seen ts = .ok os) : os.map isAll = ts.map spellsAll := by
  induction ts generalizing seen os with
  | nil => cases h; rfl
  | cons t ts ih =>
    obtain ⟨o, os, rfl, ho, hs⟩ := readTerms_cons h
    rw [List.map_cons, List.map_cons, isAll_readTerm ho, ih hs]

theorem any_isAll [Packages] (h : readTerms seen ts = .ok os) : os.any isAll = ts.any spellsAll := by
  have hmap := congrArg (List.any · id) (map_isAll h)
  simpa [List.any_map] using hmap

theorem countP_all [Packages] (h : readTerms seen ts = .ok os) :
    (os.filterMap Outcome.mechanism?).countP (·.kind == .all) = ts.countP spellsAll := by
  have hcount : os.countP isAll = ts.countP spellsAll := by
    have hmap := congrArg (List.countP id) (map_isAll h)
    simpa [List.countP_map] using hmap
  have houtcomes : ∀ os : List Outcome, (os.filterMap Outcome.mechanism?).countP (·.kind == .all) = os.countP isAll := by
    intro os
    induction os with
    | nil => rfl
    | cons o os ih =>
      rw [List.countP_cons, ← ih]
      cases o with
      | mechanism m faults ws => simp [isAll, Outcome.mechanism?, List.countP_cons]
      | _ => rfl
  rw [houtcomes, hcount]

/-- The terms behind the first `all`. -/
def behindAll (ts : List String) : List String := (ts.dropWhile (!spellsAll ·)).drop 1

theorem behindAll_eq (ts : List String) :
    behindAll ts = match ts.findIdx? spellsAll with
      | some i => ts.drop (i + 1)
      | none => [] := by
  induction ts with
  | nil => rfl
  | cons t ts ih =>
    unfold behindAll at ih ⊢
    rw [List.findIdx?_cons]
    by_cases ht : spellsAll t = true
    · simp [ht]
    · simp only [ht, List.dropWhile_cons, Bool.not_false, if_true, ih]
      cases ts.findIdx? spellsAll <;> simp

/-- The mechanisms behind the first `all`, well formed or not. -/
def unreached (ts : List String) : List String := (behindAll ts).filter fun t => (Token.mechanism? t.toList).isSome

theorem unreachable_eq [Packages] (h : readTerms seen ts = .ok os) : unreachable ts os = unreached ts := by
  have hposition : allPosition? os = ts.findIdx? spellsAll := by
    have hmap := congrArg (List.findIdx? id) (map_isAll h)
    simpa [List.findIdx?_map, allPosition?] using hmap
  rw [unreachable, hposition, unreached, behindAll_eq]
  cases ts.findIdx? spellsAll <;> rfl

/-! ## The first redirect -/

def isRedirect (token : String) : Bool := modifierKind? token == some .redirect

/-- A modifier that has a value and is well formed. -/
def Stands [Expectations] (token : String) : Prop :=
  Grammar.check token = none ∧ ∃ name value, Token.modifier? token.toList = some (name, value) ∧ value ≠ ""

theorem modifierError?_redirect [Expectations] (hnone : seen.redirect = false) (value : String) :
    modifierError? seen token .redirect value = none ↔ Grammar.check token = none ∧ value ≠ "" := by
  by_cases hvalue : value = "" <;> simp [modifierError?, hnone, hvalue]

/-- A redirect that is the first is read if it stands. -/
theorem readTerm_redirect [Packages] (hkind : isRedirect token = true) (hnone : seen.redirect = false)
    (h : readTerm seen token = .ok o) : o.modifier?.isSome = true ↔ Stands token := by
  obtain ⟨name, value, hmodifier, hread⟩ := readTerm_named (beq_iff_eq.mp hkind)
  have hstands : Stands token ↔ modifierError? seen token .redirect value = none := by
    rw [modifierError?_redirect hnone]
    simp [Stands, hmodifier]
  rw [hstands]
  cases herror : modifierError? seen token .redirect value with
  | none => simp [(hread seen).2 o herror h]
  | some reason =>
    have hrejected := (hread seen).1 reason herror
    rw [h] at hrejected
    cases hrejected
    simp [Outcome.modifier?]

theorem hasRedirect_readTerms [Packages] (hnone : seen.redirect = false) (h : readTerms seen ts = .ok os) :
    (∃ mo ∈ os.filterMap Outcome.modifier?, mo.kind = .redirect) ↔ ∃ token, ts.find? isRedirect = some token ∧ Stands token := by
  induction ts generalizing seen os with
  | nil => cases h; simp
  | cons t ts ih =>
    obtain ⟨o, os, rfl, ho, hs⟩ := readTerms_cons h
    have hafter := has_after (k := .redirect) List.mem_cons_self seen t
    by_cases ht : isRedirect t = true
    · have hkind : modifierKind? t = some .redirect := beq_iff_eq.mp ht
      rw [List.find?_cons_of_pos ht]
      have hread := readTerm_redirect ht hnone ho
      have hothers : ∀ mo ∈ os.filterMap Outcome.modifier?, mo.kind ≠ .redirect := by
        have hcount := count_modifiers (k := .redirect) List.mem_cons_self hs
        have hseen : (seen.after t).has .redirect = true := by rw [hafter, hkind]; simp
        rw [hseen, if_pos rfl, Nat.le_zero, List.countP_eq_zero] at hcount
        intro mo hmo
        simpa using hcount mo hmo
      constructor
      · intro hexists
        obtain ⟨mo, hmo, hredirect⟩ := hexists
        refine ⟨t, rfl, hread.mp ?_⟩
        cases o with
        | modifier mo' faults ws => rfl
        | _ => exact absurd hredirect (hothers mo hmo)
      · intro hexists
        obtain ⟨token, hfound, hstands⟩ := hexists
        cases hfound
        have hmodifier := hread.mpr hstands
        cases o with
        | modifier mo faults ws =>
          have hsame := (kind_of_modifier ho).1
          rw [hkind] at hsame
          exact ⟨mo, List.mem_cons_self, (Option.some.inj hsame).symm⟩
        | _ => cases hmodifier
    · have hrest : (seen.after t).redirect = false := by
        have hhas : (seen.after t).has .redirect = false := by
          rw [hafter]
          simpa [isRedirect, Seen.has, hnone] using ht
        exact hhas
      rw [List.find?_cons_of_neg ht, ← ih hrest hs]
      cases o with
      | modifier mo faults ws =>
        have hother : mo.kind ≠ .redirect := by
          intro hredirect
          have hsame := (kind_of_modifier ho).1
          rw [hredirect] at hsame
          exact ht (beq_iff_eq.mpr hsame)
        simp [Outcome.modifier?, hother]
      | _ => rfl

/-! ## Warnings -/

/-- A warning about the policy as a whole, and not about one of the terms or about the lookups. -/
def isPolicy : Warning → Bool
  | .unreachable _ | .redirectIgnored | .noPolicy => true
  | _ => false

theorem readTerm_warnings [Packages] (h : readTerm seen token = .ok o) : ∀ w ∈ o.warnings, isPolicy w = false := by
  have hmechanism : ∀ k target, ∀ w ∈ mechanismWarnings token k target, isPolicy w = false := by
    intro k target w hw
    unfold mechanismWarnings at hw
    rcases List.mem_append.mp hw with hw | hw
    all_goals
      split at hw
      · rw [List.mem_singleton.mp hw]; rfl
      · cases hw
  cases o with
  | rejected t reason => simp [Outcome.warnings]
  | mechanism m faults ws =>
    obtain ⟨w, -, hread⟩ := readFrom_of_mechanism h
    unfold readMechanism at hread
    dsimp only at hread
    repeat' split at hread
    all_goals cases hread
    exact hmechanism _ _
  | modifier mo faults ws =>
    unfold readTerm readMechanism readModifier at h
    dsimp only at h
    repeat' split at h
    all_goals cases h
    all_goals simp [Outcome.warnings, isPolicy]

theorem lookupWarnings_not_policy (total : Int) : ∀ w ∈ lookupWarnings total, isPolicy w = false := by
  intro w hw
  unfold lookupWarnings at hw
  repeat' split at hw
  all_goals simp_all [isPolicy]

theorem mem_policyWarnings [Packages] (h : readTerms seen ts = .ok os) (isValid : Bool) {w : Warning} :
    w ∈ policyWarnings isValid ts os ↔ (w = .unreachable (unreached ts) ∧ unreached ts ≠ []) ∨
      (w = .redirectIgnored ∧ ts.any isRedirect = true ∧ ts.any spellsAll = true) ∨
      (w = .noPolicy ∧ isValid = true ∧ ts.any isRedirect = false ∧ ts.any spellsAll = false) := by
  have hredirect : (ts.any fun t => modifierKind? t == some .redirect) = ts.any isRedirect := rfl
  unfold policyWarnings
  rw [unreachable_eq h, any_isAll h, hredirect]
  by_cases hnone : unreached ts = []
  all_goals cases ts.any isRedirect <;> cases ts.any spellsAll <;> cases isValid <;> simp [hnone]

/-- About the policy a record is warned only as a whole. -/
theorem mem_warnings [Packages] {record : String} {r : Record} (h : read record = .ok r) {w : Warning}
    (hw : isPolicy w = true) : w ∈ r.warnings ↔ (w = .unreachable (unreached (terms record)) ∧ unreached (terms record) ≠ []) ∨
      (w = .redirectIgnored ∧ (terms record).any isRedirect = true ∧ (terms record).any spellsAll = true) ∨
      (w = .noPolicy ∧ r.isValid = true ∧ (terms record).any isRedirect = false ∧ (terms record).any spellsAll = false) := by
  obtain ⟨os, hread, rfl⟩ := read_ok h
  rw [terms, ← mem_policyWarnings hread]
  have hterm : w ∉ os.flatMap Outcome.warnings := by
    intro hmem
    obtain ⟨o, ho, hmem⟩ := List.mem_flatMap.mp hmem
    obtain ⟨seen, token, hterm⟩ := exists_readTerm_of_mem hread ho
    rw [readTerm_warnings hterm w hmem] at hw
    cases hw
  have hlookups : ∀ total, w ∉ lookupWarnings total := by
    intro total hmem
    rw [lookupWarnings_not_policy total w hmem] at hw
    cases hw
  simp [assemble, hterm, hlookups]

/-- Among the mechanisms there is an `all`. -/
def HasAll (r : Record) : Prop := ∃ m ∈ r.mechanisms, m.kind = .all

/-- Among the modifiers there is a redirect. -/
def HasRedirect (r : Record) : Prop := ∃ mo ∈ r.modifiers, mo.kind = .redirect

section

variable [Packages] {record : String} {r : Record} (h : read record = .ok r)
include h

theorem countP_mechanisms : r.mechanisms.countP (·.kind == .all) = (terms record).countP spellsAll := by
  obtain ⟨os, hread, rfl⟩ := read_ok h
  exact countP_all hread

theorem hasAll_iff : r.HasAll ↔ (terms record).any spellsAll = true := by
  have hcount := countP_mechanisms h
  have hpos : r.HasAll ↔ 0 < r.mechanisms.countP (·.kind == .all) := by
    rw [List.countP_pos_iff]
    simp [HasAll]
  rw [hpos, hcount, List.countP_pos_iff, List.any_eq_true]

theorem hasRedirect_iff : r.HasRedirect ↔ ∃ token, (terms record).find? isRedirect = some token ∧ Stands token := by
  obtain ⟨os, hread, rfl⟩ := read_ok h
  exact hasRedirect_readTerms rfl hread

theorem unreachable_mem_warnings (ts : List String) :
    .unreachable ts ∈ r.warnings ↔ ts ≠ [] ∧ ts = unreached (terms record) := by
  rw [mem_warnings h rfl]
  simp only [Warning.unreachable.injEq, reduceCtorEq, false_and, or_false]
  constructor
  · intro hsame
    exact ⟨by rw [hsame.1]; exact hsame.2, hsame.1⟩
  · intro hsame
    exact ⟨hsame.2, by rw [← hsame.2]; exact hsame.1⟩

theorem redirectIgnored_mem_warnings : .redirectIgnored ∈ r.warnings ↔ r.HasAll ∧ (terms record).any isRedirect = true := by
  rw [mem_warnings h rfl, hasAll_iff h]
  simp only [reduceCtorEq, false_and, false_or, or_false, true_and]
  exact and_comm

theorem noPolicy_mem_warnings (hvalid : r.isValid = true) :
    .noPolicy ∈ r.warnings ↔ ¬r.HasAll ∧ (terms record).any isRedirect = false := by
  rw [mem_warnings h rfl, hasAll_iff h, Bool.not_eq_true]
  simp only [reduceCtorEq, false_and, false_or, true_and, hvalid]
  exact and_comm

end

/-- A valid record is warned that it has no policy if it has no `all` among its mechanisms and none of its terms is a
redirect, read or not, and that the redirect is ignored if it has an `all` and one of its terms is a redirect. So both
warnings agree with its mechanisms and its modifiers exactly if its first redirect, if it has one, stands. The `all`s
among the mechanisms are the terms that spell the word, and the mechanisms behind the first of them are listed in order. -/
theorem policy_warnings_agree_iff [Packages] {record : String} {r : Record} (h : read record = .ok r)
    (hvalid : r.isValid = true) :
    ((.noPolicy ∈ r.warnings ↔ ¬r.HasAll ∧ ¬r.HasRedirect) ∧ (.redirectIgnored ∈ r.warnings ↔ r.HasAll ∧ r.HasRedirect) ↔
      ∀ token, (terms record).find? isRedirect = some token → Stands token) ∧
    (.noPolicy ∈ r.warnings ↔ ¬r.HasAll ∧ (terms record).any isRedirect = false) ∧
    (.redirectIgnored ∈ r.warnings ↔ r.HasAll ∧ (terms record).any isRedirect = true) ∧
    r.mechanisms.countP (·.kind == .all) = (terms record).countP spellsAll ∧
    ∀ ts, .unreachable ts ∈ r.warnings ↔ ts ≠ [] ∧ ts = unreached (terms record) := by
  have hnoPolicy := noPolicy_mem_warnings h hvalid
  have hignored := redirectIgnored_mem_warnings h
  refine ⟨?_, hnoPolicy, hignored, countP_mechanisms h, unreachable_mem_warnings h⟩
  rw [hnoPolicy, hignored, hasRedirect_iff h]
  cases hfirst : (terms record).find? isRedirect with
  | none =>
    have hany : (terms record).any isRedirect = false := by
      rw [List.any_eq_false]
      exact List.find?_eq_none.mp hfirst
    simp [hany]
  | some token =>
    have hany : (terms record).any isRedirect = true :=
      List.any_eq_true.mpr ⟨token, List.mem_of_find?_eq_some hfirst, List.find?_some hfirst⟩
    by_cases hall : r.HasAll <;> simp [hany, hall]

/-- Behind the first `all` stand a redirect, a mechanism, a term that is neither, and another `all`. -/
theorem policy_warnings_agree_iff_spelled :
    ∃ r, read "v=spf1 ~ALL redirect=a.example mx:b.example =x -all" = .ok r ∧ r.isValid = true ∧
      (.noPolicy ∈ r.warnings ↔ ¬r.HasAll ∧ ¬r.HasRedirect) ∧ (.redirectIgnored ∈ r.warnings ↔ r.HasAll ∧ r.HasRedirect) ∧
      .redirectIgnored ∈ r.warnings ∧ r.mechanisms.countP (·.kind == .all) = 2 ∧
      .unreachable ["mx:b.example", "-all"] ∈ r.warnings := by
  obtain ⟨r, h⟩ : ∃ r, read "v=spf1 ~ALL redirect=a.example mx:b.example =x -all" = .ok r := exists_read (by decide +kernel)
  have hvalid : r.isValid = true := by
    have hread : (read "v=spf1 ~ALL redirect=a.example mx:b.example =x -all").toOption.map (·.isValid) = some true := by decide +kernel
    rw [h] at hread
    exact Option.some.inj hread
  have hterms : terms "v=spf1 ~ALL redirect=a.example mx:b.example =x -all"
      = ["~ALL", "redirect=a.example", "mx:b.example", "=x", "-all"] := by decide +kernel
  have hfirst : ["~ALL", "redirect=a.example", "mx:b.example", "=x", "-all"].find? isRedirect = some "redirect=a.example" := by
    decide +kernel
  have hstands : Stands "redirect=a.example" := ⟨by decide +kernel, "redirect", "a.example", by decide +kernel, by decide⟩
  obtain ⟨hagree, -, hignored, hcount, hunreached⟩ := policy_warnings_agree_iff h hvalid
  rw [hterms] at hagree hignored hcount
  have hboth := hagree.mpr fun token htoken => by
    rw [hfirst, Option.some.injEq] at htoken
    rw [← htoken]
    exact hstands
  have htwo : r.mechanisms.countP (·.kind == .all) = 2 := hcount.trans (by decide +kernel)
  have hall : r.HasAll := by
    obtain ⟨m, hm, hkind⟩ := List.countP_pos_iff.mp (by rw [htwo]; exact Nat.two_pos)
    exact ⟨m, hm, beq_iff_eq.mp hkind⟩
  refine ⟨r, h, hvalid, hboth.1, hboth.2, hignored.mpr ⟨hall, by decide +kernel⟩, htwo, (hunreached _).mpr ⟨by decide, ?_⟩⟩
  rw [hterms]
  decide +kernel

/-- A redirect without a value is rejected, and the record that has nothing else is not warned of. -/
theorem empty_redirect_hides_missing_policy :
    ∃ r, read "v=spf1 redirect=" = .ok r ∧ r.isValid = true ∧ ¬r.HasAll ∧ ¬r.HasRedirect ∧ .noPolicy ∉ r.warnings := by
  have hread : (read "v=spf1 redirect=").toOption.map (fun r => (r.isValid, r.mechanisms, r.modifiers, r.warnings))
      = some (true, [], [], []) := by decide +kernel
  obtain ⟨r, h⟩ : ∃ r, read "v=spf1 redirect=" = .ok r := exists_read (by decide +kernel)
  rw [h] at hread
  simp only [Except.toOption, Option.map_some, Option.some.injEq, Prod.mk.injEq] at hread
  obtain ⟨hvalid, hmechanisms, hmodifiers, hwarnings⟩ := hread
  refine ⟨r, h, hvalid, ?_, ?_, ?_⟩
  · simp [HasAll, hmechanisms]
  · simp [HasRedirect, hmodifiers]
  · simp [hwarnings]

end SenderPolicy.Record
