/-
  SenderPolicy.Proofs.Policy.Verdicts — whom a safe suggestion lets pass.

  A flattening collects the networks of all terms before the first `all` and takes no notice of their
  qualifiers, so an address that a record excludes ahead of a wider network is among the addresses of a
  safe suggestion. Where every record that is reached passes what it matches first, the suggestion lets no
  address pass that the include would not: the verdict on each address that it covers is `pass`.
  - `verdict_of_match`: a match before `all` gives the qualifier of the first one.
  - `settles_of_mem`: a clean visit finds only networks that pass.
  - `safe_suggestion_passes`: so does a safe suggestion.
  - `excluded_address_is_suggested`: an address that fails is among those of a safe suggestion.
-/

import SenderPolicy.Proofs.Policy.Coverage

namespace SenderPolicy.Policy

open Dns Flatten
open Branch (Clean)
open Mechanism (Kind)

variable {limits : Limits} {ask : Ask Id} {room : Nat} {v : Visit} {record : String} {hosts : List Branch}
variable {family : Family} {value : Nat}

/-! ## The first match -/

theorem find?_takeWhile {α : Type} {p q : α → Bool} {as : List α} {a : α} (h : (as.takeWhile q).find? p = some a) :
    as.find? p = some a := by
  rw [← List.takeWhile_append_dropWhile (p := q) (l := as), List.find?_append, h]
  rfl

/-- Every term before `all` that matches first has the qualifier `pass`. -/
def PassesFirst (ask : Ask Id) (family : Family) (value : Nat) (name : String) : Prop :=
  ∃ enough, ∀ level ≥ enough, ∀ t, firstMatch? ask family value level name = some t → t.qualifier = .pass

theorem verdict_of_match {name : String} {level : Nat} {t : Term} (hrecord : record? ask name = some record)
    (ht : t ∈ counted record)
    (hmatch : Matches ask family value (verdict ask family value level) (Domain.key name) t = true)
    (hpass : ∀ t, firstMatch? ask family value level name = some t → t.qualifier = .pass) :
    verdict ask family value (level + 1) name = some .pass := by
  have hsome : ((counted record).find?
      (Matches ask family value (verdict ask family value level) (Domain.key name))).isSome = true :=
    List.find?_isSome.mpr ⟨t, ht, hmatch⟩
  obtain ⟨u, hu⟩ := Option.isSome_iff_exists.mp hsome
  have hq : u.qualifier = .pass := hpass u (by unfold firstMatch?; rw [hrecord, Option.bind_some, hu])
  unfold verdict
  rw [hrecord]
  dsimp only
  rw [find?_takeWhile hu]
  exact congrArg some hq

/-- Without a match before `all` the redirect decides, if there is one. -/
theorem verdict_of_redirect {name target : String} {level : Nat} (hrecord : record? ask name = some record)
    (hredirect : redirect? record = some target)
    (hpass : ∀ t, firstMatch? ask family value level name = some t → t.qualifier = .pass)
    (htarget : verdict ask family value level (Domain.key target) = some .pass) :
    verdict ask family value (level + 1) name = some .pass := by
  cases hfirst : (counted record).find? (Matches ask family value (verdict ask family value level) (Domain.key name)) with
  | some t =>
    exact verdict_of_match hrecord (List.mem_of_find?_eq_some hfirst) (List.find?_some hfirst) hpass
  | none =>
    have hwhole : counted record = mechanisms record := by
      unfold redirect? at hredirect
      split at hredirect
      · cases hredirect
      · rename_i hall
        refine List.takeWhile_eq_self_iff.mpr fun t ht => ?_
        rw [Bool.not_eq_true, List.any_eq_false] at hall
        simpa using hall t ht
    rw [hwhole] at hfirst
    unfold verdict
    rw [hrecord]
    dsimp only
    rw [hfirst, hredirect]
    exact htarget

/-! ## Clean visits -/

/-- No record that is reached has a modifier that is named like a mechanism. -/
def PlainModifiers (ask : Ask Id) (name : String) : Prop :=
  ∀ last record, Reaches ask name last → record? ask last = some record →
    ∀ m ∈ modifierNames record, m ∉ Record.mechanismNames

theorem matches_of_networksOf {domain : String} {t : Term} {n : Network} (h : n ∈ networksOf ask domain t)
    (hcovers : n.Covers family value) (below : String → Option Qualifier) :
    Matches ask family value below domain t = true := by
  have hany : ((networksOf ask domain t).any fun n => decide (n.Covers family value)) = true :=
    List.any_eq_true.mpr ⟨n, h, decide_eq_true hcovers⟩
  unfold Matches
  rcases kind_of_networksOf h with hk | hk | hk | hk <;> rw [hk] <;> exact hany

theorem kind_of_include? {t : Term} {name : String} (h : include? t = some name) : Kind.ofName t.name = .incl := by
  unfold include? at h
  split at h
  · assumption
  · cases h

theorem mem_onward_of_mem_nested (hc : Clean ((planOf record).branch v.domain))
    (hplain : ∀ m ∈ modifierNames record, m ∉ Record.mechanismNames) {name : String}
    (h : name ∈ ((planOf record).branch v.domain).nested) :
    (∃ t ∈ counted record, include? t = some name) ∨ ∃ target, redirect? record = some target ∧ name = Domain.key target := by
  have hall : "all" ∉ modifierNames record := fun hm => hplain _ hm (by decide)
  rw [nested_planOf hc, redirect_planOf hall] at h
  rcases List.mem_append.mp h with h | h
  · obtain ⟨t, ht, hi⟩ := List.mem_filterMap.mp h
    refine Or.inl ⟨t, mem_counted_of_mem_live hplain (Record.goesAsMechanism_iff.mpr ?_) ht, hi⟩
    rw [kind_of_include? hi]
    decide
  · obtain ⟨target, ht, rfl⟩ := List.mem_map.mp h
    exact Or.inr ⟨target, Option.mem_toList.mp ht, rfl⟩

/-- A clean visit finds only networks that its record lets pass. -/
theorem settles_of_mem (h : Clean (walk limits ask room v)) (hplain : PlainModifiers ask v.name)
    (hpass : ∀ last, Reaches ask v.name last → PassesFirst ask family value last) {n : Network}
    (hn : n ∈ (walk limits ask room v).networks) (hcovers : n.Covers family value) :
    Settles ask family value v.name (some .pass) := by
  induction room generalizing v with
  | zero => exact absurd h (Branch.not_clean_failure _ _)
  | succ room ih =>
    obtain ⟨below, record, hosts, hroom, hvisit⟩ := walk_clean h
    obtain rfl := Nat.succ.inj hroom
    have hrecord := hvisit.record?
    have hnames := hplain v.name record (.here _) hrecord
    obtain ⟨enough, henough⟩ := hpass v.name (.here _)
    rcases hvisit.mem_networks.mp hn with ⟨t, ht, hn⟩ | ⟨child, hchild, hn⟩
    · -- the term matches at every level
      have hcounted : t ∈ counted record := by
        refine mem_counted_of_mem_live hnames (Record.goesAsMechanism_iff.mpr ?_) ht
        rcases kind_of_networksOf hn with hk | hk | hk | hk <;> rw [hk] <;> decide
      refine ⟨enough + 1, fun level hlevel => ?_⟩
      obtain ⟨level, rfl⟩ : ∃ k, level = k + 1 := ⟨level - 1, by omega⟩
      exact verdict_of_match hrecord hcounted (matches_of_networksOf hn hcovers _) (henough level (by omega))
    · -- the record that is gone on to passes from some level on
      obtain ⟨name, hname, rfl⟩ := List.mem_map.mp hchild
      have hnested : name ∈ ((planOf record).branch v.domain).nested := by
        split at hname
        · exact hname
        · cases hname
      have honward := mem_onward_of_mem_nested hvisit.ownClean hnames hnested
      have hreach : name ∈ onward record := by
        rcases honward with ⟨t, ht, hi⟩ | ⟨target, hr, rfl⟩
        · exact List.mem_append_left _ (List.mem_filterMap.mpr ⟨t, ht, hi⟩)
        · exact List.mem_append_right _ (List.mem_map_of_mem (Option.mem_toList.mpr hr))
      obtain ⟨enough', henough'⟩ := ih (v := v.next name) (hvisit.below _ hchild)
        (fun last r hl hr => hplain last r (.onward hrecord hreach hl) hr)
        (fun last hl => hpass last (.onward hrecord hreach hl)) hn
      refine ⟨max enough enough' + 1, fun level hlevel => ?_⟩
      obtain ⟨level, rfl⟩ : ∃ k, level = k + 1 := ⟨level - 1, by omega⟩
      have hbelow : verdict ask family value level name = some .pass := henough' level (by omega)
      have hfirst := henough level (by omega)
      rcases honward with ⟨t, ht, hi⟩ | ⟨target, hr, rfl⟩
      · refine verdict_of_match hrecord ht ?_ hfirst
        simp only [Matches, kind_of_include? hi, hi, hbelow, Option.any_some, beq_self_eq_true]
      · exact verdict_of_redirect hrecord hr hfirst hbelow

/-- Where every record that is reached passes what it matches first, a safe suggestion lets no address pass
that its include would not. -/
theorem safe_suggestion_passes {r : Record} {depth : Int} {domains : List String} {share : Option Number}
    {ss : List Advice.Suggestion} (h : Advice.suggestions r (flatten limits ask depth domains).run share = .ok ss)
    {s : Advice.Suggestion} (hs : s ∈ ss) (hsafe : s.isSafe = true) {name : String}
    (hname : Advice.target? s.mechanism = some name) (hplain : PlainModifiers ask name)
    (hpass : ∀ last, Reaches ask name last → PassesFirst ask family value last)
    (hcovered : Covered s.ips family value) : Settles ask family value name (some .pass) := by
  obtain ⟨domain, hdomain, hclean, hips⟩ := Advice.safe_suggestion_clean h hs hsafe
  rw [hname] at hdomain
  cases hdomain
  change Clean (walk limits ask (roomAt limits depth) ⟨depth, [], name⟩) at hclean
  change s.ips = (walk limits ask (roomAt limits depth) ⟨depth, [], name⟩).report.ips at hips
  rw [hips] at hcovered
  obtain ⟨n, hn, hcovers⟩ := (covered_report hclean).mp hcovered
  exact settles_of_mem hclean hplain hpass hn hcovers

/-! ## An excluded address -/

theorem passesFirst_zone {table : List (Question × List String)} {name : String}
    (h : ∀ entry ∈ table, ∀ text ∈ entry.2, ∀ t ∈ counted (Record.unquote text), t.qualifier = .pass) :
    PassesFirst (zone table) family value name := by
  refine ⟨0, fun level _ t ht => ?_⟩
  obtain ⟨record, hrecord, hfirst⟩ := Option.bind_eq_some_iff.mp ht
  obtain ⟨entry, hentry, text, htext, rfl⟩ := record?_zone hrecord
  exact h entry hentry text htext t (List.mem_of_find?_eq_some hfirst)

theorem plainModifiers_zone {table : List (Question × List String)} {name : String}
    (h : ∀ entry ∈ table, ∀ text ∈ entry.2, ∀ m ∈ modifierNames (Record.unquote text), m ∉ Record.mechanismNames) :
    PlainModifiers (zone table) name := by
  intro last record _ hrecord
  obtain ⟨entry, hentry, text, htext, rfl⟩ := record?_zone hrecord
  exact h entry hentry text htext

theorem safe_suggestion_passes_chain :
    ∃ ss s, Advice.suggestions includer (flatten ⟨true, 3, 30, 8⟩ (zone chain) 1 ["b.example"]).run none = .ok ss ∧
      s ∈ ss ∧ s.isSafe = true ∧ Advice.target? s.mechanism = some "b.example" ∧
      PlainModifiers (zone chain) "b.example" ∧
      (∀ last, Reaches (zone chain) "b.example" last → PassesFirst (zone chain) .v4 0xc0000202 last) ∧
      Covered s.ips .v4 0xc0000202 ∧ Settles (zone chain) .v4 0xc0000202 "b.example" (some .pass) := by
  have hss := eq_ok_of_toOption (show
      (Advice.suggestions includer (flatten ⟨true, 3, 30, 8⟩ (zone chain) 1 ["b.example"]).run none).toOption
        = some [chainSuggestion 2 ["192.0.2.1", "192.0.2.2"] "v=spf1 ip4:192.0.2.1 ip4:192.0.2.2 -all"] by decide +kernel)
  have hplain : PlainModifiers (zone chain) "b.example" := plainModifiers_zone (by decide +kernel)
  have hpass : ∀ last, Reaches (zone chain) "b.example" last → PassesFirst (zone chain) .v4 0xc0000202 last :=
    fun _ _ => passesFirst_zone (by decide +kernel)
  have hcovered : Covered ["192.0.2.1", "192.0.2.2"] .v4 0xc0000202 := by decide +kernel
  refine ⟨_, _, hss, List.mem_singleton_self _, rfl, by decide +kernel, hplain, hpass, hcovered, ?_⟩
  exact safe_suggestion_passes hss (List.mem_singleton_self _) rfl (by decide +kernel) hplain hpass hcovered

/-- The record of the include takes an address out of a network. -/
def excluding : List (Question × List String) :=
  [(⟨"b.example", "TXT"⟩, ["v=spf1 -ip4:192.0.2.1 ip4:192.0.2.0/24 -all"])]

theorem excluded_address_fails : Settles (zone excluding) .v4 0xc0000201 "b.example" (some .fail) := by
  have hrecord : record? (zone excluding) "b.example" = some "v=spf1 -ip4:192.0.2.1 ip4:192.0.2.0/24 -all" := by
    decide +kernel
  have hterms : mechanisms "v=spf1 -ip4:192.0.2.1 ip4:192.0.2.0/24 -all"
      = [⟨"ip4", .fail, some "192.0.2.1"⟩, ⟨"ip4", .pass, some "192.0.2.0/24"⟩, ⟨"all", .fail, none⟩] := by
    decide +kernel
  obtain ⟨n, hn, hcovers⟩ : ∃ n ∈ networksOf (zone excluding) (Domain.key "b.example") ⟨"ip4", .fail, some "192.0.2.1"⟩,
      n.Covers .v4 0xc0000201 := by decide +kernel
  refine ⟨1, fun level hlevel => ?_⟩
  obtain ⟨level, rfl⟩ : ∃ k, level = k + 1 := ⟨level - 1, by omega⟩
  unfold verdict
  rw [hrecord]
  dsimp only
  rw [hterms, List.find?_cons, matches_of_networksOf hn hcovers]

/-- An address that the record of the include excludes is among those of a safe suggestion. -/
theorem excluded_address_is_suggested :
    ∃ ss s, Advice.suggestions includer (flatten ⟨true, 3, 30, 8⟩ (zone excluding) 1 ["b.example"]).run none = .ok ss ∧
      s ∈ ss ∧ s.isSafe = true ∧ Advice.target? s.mechanism = some "b.example" ∧ Covered s.ips .v4 0xc0000201 ∧
      ¬ Settles (zone excluding) .v4 0xc0000201 "b.example" (some .pass) := by
  have hss := eq_ok_of_toOption (show
      (Advice.suggestions includer (flatten ⟨true, 3, 30, 8⟩ (zone excluding) 1 ["b.example"]).run none).toOption
        = some [chainSuggestion 1 ["192.0.2.0/24", "192.0.2.1"] "v=spf1 ip4:192.0.2.0/24 ip4:192.0.2.1 -all"] by
      decide +kernel)
  refine ⟨_, _, hss, List.mem_singleton_self _, rfl, by decide +kernel, by decide +kernel, fun hpass => ?_⟩
  exact absurd (excluded_address_fails.unique hpass) (by decide)

end SenderPolicy.Policy
