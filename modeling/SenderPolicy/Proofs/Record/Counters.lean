/-
  SenderPolicy.Proofs.Record.Counters — the lookups of a record, counted in every way.

  The lookups are added up when a record is read, listed term by term, and counted once more by kind. A mechanism that
  was read costs one lookup if it is of one of five kinds, and nothing else; a modifier costs one if it is a redirect,
  of which a record has at most one. So every count is a number of terms, and as each kind has a name of its own, no
  term is counted twice or left out.
  - `charged_of_read`: what the terms of a record that was read cost.
  - `breakdown_total`: the list of the terms adds up to the sum of the lookups, whatever these are.
  - `spentOn_costly`, `spentOn_redirect`: what is counted by name is the number of terms of the kind.
  - `counters_agree`: all the counts of a record.
-/

import SenderPolicy.Installed
import SenderPolicy.Proofs.Advice.QuotedStrings
import SenderPolicy.Proofs.Record.Independence
import SenderPolicy.Record.Budget

namespace SenderPolicy.Budget

open Mechanism (Kind)
open Sequence (total)

variable {r : Record}

/-! ## What terms cost -/

/-- The kinds of mechanisms that cost a lookup. -/
def costly : List Kind := [.incl, .a, .mx, .ptr, .exist]

def isCostly (m : Mechanism) : Bool := costly.contains m.kind

def isRedirect (mo : Modifier) : Bool := mo.kind == .redirect

theorem lookups?_standard : ∀ k ∈ Kind.standard, k.lookups? = some (if costly.contains k then 1 else 0) := by decide

theorem lookups_modifierKind (k : Modifier.Kind) : (k.lookups : Int) = if k == .redirect then 1 else 0 := by
  cases k <;> rfl

/-- A name is that of one kind only. -/
theorem name_costly : ∀ c ∈ costly, ∀ k ∈ Kind.standard, k.name = c.name ↔ k = c := by decide

theorem redirect_not_costly : ∀ c ∈ costly, Modifier.Kind.redirect.name ≠ c.name := by decide

theorem standard_not_redirect : ∀ k ∈ Kind.standard, k.name ≠ "redirect" := by decide

/-- The terms cost what their kinds do, and no redirect stands behind another one. -/
structure Charged (r : Record) : Prop where
  standard : ∀ m ∈ r.mechanisms, m.kind ∈ Kind.standard
  mechanisms : ∀ m ∈ r.mechanisms, m.lookups = if isCostly m then 1 else 0
  modifiers : ∀ mo ∈ r.modifiers, mo.lookups = if isRedirect mo then 1 else 0
  redirects : r.modifiers.countP isRedirect ≤ 1
  total : r.totalLookups = Record.lookupsOf r.mechanisms r.modifiers

theorem lookups_of_modifier [Packages] {seen : Record.Seen} {token : String} {mo : Modifier} {faults : List MacroString.Fault}
    {ws : List Warning} (h : Record.readTerm seen token = .ok (.modifier mo faults ws)) : mo.lookups = mo.kind.lookups := by
  unfold Record.readTerm Record.readMechanism Record.readModifier at h
  dsimp only at h
  repeat' split at h
  all_goals cases h
  all_goals rfl

theorem charged_of_read [Packages] {record : String} (h : Record.read record = .ok r) : Charged r := by
  have hread := Record.isRead_of_read h
  obtain ⟨os, hos, rfl⟩ := Record.read_ok h
  have hstandard : ∀ m ∈ os.filterMap Record.Outcome.mechanism?, m.kind ∈ Kind.standard := by
    intro m hm
    obtain ⟨token, w, -, hfrom⟩ := (hread m hm).readFrom
    exact hfrom.standard
  refine ⟨hstandard, ?_, ?_, ?_, rfl⟩
  · intro m hm
    obtain ⟨_, _, _, _, -, hterm⟩ := hread m hm
    obtain ⟨w, -, hmechanism⟩ := Record.readFrom_of_mechanism hterm
    have hcost := Record.readMechanism_lookups hmechanism
    rw [lookups?_standard m.kind (hstandard m hm)] at hcost
    rw [← Option.some.inj hcost]
    unfold isCostly
    split <;> rfl
  · intro mo hmo
    obtain ⟨o, ho, hmo⟩ := List.mem_filterMap.mp hmo
    obtain ⟨seen, token, hterm⟩ := Record.exists_readTerm_of_mem hos ho
    cases o with
    | modifier mo' faults ws =>
      cases hmo
      rw [lookups_of_modifier hterm]
      exact lookups_modifierKind mo.kind
    | _ => cases hmo
  · exact Record.count_modifiers (k := .redirect) List.mem_cons_self hos

/-! ## Counting -/

/-- Where terms cost one lookup or none, the lookups of some terms are the number of those that cost one. -/
theorem total_filter_eq_countP {α : Type} {f : α → Int} {p : α → Bool} (q : α → Bool) {as : List α}
    (h : ∀ a ∈ as, f a = if p a then 1 else 0) : total f (as.filter q) = as.countP fun a => p a && q a := by
  induction as with
  | nil => rfl
  | cons a as ih =>
    obtain ⟨ha, has⟩ := List.forall_mem_cons.mp h
    rw [List.filter_cons, List.countP_cons]
    cases hq : q a with
    | false => simp [ih has]
    | true => cases hp : p a <;> simp [total, ih has, ha, hp, Int.add_comm]

theorem total_eq_countP {α : Type} {f : α → Int} {p : α → Bool} {as : List α} (h : ∀ a ∈ as, f a = if p a then 1 else 0) :
    total f as = as.countP p := by
  have htotal := total_filter_eq_countP (fun _ => true) h
  simpa using htotal

theorem filter_costing {α : Type} {f : α → Int} {p : α → Bool} {as : List α} (h : ∀ a ∈ as, f a = if p a then 1 else 0) :
    (as.filter fun a => f a ≠ 0) = as.filter p := by
  refine List.filter_congr fun a ha => ?_
  rw [h a ha]
  cases p a <;> rfl

/-- The list of the terms adds up to the sum of the lookups. -/
theorem breakdown_total (r : Record) : (breakdown r).total = Record.lookupsOf r.mechanisms r.modifiers := by
  show total (·.lookups) (entries r) = _
  unfold entries Record.lookupsOf
  rw [Sequence.total_append, Sequence.total_map, Sequence.total_map]
  exact congrArg₂ (· + ·) (Sequence.total_filter _ _) (Sequence.total_filter _ _)

/-- A mechanism that costs a lookup is of one of the five kinds. -/
theorem countP_costly (ms : List Mechanism) : ms.countP isCostly = ms.countP (·.kind == .incl) + ms.countP (·.kind == .a)
    + ms.countP (·.kind == .mx) + ms.countP (·.kind == .ptr) + ms.countP (·.kind == .exist) := by
  have hone : ∀ m : Mechanism, (if isCostly m then 1 else 0) = (if m.kind == .incl then 1 else 0) + (if m.kind == .a then 1 else 0)
      + (if m.kind == .mx then 1 else 0) + (if m.kind == .ptr then 1 else 0) + (if m.kind == .exist then 1 else 0) := by
    intro m
    unfold isCostly
    cases m.kind <;> rfl
  induction ms with
  | nil => rfl
  | cons m ms ih =>
    simp only [List.countP_cons, ih, hone m]
    omega

namespace Charged

theorem spentOn_eq (h : Charged r) (name : String) : spentOn r name =
    r.mechanisms.countP (fun m => isCostly m && m.kind.name == name)
      + r.modifiers.countP (fun mo => isRedirect mo && mo.kind.name == name) := by
  unfold spentOn
  rw [total_filter_eq_countP _ h.mechanisms, total_filter_eq_countP _ h.modifiers]

/-- What is spent on a kind of mechanisms is their number. -/
theorem spentOn_costly (h : Charged r) {c : Kind} (hc : c ∈ costly) : spentOn r c.name = r.mechanisms.countP (·.kind == c) := by
  have hmechanisms : r.mechanisms.countP (fun m => isCostly m && m.kind.name == c.name) = r.mechanisms.countP (·.kind == c) := by
    refine List.countP_congr fun m hm => ?_
    have hname := name_costly c hc m.kind (h.standard m hm)
    simp only [Bool.and_eq_true, beq_iff_eq, hname]
    refine and_iff_right_of_imp ?_
    rintro rfl
    exact List.contains_iff_mem.mpr hc
  have hmodifiers : r.modifiers.countP (fun mo => isRedirect mo && mo.kind.name == c.name) = 0 := by
    rw [List.countP_eq_zero]
    intro mo _ hmo
    simp only [isRedirect, Bool.and_eq_true, beq_iff_eq] at hmo
    rw [hmo.1] at hmo
    exact redirect_not_costly c hc hmo.2
  rw [h.spentOn_eq, hmechanisms, hmodifiers]
  exact Int.add_zero _

theorem spentOn_redirect (h : Charged r) : spentOn r "redirect" = r.modifiers.countP isRedirect := by
  have hmechanisms : r.mechanisms.countP (fun m => isCostly m && m.kind.name == "redirect") = 0 := by
    rw [List.countP_eq_zero]
    intro m hm hboth
    rw [Bool.and_eq_true, beq_iff_eq] at hboth
    exact standard_not_redirect m.kind (h.standard m hm) hboth.2
  have hmodifiers : r.modifiers.countP (fun mo => isRedirect mo && mo.kind.name == "redirect") = r.modifiers.countP isRedirect := by
    refine List.countP_congr fun mo _ => ?_
    simp only [isRedirect, Bool.and_eq_true, beq_iff_eq]
    refine and_iff_left_of_imp ?_
    intro hkind
    rw [hkind]
    rfl
  rw [h.spentOn_eq, hmechanisms, hmodifiers]
  exact Int.zero_add _

theorem total_eq (h : Charged r) : (breakdown r).total = r.mechanisms.countP isCostly + r.modifiers.countP isRedirect := by
  rw [breakdown_total, Record.lookupsOf, total_eq_countP h.mechanisms, total_eq_countP h.modifiers]

theorem entries_eq (h : Charged r) : entries r = (r.mechanisms.filter isCostly).map (fun m => ⟨m.text, m.lookups, false⟩)
    ++ (r.modifiers.filter isRedirect).map (fun mo => ⟨mo.text, mo.lookups, true⟩) := by
  unfold entries
  rw [filter_costing h.mechanisms, filter_costing h.modifiers]

/-- The redirect of a record, if it has one. -/
theorem exists_redirect (h : Charged r) : ∃ redirect : Option Modifier, r.modifiers.filter isRedirect = redirect.toList := by
  have hone := h.redirects
  rw [List.countP_eq_length_filter] at hone
  generalize r.modifiers.filter isRedirect = found at hone
  cases found with
  | nil => exact ⟨none, rfl⟩
  | cons mo rest =>
    have hrest : rest = [] := List.length_eq_zero_iff.mp (by rw [List.length_cons] at hone; omega)
    exact ⟨some mo, by rw [hrest]; rfl⟩

end Charged

/-- Of a record that was read, the lookups that are listed add up to those that were counted when it was read and to
those that are counted by kind, and to the lookups of its validation. Each kind is counted as often as it occurs, and
each entry is one lookup: the mechanisms that cost one, in order, and the redirect if there is one. The record fails
exactly if there are more than ten lookups, or a problem. -/
theorem counters_agree [Packages] {record : String} (h : Record.read record = .ok r) :
    (breakdown r).total = r.totalLookups ∧
    (breakdown r).total = (breakdown r).includes + (breakdown r).a + (breakdown r).mx + (breakdown r).ptr
      + (breakdown r).existence + (breakdown r).redirect ∧
    ((breakdown r).includes = r.mechanisms.countP (·.kind == .incl) ∧ (breakdown r).a = r.mechanisms.countP (·.kind == .a) ∧
      (breakdown r).mx = r.mechanisms.countP (·.kind == .mx) ∧ (breakdown r).ptr = r.mechanisms.countP (·.kind == .ptr) ∧
      (breakdown r).existence = r.mechanisms.countP (·.kind == .exist) ∧
      (breakdown r).redirect = r.modifiers.countP (·.kind == .redirect)) ∧
    (∃ v, Advice.validate record = .ok v ∧ v.record.totalLookups = (breakdown r).total) ∧
    (breakdown r).total = (breakdown r).entries.length ∧
    (∃ redirect : Option Modifier, r.modifiers.filter (·.kind == .redirect) = redirect.toList ∧
      (breakdown r).entries.map (·.term)
        = (r.mechanisms.filter (costly.contains ·.kind)).map (·.text) ++ redirect.toList.map (·.text)) ∧
    ((breakdown r).compliance = .fail ↔ (breakdown r).total > 10 ∨ r.problems ≠ []) := by
  have hr := charged_of_read h
  have hkinds : ∀ c ∈ costly, spentOn r c.name = r.mechanisms.countP (·.kind == c) := fun c hc => hr.spentOn_costly hc
  simp only [costly, List.forall_mem_cons, List.not_mem_nil, false_implies, implies_true, and_true] at hkinds
  obtain ⟨hincl, ha, hmx, hptr, hexist⟩ := hkinds
  refine ⟨(breakdown_total r).trans hr.total.symm, ?_, ⟨hincl, ha, hmx, hptr, hexist, hr.spentOn_redirect⟩, ?_, ?_, ?_, ?_⟩
  · show _ = spentOn r Kind.incl.name + spentOn r Kind.a.name + spentOn r Kind.mx.name + spentOn r Kind.ptr.name
      + spentOn r Kind.exist.name + spentOn r "redirect"
    rw [hr.total_eq, countP_costly, hincl, ha, hmx, hptr, hexist, hr.spentOn_redirect]
    push_cast
    rfl
  · refine ⟨_, Advice.validate_of_read h, ?_⟩
    exact hr.total.trans (breakdown_total r).symm
  · show _ = ((entries r).length : Int)
    rw [hr.total_eq, hr.entries_eq, List.length_append, List.length_map, List.length_map, ← List.countP_eq_length_filter,
      ← List.countP_eq_length_filter]
    exact (Int.natCast_add _ _).symm
  · obtain ⟨redirect, hredirect⟩ := hr.exists_redirect
    refine ⟨redirect, hredirect, ?_⟩
    show (entries r).map (·.term) = _
    rw [hr.entries_eq, hredirect, List.map_append, List.map_map, List.map_map]
    rfl
  · show compliance (breakdown r).total (!r.problems.isEmpty) = .fail ↔ _
    rw [compliance_eq_fail]
    simp [limit]

/-- Mechanisms that cost a lookup and some that cost none, a term that is rejected, and both modifiers. -/
def mixed : String := "v=spf1 ?A/24 ip6:::1 mx//64 none exp=b.example PTR include:c.example a redirect=d.example -all"

theorem counters_agree_mixed :
    ∃ r, Record.read mixed = .ok r ∧ (breakdown r).total = 6 ∧ r.totalLookups = 6 ∧ (breakdown r).a = 2 ∧
      (breakdown r).entries.length = 6 ∧ (breakdown r).compliance = .fail := by
  have hread : (Record.read mixed).toOption.map
      (fun r => (r.totalLookups, r.mechanisms.countP (·.kind == .a), r.problems.isEmpty)) = some (6, 2, false) := by
    decide +kernel
  obtain ⟨r, h, hparts⟩ := Option.map_eq_some_iff.mp hread
  replace h := eq_ok_of_toOption h
  simp only [Prod.mk.injEq, List.isEmpty_eq_false_iff] at hparts
  obtain ⟨htotal, ha, hproblems⟩ := hparts
  obtain ⟨hsame, -, ⟨-, hcounted, -⟩, -, hlength, -, hfail⟩ := counters_agree h
  rw [htotal] at hsame
  rw [ha] at hcounted
  exact ⟨r, h, hsame, htotal, hcounted, by exact_mod_cast hlength.symm.trans hsame, hfail.mpr (.inr hproblems)⟩

end SenderPolicy.Budget
