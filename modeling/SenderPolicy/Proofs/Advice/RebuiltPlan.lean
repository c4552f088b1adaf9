/-
  SenderPolicy.Proofs.Advice.RebuiltPlan — the plan of a rebuilt record.

  A rebuilt record stops where the record stopped, since an `all` is never replaced and nothing that an
  include is replaced by is one. So what counts in it are the terms in place of the mechanisms before the
  first `all`. The modifiers stand behind the mechanisms now; that changes nothing, since what goes as
  a mechanism does not depend on them, and they are in the same order among themselves.
  - `filter_live_record`, `filter_live_text`: what goes as a mechanism before the first `all`.
  - `Rebuilt.redirect`: the redirect stays the same.
-/

import SenderPolicy.Proofs.Advice.Rebuilding
import SenderPolicy.Proofs.Flatten.PlanTerms

namespace SenderPolicy.Advice

open Policy Flatten
open Record (goesAsMechanism modifierTerm namedLikeMechanism)
open Mechanism (Kind)

/-- The mechanisms before the first `all`. -/
def beforeAll (ms : List Mechanism) : List Mechanism := ms.takeWhile fun m => m.kind != .all

/-- The first `all` and the mechanisms behind it. -/
def fromAll (ms : List Mechanism) : List Mechanism := ms.dropWhile fun m => m.kind != .all

theorem beforeAll_append_fromAll (ms : List Mechanism) : beforeAll ms ++ fromAll ms = ms :=
  List.takeWhile_append_dropWhile

variable {ts ts' : List Term} {t : Term} {m : Mechanism} {ms : List Mechanism} {resolved : Resolved}

/-! ## What goes as a mechanism -/

theorem goesAsMechanism_of_isAll (h : isAll t = true) : goesAsMechanism t = true := by
  rw [Record.goesAsMechanism_iff, beq_iff_eq.mp h]
  decide

theorem filter_live (ts : List Term) :
    (ts.takeWhile (!isAll ·)).filter goesAsMechanism = (ts.filter goesAsMechanism).takeWhile (!isAll ·) := by
  rw [List.takeWhile_filter]
  refine congrArg (fun p => (ts.takeWhile p).filter goesAsMechanism) (funext fun t => ?_)
  cases ht : isAll t with
  | true => rw [goesAsMechanism_of_isAll ht]; rfl
  | false => simp

theorem any_isAll_filter (ts : List Term) : (ts.filter goesAsMechanism).any isAll = ts.any isAll := by
  rw [List.any_filter]
  refine congrArg (ts.any ·) (funext fun t => ?_)
  cases ht : isAll t with
  | true => rw [goesAsMechanism_of_isAll ht]; rfl
  | false => simp

theorem filter_redirect (ts : List Term) :
    (ts.filter (!goesAsMechanism ·)).filter (·.name == "redirect") = ts.filter (·.name == "redirect") := by
  rw [List.filter_filter]
  refine List.filter_congr fun t _ => ?_
  cases hn : t.name == "redirect" with
  | false => rfl
  | true =>
    have : goesAsMechanism t = false := by
      unfold goesAsMechanism
      rw [beq_iff_eq.mp hn]
      decide
    rw [this]
    rfl

/-- The redirect depends on whether there is an `all`, and on what does not go as a mechanism. -/
theorem redirect_congr (hall : (ts.filter goesAsMechanism).any isAll = (ts'.filter goesAsMechanism).any isAll)
    (hother : ts.filter (!goesAsMechanism ·) = ts'.filter (!goesAsMechanism ·)) :
    (Plan.ofTerms ts).redirect = (Plan.ofTerms ts').redirect := by
  rw [redirect_ofTerms, redirect_ofTerms, ← any_isAll_filter ts, ← any_isAll_filter ts', ← filter_redirect ts,
    ← filter_redirect ts', hall, hother]

/-! ## Terms in place of mechanisms -/

theorem isAll_term (h : m.kind ∈ Kind.standard) : isAll m.term = (m.kind == .all) := by
  unfold isAll Mechanism.term
  rw [Kind.ofName_name h]

theorem isAll_spelledOut (q : Qualifier) (n : Network) : isAll (spelledOut q n) = false := by
  unfold isAll spelledOut
  cases n.family <;> rfl

theorem standing_all (h : m.kind = .all) : standing resolved m = [m.term] := by
  refine standing_kept ?_
  unfold target?
  rw [h]
  rfl

/-- What stands in the place of a mechanism other than `all` stops no plan. -/
theorem isAll_standing (hplain : resolved.Plain) (hk : m.kind ∈ Kind.standard) (h : m.kind ≠ .all) :
    ∀ t ∈ standing resolved m, isAll t = false := by
  intro t ht
  rcases mem_standing hplain ht with rfl | ⟨n, _, rfl⟩
  · rw [isAll_term hk]
    exact beq_eq_false_iff_ne.mpr h
  · exact isAll_spelledOut _ n

theorem any_isAll_standing (hplain : resolved.Plain) (hk : ∀ m ∈ ms, m.kind ∈ Kind.standard) :
    (ms.flatMap (standing resolved)).any isAll = (ms.map Mechanism.term).any isAll := by
  induction ms with
  | nil => rfl
  | cons m ms ih =>
    obtain ⟨hkm, hk⟩ := List.forall_mem_cons.mp hk
    have hm : (standing resolved m).any isAll = isAll m.term := by
      by_cases h : m.kind = .all
      · rw [standing_all h, List.any_cons, List.any_nil, Bool.or_false]
      · rw [isAll_term hkm, beq_eq_false_iff_ne.mpr h, List.any_eq_false]
        exact fun t ht => by rw [isAll_standing hplain hkm h t ht]; exact Bool.false_ne_true
    rw [List.flatMap_cons, List.any_append, hm, ih hk, List.map_cons, List.any_cons]

theorem takeWhile_standing (hplain : resolved.Plain) (hk : ∀ m ∈ ms, m.kind ∈ Kind.standard) :
    (ms.flatMap (standing resolved)).takeWhile (!isAll ·) = (beforeAll ms).flatMap (standing resolved) := by
  induction ms with
  | nil => rfl
  | cons m ms ih =>
    obtain ⟨hkm, hk⟩ := List.forall_mem_cons.mp hk
    unfold beforeAll at ih ⊢
    rw [List.flatMap_cons, List.takeWhile_cons]
    by_cases h : m.kind = .all
    · rw [standing_all h, h]
      simp [isAll_term hkm, h]
    · rw [if_pos (bne_iff_ne.mpr h), List.flatMap_cons, ← ih hk]
      refine List.takeWhile_append_of_pos fun t ht => ?_
      rw [isAll_standing hplain hkm h t ht]
      rfl

theorem takeWhile_terms (hk : ∀ m ∈ ms, m.kind ∈ Kind.standard) :
    (ms.map Mechanism.term).takeWhile (!isAll ·) = (beforeAll ms).map Mechanism.term := by
  have hnone : ∀ m, standing (.ofNames []) m = [m.term] := fun m => standing_kept (by cases target? m <;> rfl)
  have h := @takeWhile_standing ms (.ofNames []) (fun domain ips hips => by cases hips) hk
  simpa only [funext hnone, ← List.map_eq_flatMap] using h

/-! ## The record and the rebuilt record -/

variable [Packages] {record text : String} {r : Record}

/-- A record that was read without problems, and the record that is rebuilt from it. -/
structure Rebuilt (record : String) (r : Record) (resolved : Resolved) (text : String) : Prop where
  read : Record.read record = .ok r
  sound : r.problems = []
  modifiers : ∀ m ∈ r.modifiers, namedLikeMechanism m = false
  plain : resolved.Plain
  rebuilt : rebuild r resolved = .ok text

namespace Rebuilt

theorem standard (h : Rebuilt record r resolved text) : ∀ m ∈ r.mechanisms, m.kind ∈ Kind.standard := by
  intro m hm
  obtain ⟨_, _, _, hk, _⟩ := Record.mechanism_reads h.read h.sound hm
  exact hk

theorem writable (h : Rebuilt record r resolved text) (hm : m ∈ r.mechanisms) : Token.Writable m.term :=
  Record.writable_of_mem h.read h.sound hm

theorem termsFor_ok (h : Rebuilt record r resolved text) (hm : m ∈ r.mechanisms) : ∃ ts, termsFor resolved m = .ok ts := by
  have hrebuilt := h.rebuilt
  unfold rebuild at hrebuilt
  cases hs : allTerms resolved r.mechanisms with
  | error e => rw [hs] at hrebuilt; cases hrebuilt
  | ok terms => exact termsFor_of_allTerms hs hm

/-- The terms of the rebuilt record, mechanisms first. -/
theorem parts (h : Rebuilt record r resolved text) :
    (Record.tokenize text).filter goesAsMechanism = r.mechanisms.flatMap (standing resolved) ∧
      (Record.tokenize text).filter (!goesAsMechanism ·) = r.modifiers.map modifierTerm := by
  have hgoes : ∀ t ∈ r.mechanisms.flatMap (standing resolved), goesAsMechanism t = true := by
    intro t ht
    obtain ⟨m, hm, ht⟩ := List.mem_flatMap.mp ht
    obtain ⟨k, hk, hname⟩ := (writable_standing h.plain (h.writable hm) t ht).standard
    rw [Record.goesAsMechanism_iff, hname, Kind.ofName_name hk]
    exact hk
  have hother : ∀ t ∈ r.modifiers.map modifierTerm, goesAsMechanism t = false := by
    intro t ht
    obtain ⟨m, hm, rfl⟩ := List.mem_map.mp ht
    exact h.modifiers m hm
  rw [(tokenize_rebuild h.read h.sound h.plain h.rebuilt).2.2, List.filter_append, List.filter_append,
    List.filter_eq_self.mpr hgoes, List.filter_eq_nil_iff.mpr fun t ht => by simp [hother t ht],
    List.filter_eq_nil_iff.mpr fun t ht => by simp [hgoes t ht], List.filter_eq_self.mpr fun t ht => by simp [hother t ht]]
  exact ⟨List.append_nil _, rfl⟩

/-- What goes as a mechanism before the first `all` of the record are the mechanisms before it. -/
theorem filter_live_record (h : Rebuilt record r resolved text) :
    (live record).filter goesAsMechanism = (beforeAll r.mechanisms).map Mechanism.term := by
  rw [live, filter_live, (Record.tokenize_parts h.read h.sound h.modifiers).1, takeWhile_terms h.standard]

/-- In the rebuilt record it is what stands in their places. -/
theorem filter_live_text (h : Rebuilt record r resolved text) :
    (live text).filter goesAsMechanism = (beforeAll r.mechanisms).flatMap (standing resolved) := by
  rw [live, filter_live, h.parts.1, takeWhile_standing h.plain h.standard]

theorem mem_live (h : Rebuilt record r resolved text) (hm : m ∈ beforeAll r.mechanisms) : m.term ∈ live record := by
  have hmem : m.term ∈ (live record).filter goesAsMechanism := by
    rw [h.filter_live_record]
    exact List.mem_map_of_mem hm
  exact (List.mem_filter.mp hmem).1

/-- The redirect stays the same. -/
theorem redirect (h : Rebuilt record r resolved text) : (planOf text).redirect = (planOf record).redirect := by
  obtain ⟨hgoes, hother⟩ := Record.tokenize_parts h.read h.sound h.modifiers
  refine redirect_congr ?_ (h.parts.2.trans hother.symm)
  rw [h.parts.1, hgoes, any_isAll_standing h.plain h.standard]

end Rebuilt

end SenderPolicy.Advice
