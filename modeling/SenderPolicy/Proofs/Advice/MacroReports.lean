/-
  SenderPolicy.Proofs.Advice.MacroReports — a record with more terms is never assessed to be better.

  What is reported on a term depends on the term alone, but for the sample expansion, which is taken from the
  context. So the reports on a part of the terms are a part of the reports, whenever each of the two was made. All
  that is said of a record as a whole is put together from its reports in a way that only grows with them: counts and
  sums, the number of different letters, the highest risk, and steps between thresholds on these.
  - `terms_unsampled`: the reports without their samples, term by term.
  - `unsampled_sublist`: the reports on fewer terms are among those on more.
  - `overheadOf_mono`, `complexityOf_mono`, `risk_mono`: the three grades, each from what it is made of.
  - `assessment_grows`: no grade of a record is lower than that of a part of it.
-/

import Mathlib.Data.List.Flatten
import Mathlib.Data.List.Nodup
import SenderPolicy.Advice.Macros
import SenderPolicy.Installed
import SenderPolicy.Proofs.Address.ReadBack
import SenderPolicy.Proofs.MacroString.Concatenation
import SenderPolicy.Proofs.Record.Agreement

namespace SenderPolicy.Advice

open MacroString
open Sequence (tally tally_map tally_mono)

/-! ## Reports without samples -/

/-- All of a report but the sample, in which alone the context shows. -/
def TermReport.unsampled (t : TermReport) : TermReport := { t with sample := none }

/-- What is reported on a term in any context. -/
def outline? : Bool × String × String × String → Option TermReport
  | (isModifier, kind, text, value) =>
    match read value with
    | .error _ => none
    | .ok r => if r.expressions.isEmpty then none else some ⟨text, isModifier, kind, r.expressions, none, r.faults⟩

theorem expressions_plain {text : String} (h : '%' ∉ text.toList) :
    read text = .ok ⟨text.toList.map .plain, []⟩ ∧ (⟨text.toList.map .plain, []⟩ : Reading).expressions = [] := by
  constructor
  · unfold MacroString.read lex
    rw [lexFrom_of_noPercent h, readFrom_plain]
  · simp [Reading.expressions, List.filterMap_map]

theorem termReport_unsampled {ctx : Context} {isModifier : Bool} {kind text value : String} {t : Option TermReport}
    (h : termReport ctx isModifier kind text value = .ok t) :
    t.map TermReport.unsampled = outline? (isModifier, kind, text, value) := by
  unfold termReport at h
  simp only [outline?]
  by_cases hpercent : '%' ∈ value.toList
  · simp only [List.contains_iff_mem.mpr hpercent, Bool.not_true, Bool.false_eq_true, if_false] at h
    cases hread : read value with
    | error e => rw [hread] at h; cases h
    | ok r =>
      rw [hread] at h
      by_cases hnone : r.expressions.isEmpty = true
      · simp only [hnone, if_true] at h ⊢
        cases h
        rfl
      · simp only [hnone] at h ⊢
        cases hsample : sampleOf ctx value with
        | error e => rw [hsample] at h; cases h
        | ok sample =>
          rw [hsample] at h
          cases h
          rfl
  · obtain ⟨hread, hnone⟩ := expressions_plain hpercent
    rw [if_pos (by simpa using hpercent)] at h
    cases h
    simp [hread, hnone]

theorem termReports_unsampled {ctx : Context} {xs : List (Bool × String × String × String)} {ts : List TermReport}
    (h : termReports ctx xs = .ok ts) : ts.map TermReport.unsampled = xs.filterMap outline? := by
  induction xs generalizing ts with
  | nil => cases h; rfl
  | cons x xs ih =>
    obtain ⟨isModifier, kind, text, value⟩ := x
    unfold termReports at h
    cases hreport : termReport ctx isModifier kind text value with
    | error e => rw [hreport] at h; cases h
    | ok t =>
      cases hreports : termReports ctx xs with
      | error e => rw [hreport, hreports] at h; cases h
      | ok ts' =>
        rw [hreport, hreports] at h
        cases h
        rw [List.filterMap_cons, ← termReport_unsampled hreport, ← ih hreports]
        cases t <;> rfl

theorem terms_unsampled {ctx : Context} {r : Record} {s : Summary} (h : assessMacros ctx r = .ok s) :
    s.terms.map TermReport.unsampled = (valuedTerms r).filterMap outline? := by
  unfold assessMacros at h
  cases hreports : termReports ctx (valuedTerms r) with
  | error e => rw [hreports] at h; cases h
  | ok ts =>
    rw [hreports] at h
    cases h
    exact termReports_unsampled hreports

theorem exists_assessed [Packages] (ctx : Context) (record : String) {α : Type} (f : Record → Summary → α) {a : α}
    (h : ((Record.read record).toOption.bind fun r => (assessMacros ctx r).toOption.map (f r)) = some a) :
    ∃ r s, Record.read record = .ok r ∧ assessMacros ctx r = .ok s ∧ f r s = a := by
  obtain ⟨r, hr, hmap⟩ := Option.bind_eq_some_iff.mp h
  obtain ⟨s, hs, rfl⟩ := Option.map_eq_some_iff.mp hmap
  exact ⟨r, s, eq_ok_of_toOption hr, eq_ok_of_toOption hs, rfl⟩

/-! ## Sums and maxima -/

theorem tally_unsampled {f : TermReport → Nat} (hf : ∀ t, f t.unsampled = f t) (ts : List TermReport) :
    tally f (ts.map TermReport.unsampled) = tally f ts := by
  rw [tally_map]
  exact congrArg (tally · ts) (funext hf)

/-- The highest of some risks is one of them, if any is above the lowest. -/
theorem highest_mem (risks : List Risk) : Risk.highest risks = .low ∨ Risk.highest risks ∈ risks := by
  have hfrom : ∀ (a : Risk), risks.foldl Risk.max a = a ∨ risks.foldl Risk.max a ∈ risks := by
    induction risks with
    | nil =>
      intro a
      exact Or.inl rfl
    | cons b bs ih =>
      intro a
      rw [List.foldl_cons]
      rcases ih (a.max b) with h | h
      · rw [h]
        unfold Risk.max
        split
        · exact Or.inr List.mem_cons_self
        · exact Or.inl rfl
      · exact Or.inr (List.mem_cons_of_mem _ h)
  exact hfrom .low

theorem highest_mono {risks risks' : List Risk} (h : risks ⊆ risks') :
    (Risk.highest risks).rank ≤ (Risk.highest risks').rank := by
  rcases highest_mem risks with hlow | hmem
  · rw [hlow]
    exact Nat.zero_le _
  · exact rank_le_highest (h hmem)

theorem rank_le_critical (x : Risk) : x.rank ≤ Risk.critical.rank := by cases x <;> decide

/-! ## Grades -/

def Overhead.rank : Overhead → Nat
  | .minimal => 0
  | .moderate => 1
  | .significant => 2
  | .severe => 3

/-- A threshold that is not passed by more lookups and macros is not passed by less. -/
theorem overheadOf_mono {halves halves' count count' : Nat} (hh : halves ≤ halves') (hc : count ≤ count') :
    (overheadOf halves count).rank ≤ (overheadOf halves' count').rank := by
  have hstep : ∀ limit many, halves > limit ∨ count > many → halves' > limit ∨ count' > many := by
    intro limit many h
    omega
  unfold overheadOf
  simp only [Bool.or_eq_true, decide_eq_true_eq]
  by_cases hsevere : halves' > 10 ∨ count' > 8
  · rw [if_pos hsevere]
    repeat' split
    all_goals decide
  rw [if_neg hsevere, if_neg fun h => hsevere (hstep 10 8 h)]
  by_cases hsignificant : halves' > 6 ∨ count' > 5
  · rw [if_pos hsignificant]
    repeat' split
    all_goals decide
  rw [if_neg hsignificant, if_neg fun h => hsignificant (hstep 6 5 h)]
  by_cases hmoderate : halves' > 2 ∨ count' > 2
  · rw [if_pos hmoderate]
    split
    all_goals decide
  rw [if_neg hmoderate, if_neg fun h => hmoderate (hstep 2 2 h)]

theorem letters_mono {es es' : List Expression} (h : es.Sublist es') :
    (es.map (·.letter)).eraseDups.length ≤ (es'.map (·.letter)).eraseDups.length := by
  apply (nodup_eraseDups _).length_le_of_subset
  intro l hl
  rw [List.mem_eraseDups] at hl ⊢
  exact (h.map _).subset hl

theorem complexityOf_mono {es es' : List Expression} (h : es.Sublist es') : complexityOf es ≤ complexityOf es' := by
  have hlength := h.length_le
  have hcount := tally_mono (·.transformers.count) h
  have hletters := letters_mono h
  have hrisky := (h.filter (·.risk == .high)).length_le
  unfold complexityOf
  omega

theorem complexityOf_le (es : List Expression) : complexityOf es ≤ 100 := Nat.min_le_left _ _

/-! ## Records -/

namespace Summary

variable {s s' : Summary}

/-- The reports of one are among those of the other, whatever samples they come with. -/
def Within (s s' : Summary) : Prop := (s.terms.map TermReport.unsampled).Sublist (s'.terms.map TermReport.unsampled)

theorem Within.tally_le (h : s.Within s') (f : TermReport → Nat) (hf : ∀ t, f t.unsampled = f t) :
    tally f s.terms ≤ tally f s'.terms := by
  rw [← tally_unsampled hf s.terms, ← tally_unsampled hf s'.terms]
  exact tally_mono f h

theorem Within.expressions (h : s.Within s') : s.expressions.Sublist s'.expressions := by
  have hsame : ∀ s : Summary, (s.terms.map TermReport.unsampled).flatMap (·.expressions) = s.expressions := by
    intro s
    rw [List.flatMap_map]
    rfl
  rw [← hsame s, ← hsame s']
  exact h.flatMap _

theorem Within.risk_mono (h : s.Within s') : s.risk.rank ≤ s'.risk.rank := by
  have hgrave : tally (·.graveAbuses) s.terms ≤ tally (·.graveAbuses) s'.terms := h.tally_le _ fun _ => rfl
  have hrisks : ∀ s : Summary, (s.terms.map TermReport.unsampled).map (·.risk) = s.terms.map (·.risk) := by
    intro s
    rw [List.map_map]
    rfl
  have hhighest : (Risk.highest (s.terms.map (·.risk))).rank ≤ (Risk.highest (s'.terms.map (·.risk))).rank := by
    rw [← hrisks s, ← hrisks s']
    exact highest_mono (h.map _).subset
  unfold Summary.risk
  by_cases hmany : tally (·.graveAbuses) s'.terms > 1
  · rw [if_pos hmany]
    exact rank_le_critical _
  · rw [if_neg hmany, if_neg (by omega)]
    exact hhighest

theorem Within.overhead_mono (h : s.Within s') : s.overhead.rank ≤ s'.overhead.rank :=
  overheadOf_mono (h.tally_le _ fun _ => rfl) h.expressions.length_le

end Summary

theorem unsampled_sublist {r r' : Record} {ctx ctx' : Context} {s s' : Summary} (hm : r.mechanisms.Sublist r'.mechanisms)
    (hmo : r.modifiers.Sublist r'.modifiers) (h : assessMacros ctx r = .ok s) (h' : assessMacros ctx' r' = .ok s') : s.Within s' := by
  have hterms : (valuedTerms r).Sublist (valuedTerms r') := (hm.filterMap _).append (hmo.map _)
  unfold Summary.Within
  rw [terms_unsampled h, terms_unsampled h']
  exact hterms.filterMap _

/-- If the mechanisms and the modifiers of a record are among those of another, in order, then the other has at least as
many macros, and its complexity, its risk and its overhead are at least as high, at whatever times the two are assessed. No
term is riskier than its record, and no complexity is above a hundred. -/
theorem assessment_grows {r r' : Record} {ctx ctx' : Context} {s s' : Summary} (hm : r.mechanisms.Sublist r'.mechanisms)
    (hmo : r.modifiers.Sublist r'.modifiers) (h : assessMacros ctx r = .ok s) (h' : assessMacros ctx' r' = .ok s') :
    s.expressions.length ≤ s'.expressions.length ∧ s.complexity ≤ s'.complexity ∧ s.risk.rank ≤ s'.risk.rank ∧
    s.overhead.rank ≤ s'.overhead.rank ∧ (∀ t ∈ s'.terms, t.risk.rank ≤ s'.risk.rank) ∧ s'.complexity ≤ 100 := by
  have hwithin := unsampled_sublist hm hmo h h'
  have hexpressions := hwithin.expressions
  refine ⟨hexpressions.length_le, complexityOf_mono hexpressions, hwithin.risk_mono, hwithin.overhead_mono, ?_, complexityOf_le _⟩
  intro t ht
  exact risk_le_summary ht

/-- The times differ, and each of the three grades rises. -/
theorem assessment_grows_pointers :
    ∃ r r' s s', Record.read "v=spf1 exists:%\x7bp\x7d -all" = .ok r ∧
      Record.read "v=spf1 exists:%\x7bp\x7d exists:%\x7bs\x7d.%\x7bp\x7d -all exp=%\x7bir\x7d" = .ok r' ∧
      r.mechanisms.Sublist r'.mechanisms ∧ r.modifiers.Sublist r'.modifiers ∧
      assessMacros (.sample 1) r = .ok s ∧ assessMacros (.sample 0) r' = .ok s' ∧
      (s.expressions.length ≤ s'.expressions.length ∧ s.complexity ≤ s'.complexity ∧ s.risk.rank ≤ s'.risk.rank ∧
        s.overhead.rank ≤ s'.overhead.rank ∧ (∀ t ∈ s'.terms, t.risk.rank ≤ s'.risk.rank) ∧ s'.complexity ≤ 100) ∧
      (s.complexity, s.risk, s.overhead) = (20, .high, .moderate) ∧
      (s'.complexity, s'.risk, s'.overhead) = (71, .critical, .significant) := by
  obtain ⟨r, s, h, hs, hgrades⟩ := exists_assessed (.sample 1) "v=spf1 exists:%\x7bp\x7d -all"
    (fun _ s => (s.complexity, s.risk, s.overhead)) (a := (20, .high, .moderate)) (by decide +kernel)
  obtain ⟨r', s', h', hs', hgrades'⟩ := exists_assessed (.sample 0)
    "v=spf1 exists:%\x7bp\x7d exists:%\x7bs\x7d.%\x7bp\x7d -all exp=%\x7bir\x7d"
    (fun _ s => (s.complexity, s.risk, s.overhead)) (a := (71, .critical, .significant)) (by decide +kernel)
  have hwithin : ∀ r ∈ (Record.read "v=spf1 exists:%\x7bp\x7d -all").toOption, ∀ r' ∈ (Record.read
      "v=spf1 exists:%\x7bp\x7d exists:%\x7bs\x7d.%\x7bp\x7d -all exp=%\x7bir\x7d").toOption,
      r.mechanisms.Sublist r'.mechanisms ∧ r.modifiers.Sublist r'.modifiers := by
    decide +kernel
  rw [h, h'] at hwithin
  obtain ⟨hm, hmo⟩ := hwithin r rfl r' rfl
  exact ⟨r, r', s, s', h, h', hm, hmo, hs, hs', assessment_grows hm hmo hs hs', hgrades, hgrades'⟩

end SenderPolicy.Advice
