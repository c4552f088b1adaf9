/-
  SenderPolicy.Proofs.Advice.Suggestions — where a suggestion comes from.

  A suggestion is made for an include whose domain has been flattened, and tells the addresses and the
  lookups of that result. It is safe if the result reports no error and no term without addresses. Sorting
  the suggestions by what they save changes none of them.
  - `suggest_some`: what a suggestion says about its include.
  - `mem_suggestions`: every suggestion is one for a mechanism of the record.
  - `safe_suggestion_clean`: the addresses of a safe suggestion are those of a clean visit.
-/

import SenderPolicy.Advice.Includes
import SenderPolicy.Proofs.Flatten.CleanWalk

namespace SenderPolicy.Advice

open Flatten
open Branch (Clean)

variable {r : Record} {f : Flattening} {impact : Option Impact} {m : Mechanism} {s : Suggestion}

theorem suggest_some (h : suggest r f impact m = .ok (some s)) :
    ∃ domain result, target? m = some domain ∧ f.find? domain = some result ∧ s.mechanism = m ∧ s.ips = result.ips ∧
      s.isSafe = (result.errors.isEmpty && result.unflattened.isEmpty) ∧
        s.currentLookups = m.lookups + result.lookups := by
  unfold suggest at h
  cases ht : target? m with
  | none => rw [ht] at h; cases h
  | some domain =>
    cases hf : f.find? domain with
    | none => rw [ht, Option.bind_some, hf] at h; cases h
    | some result =>
      rw [ht, Option.bind_some, hf, Option.map_some] at h
      dsimp only at h
      split at h
      · cases h
      · split at h <;> cases h
        exact ⟨domain, result, rfl, hf, rfl, rfl, rfl, rfl⟩

/-- What is suggested for other mechanisms of the same domain is the same. -/
theorem suggest_other {m' : Mechanism} (h : suggest r f impact m = .ok (some s)) (ht : target? m' = target? m)
    (hl : m'.lookups = m.lookups) : suggest r f impact m' = .ok (some { s with mechanism := m' }) := by
  unfold suggest at h ⊢
  rw [ht, hl]
  cases hm : target? m with
  | none => rw [hm] at h; cases h
  | some domain =>
    cases hf : f.find? domain with
    | none => rw [hm, Option.bind_some, hf] at h; cases h
    | some result =>
      rw [hm, Option.bind_some, hf, Option.map_some] at h
      rw [Option.bind_some, hf, Option.map_some]
      dsimp only at h ⊢
      split at h
      · cases h
      · rename_i hworth
        rw [if_neg hworth]
        cases hr : rebuild r (.ofNames [(domain, result.ips)]) with
        | error e => rw [hr] at h; cases h
        | ok text =>
          rw [hr] at h
          cases h
          rfl

theorem suggestAll_cons {ms : List Mechanism} {ss : List Suggestion} (h : suggestAll r f impact (m :: ms) = .ok ss) :
    ∃ o rest, suggest r f impact m = .ok o ∧ suggestAll r f impact ms = .ok rest ∧ ss = o.toList ++ rest := by
  unfold suggestAll at h
  cases hm : suggest r f impact m with
  | error e => simp [hm, bind, Except.bind] at h
  | ok o =>
    cases hrest : suggestAll r f impact ms with
    | error e => simp [hm, hrest, bind, Except.bind] at h
    | ok rest =>
      simp only [hm, hrest, bind, Except.bind, Except.ok.injEq] at h
      exact ⟨o, rest, rfl, rfl, h.symm⟩

theorem suggestAll_append {ms ms' : List Mechanism} {ss : List Suggestion} (h : suggestAll r f impact (ms ++ ms') = .ok ss) :
    ∃ front back, suggestAll r f impact ms = .ok front ∧ suggestAll r f impact ms' = .ok back ∧ ss = front ++ back := by
  induction ms generalizing ss with
  | nil => exact ⟨[], ss, rfl, h, rfl⟩
  | cons m ms ih =>
    obtain ⟨o, rest, hm, hrest, rfl⟩ := suggestAll_cons h
    obtain ⟨front, back, hfront, hback, rfl⟩ := ih hrest
    refine ⟨o.toList ++ front, back, ?_, hback, (List.append_assoc _ _ _).symm⟩
    simp only [suggestAll, hm, hfront, bind, Except.bind]

/-- The suggestions are those that are made for the mechanisms. -/
theorem mem_suggestAll {ms : List Mechanism} {ss : List Suggestion} (h : suggestAll r f impact ms = .ok ss) :
    s ∈ ss ↔ ∃ m ∈ ms, suggest r f impact m = .ok (some s) := by
  induction ms generalizing ss with
  | nil => cases h; simp
  | cons m ms ih =>
    obtain ⟨o, rest, hm, hrest, rfl⟩ := suggestAll_cons h
    rw [List.mem_append, ih hrest, List.exists_mem_cons_iff, hm, Option.mem_toList]
    simp only [Except.ok.injEq]

theorem suggestions_ok {share : Option Number} {ss : List Suggestion} (h : suggestions r f share = .ok ss) :
    ∃ impact all, gradeShare share = .ok impact ∧ suggestAll r f impact r.mechanisms = .ok all ∧ ss.Perm all := by
  unfold suggestions at h
  cases hg : gradeShare share with
  | error e => simp [hg, bind, Except.bind] at h
  | ok impact =>
    cases ha : suggestAll r f impact r.mechanisms with
    | error e => simp [hg, ha, bind, Except.bind] at h
    | ok all =>
      simp only [hg, ha, bind, Except.bind, Except.ok.injEq] at h
      exact ⟨impact, all, rfl, ha, h ▸ Sequence.sort_perm _ all⟩

theorem mem_suggestions {share : Option Number} {ss : List Suggestion} (h : suggestions r f share = .ok ss) (hs : s ∈ ss) :
    ∃ impact, ∃ m ∈ r.mechanisms, suggest r f impact m = .ok (some s) := by
  obtain ⟨impact, all, _, hall, hperm⟩ := suggestions_ok h
  exact ⟨impact, (mem_suggestAll hall).mp (hperm.mem_iff.mp hs)⟩

/-- The addresses of a safe suggestion are those that a clean visit of its domain has found. -/
theorem safe_suggestion_clean {limits : Limits} {ask : Dns.Ask Id} {depth : Int} {domains : List String}
    {share : Option Number} {ss : List Suggestion}
    (h : suggestions r (flatten limits ask depth domains).run share = .ok ss) (hs : s ∈ ss) (hsafe : s.isSafe = true) :
    ∃ domain, target? s.mechanism = some domain ∧ Clean (resolve limits ask ⟨depth, [], domain⟩).run ∧
      s.ips = (resolve limits ask ⟨depth, [], domain⟩).run.report.ips := by
  obtain ⟨impact, m, _, hm⟩ := mem_suggestions h hs
  obtain ⟨domain, result, ht, hf, rfl, hips, hflag, _⟩ := suggest_some hm
  rw [hsafe, eq_comm, Bool.and_eq_true, List.isEmpty_iff, List.isEmpty_iff] at hflag
  obtain ⟨hclean, hresult, _⟩ := find?_flatten_clean hf hflag.1 hflag.2
  exact ⟨domain, ht, hclean, by rw [hips, hresult]⟩

end SenderPolicy.Advice
