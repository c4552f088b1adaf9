/-
  SenderPolicy.Proofs.Check.Percent — the names with a percent sign that a check of a domain asks for.

  Whether the value of a term is a name or still has to be expanded is decided in two ways. Below the record that is checked a
  percent sign is enough for a term to be left out. In the record itself an include is taken as one with macros only if a
  brace follows a percent sign somewhere, so one that has nothing but the other escapes, or a lone percent sign,
  is flattened like a name. Its text is asked for with the escapes in it, as soon as somebody begins with it; and no
  other text with a percent sign in its name is ever asked for, on any level below.
  - `mem_requested_includeTargets`: the domains that a check flattens, and where they come from.
  - `percent_asked_iff`: exactly when such a name is asked for.
  - `doubled_percent_is_asked_for`: an include with a doubled percent sign.
-/

import SenderPolicy.Check.Domain
import SenderPolicy.Installed
import SenderPolicy.Proofs.Flatten.Percent

namespace SenderPolicy.Check

open Dns Flatten
open Dns.Program (put)

variable {σ : Type} {ask : Ask (StateM σ)} {o : Options} {record name : String} {s s₁ : σ} {q : Question}

/-! ## A check as a tree of questions -/

theorem run_detailsOf [Packages] (o : Options) (ask : Ask (StateM σ)) (record : String) :
    (detailsOf o put record).run ask = detailsOf o ask record := by
  unfold detailsOf
  cases analyze o.context record with
  | error e => rfl
  | ok a =>
    cases o.limits with
    | error e => rfl
    | ok limits =>
      dsimp only
      rw [Program.run_bind, run_flattenWithin]
      refine bind_congr fun r => ?_
      cases r with
      | error e => rfl
      | ok f =>
        dsimp only
        cases Advice.suggestions a.record f o.share <;> rfl

theorem run_checkDomain [Packages] (o : Options) (ask : Ask (StateM σ)) (name : String) :
    (checkDomain o put name).run ask = checkDomain o ask name := by
  unfold checkDomain
  rw [Program.run_bind, run_published]
  refine bind_congr fun r => ?_
  rcases r with i | u | record
  · rfl
  · rfl
  · dsimp only
    rw [Program.run_bind, run_detailsOf]
    refine bind_congr fun d => ?_
    cases d <;> rfl

/-! ## What is asked -/

theorem mem_asked_detailsOf_iff [Packages] : q ∈ (detailsOf o put record).asked ask s ↔
    ∃ a limits, analyze o.context record = .ok a ∧ o.limits = .ok limits ∧
      q ∈ (flatten limits put 1 (includeTargets a.record)).asked ask s := by
  unfold detailsOf
  cases analyze o.context record with
  | error e =>
    refine iff_of_false List.not_mem_nil ?_
    rintro ⟨_, _, h, _⟩
    cases h
  | ok a =>
    cases o.limits with
    | error e =>
      refine iff_of_false List.not_mem_nil ?_
      rintro ⟨_, _, _, h, _⟩
      cases h
    | ok limits =>
      dsimp only
      rw [Program.asked_bind, List.mem_append, asked_flattenWithin]
      constructor
      · rintro (h | h)
        · exact ⟨a, limits, rfl, rfl, h⟩
        · repeat' split at h
          all_goals cases h
      · rintro ⟨_, _, ha, hlimits, h⟩
        cases ha
        cases hlimits
        exact .inl h

/-- A check asks for the text of its domain, and then for what the flattening asks for. -/
theorem mem_asked_checkDomain_iff [Packages] (hq : q.name ≠ Domain.key name) : q ∈ (checkDomain o put name).asked ask s ↔
    ∃ record s₁, (Record.published ask (Domain.key name)).run.run s = (.ok (.ok record), s₁) ∧
      q ∈ (detailsOf o put record).asked ask s₁ := by
  have hown : q ∉ (Record.published put (Domain.key name)).run.asked ask s := by
    intro hmem
    have hlooks : Looks (· = ⟨Domain.key name, "TXT"⟩) (Record.published put (Domain.key name)) := looks_published rfl
    have heq : q = ⟨Domain.key name, "TXT"⟩ := hlooks.only.of_asked hmem
    rw [heq] at hq
    exact hq rfl
  unfold checkDomain
  rw [Program.asked_bind, run_published]
  generalize (Record.published ask (Domain.key name)).run.run s = r
  obtain ⟨r, s₁⟩ := r
  rw [List.mem_append, or_iff_right hown]
  rcases r with i | u | record
  · refine iff_of_false List.not_mem_nil ?_
    rintro ⟨_, _, h, _⟩
    cases h
  · refine iff_of_false List.not_mem_nil ?_
    rintro ⟨_, _, h, _⟩
    cases h
  · dsimp only
    rw [Program.asked_bind, List.mem_append]
    constructor
    · rintro (h | h)
      · exact ⟨record, s₁, rfl, h⟩
      · split at h <;> cases h
    · rintro ⟨_, _, h, hmem⟩
      cases h
      exact .inl hmem

/-! ## Includes that are taken for names -/

/-- The domain that an include is flattened as. -/
def targetOf (m : Mechanism) : String := Domain.key (m.value.getD "")

/-- What is flattened are the domains of the includes that have no macros. -/
theorem mem_requested_includeTargets {r : Record} {d : String} : d ∈ requested (includeTargets r) ↔
    ∃ m ∈ r.mechanisms, (m.kind = .incl ∧ m.hasMacros = false) ∧ targetOf m = d := by
  unfold requested includeTargets
  rw [List.mem_eraseDups, List.map_map]
  constructor
  · intro h
    obtain ⟨m, hm, rfl⟩ := List.mem_map.mp h
    obtain ⟨hmem, hplain⟩ := List.mem_filter.mp hm
    rw [Bool.and_eq_true, beq_iff_eq, Bool.not_eq_true'] at hplain
    exact ⟨m, hmem, hplain, rfl⟩
  · rintro ⟨m, hm, ⟨hkind, hmacros⟩, rfl⟩
    refine List.mem_map.mpr ⟨m, List.mem_filter.mpr ⟨hm, ?_⟩, rfl⟩
    rw [hkind, hmacros]
    rfl

/-- An include with a percent sign that counts as one without macros. -/
structure Mistaken (m : Mechanism) : Prop where
  kind : m.kind = .incl
  noMacros : m.hasMacros = false
  percent : '%' ∈ (m.value.getD "").toList

theorem exists_mistaken {r : Record} {d : String} (hd : d ∈ requested (includeTargets r)) (h : '%' ∈ d.toList) :
    ∃ m ∈ r.mechanisms, Mistaken m ∧ targetOf m = d := by
  obtain ⟨m, hm, ⟨hkind, hmacros⟩, rfl⟩ := mem_requested_includeTargets.mp hd
  exact ⟨m, hm, ⟨hkind, hmacros, Domain.percent_mem_key.mp h⟩, rfl⟩

/-- What a pool asks for on its way is asked for such an include. -/
theorem mistaken_of_puts {limits : Limits} {c : Client} {entries : Entries} {r : Record} {p : Pool}
    (hrun : Pool.TimedRun limits c (.start entries 1 (includeTargets r)) p) {t : Task} (ht : t ∈ p.tasks) (hputs : t.Puts q)
    (htype : q.type = "TXT") (hpercent : '%' ∈ q.name.toList) :
    ∃ m ∈ r.mechanisms, Mistaken m ∧ ∃ n, q.name = Domain.normalize^[n] (Domain.key (targetOf m)) := by
  have hopens : ∀ t ∈ (Pool.start entries 1 (includeTargets r)).tasks,
      ∃ v, t.Opens limits c v ∧ v.domain ∈ (requested (includeTargets r)).map Domain.key := by
    intro t ht
    obtain ⟨d, hd, rfl⟩ := List.mem_map.mp ht
    exact ⟨⟨1, [], d⟩, .waiting, List.mem_map_of_mem hd⟩
  obtain ⟨d', hd', n, hname⟩ := hrun.percent hopens ht hputs htype hpercent
  obtain ⟨d, hd, rfl⟩ := List.mem_map.mp hd'
  rw [hname, Domain.percent_mem_iterate, Domain.percent_mem_key] at hpercent
  obtain ⟨m, hm, hmistaken, rfl⟩ := exists_mistaken hd hpercent
  exact ⟨m, hm, hmistaken, n, hname⟩

/-- A text with a percent sign in its name is asked for exactly if an include of the record counts as one without
macros for all that, and is begun. In a pool there is no other one either, whenever the time is up. -/
theorem percent_asked_iff [Packages] {σ : Type} (o : Options) (ask : Ask (StateM σ)) (s : σ) {name : String}
    (hname : '%' ∉ name.toList) : (checkDomain o put name).run ask = checkDomain o ask name ∧
    (∀ q : Question, q.type = "TXT" → '%' ∈ q.name.toList →
      (q ∈ (checkDomain o put name).asked ask s ↔ ∃ record s₁ a limits,
        (Record.published ask (Domain.key name)).run.run s = (.ok (.ok record), s₁) ∧
        analyze o.context record = .ok a ∧ o.limits = .ok limits ∧
        ∃ m ∈ a.record.mechanisms, Mistaken m ∧ q.name = Domain.key (targetOf m) ∧
          (⟨1, [], targetOf m⟩ : Visit).Asks limits ∧
          ∃ t, Starts limits ask 1 limits.workers (requested (includeTargets a.record)) s₁ (targetOf m) t)) ∧
    ∀ (limits : Limits) (c : Client) (entries : Entries) (r : Record) (p : Pool),
      Pool.TimedRun limits c (.start entries 1 (includeTargets r)) p → ∀ t ∈ p.tasks, ∀ q : Question, t.Puts q →
      q.type = "TXT" → '%' ∈ q.name.toList →
      ∃ m ∈ r.mechanisms, Mistaken m ∧ ∃ n, q.name = Domain.normalize^[n] (Domain.key (targetOf m)) := by
  refine ⟨run_checkDomain o ask name, fun q htype hpercent => ?_,
    fun limits c entries r p hrun t ht q hputs htype hpercent => mistaken_of_puts hrun ht hputs htype hpercent⟩
  have hother : q.name ≠ Domain.key name := by
    intro he
    rw [he, Domain.percent_mem_key] at hpercent
    exact hname hpercent
  rw [mem_asked_checkDomain_iff hother]
  constructor
  · rintro ⟨record, s₁, hrecord, hq⟩
    obtain ⟨a, limits, ha, hlimits, hq⟩ := mem_asked_detailsOf_iff.mp hq
    obtain ⟨d, t, hstarts, hasks, hd⟩ := (mem_asked_flatten_iff htype hpercent).mp hq
    rw [hd, Domain.percent_mem_key] at hpercent
    obtain ⟨m, hm, hmistaken, rfl⟩ := exists_mistaken hstarts.mem_domains hpercent
    exact ⟨record, s₁, a, limits, hrecord, ha, hlimits, m, hm, hmistaken, hd, hasks, t, hstarts⟩
  · rintro ⟨record, s₁, a, limits, hrecord, ha, hlimits, m, -, -, hd, hasks, t, hstarts⟩
    refine ⟨record, s₁, hrecord, mem_asked_detailsOf_iff.mpr ⟨a, limits, ha, hlimits, ?_⟩⟩
    exact (mem_asked_flatten_iff htype hpercent).mpr ⟨targetOf m, t, hstarts, hasks, hd⟩

/-! ## A doubled percent sign -/

/-- A domain whose include has an escape in it and no macro. -/
def doubled : Ask (StateM Unit) := fun q =>
  pure (if q = ⟨"a.example", "TXT"⟩ then .answers ["v=spf1 include:%%b.example -all"] else .failed (.noRecords q))

def byDefault : Options := ⟨.ok ⟨true, 10, 20, 8⟩, none, none, .sample 0⟩

theorem percent_asked_iff_doubled :
    '%' ∉ "a.example".toList ∧
      (⟨"%%b.example", "TXT"⟩ : Question) ∈ (checkDomain byDefault put "a.example").asked doubled () ∧
      ∃ record s₁ a limits, (Record.published doubled (Domain.key "a.example")).run.run () = (.ok (.ok record), s₁) ∧
        analyze byDefault.context record = .ok a ∧ byDefault.limits = .ok limits ∧
        ∃ m ∈ a.record.mechanisms, Mistaken m ∧ "%%b.example" = Domain.key (targetOf m) ∧
          (⟨1, [], targetOf m⟩ : Visit).Asks limits ∧
          ∃ t, Starts limits doubled 1 limits.workers (requested (includeTargets a.record)) s₁ (targetOf m) t := by
  have hname : '%' ∉ "a.example".toList := by decide
  have hasked : (⟨"%%b.example", "TXT"⟩ : Question) ∈ (checkDomain byDefault put "a.example").asked doubled () := by
    decide +kernel
  obtain ⟨-, hiff, -⟩ := percent_asked_iff byDefault doubled () hname
  exact ⟨hname, hasked, (hiff ⟨"%%b.example", "TXT"⟩ rfl (by decide)).mp hasked⟩

/-- The name of the domain has no percent sign, and one with two of them is asked for. -/
theorem doubled_percent_is_asked_for :
    '%' ∉ "a.example".toList ∧ (checkDomain byDefault put "a.example").asked doubled ()
      = [⟨"a.example", "TXT"⟩, ⟨"%%b.example", "TXT"⟩] := ⟨by decide, by decide +kernel⟩

end SenderPolicy.Check
