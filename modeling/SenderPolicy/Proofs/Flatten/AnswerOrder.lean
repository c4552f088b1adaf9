/-
  SenderPolicy.Proofs.Flatten.AnswerOrder — the order of answers makes no difference to a flattening.

  Two walks at sources whose answers differ in order visit the same domains: each of them reads the same record, looks
  up the same addresses for its terms in the same order, and cuts a long list of exchanges at the same place. Where
  an answer cannot be read both have an error of the same domain, but the text of the error may name another answer.
  So their branches are alike: the same but for what the errors say.
  - `alike_append`, `alike_join`: branches are alike part by part.
  - `matches_hostsBranch`: the addresses of a term.
  - `twin_walk`: a walk, by induction on its levels.
  - `answer_order_never_matters`: the flattening of several domains, in whatever order their answers come.
-/

import SenderPolicy.Proofs.Dns.Reordering
import SenderPolicy.Proofs.Flatten.PoolEnds

namespace SenderPolicy.Flatten

open Dns
open Dns.Program (put Twin)

/-! ## Branches that are alike -/

/-- The same branches but for what their errors say. -/
structure Branch.Alike (b b' : Branch) : Prop where
  networks : b.networks = b'.networks
  nested : b.nested = b'.nested
  troubles : b.troubles.map (·.domain) = b'.troubles.map (·.domain)
  lookups : b.lookups = b'.lookups
  unflattened : b.unflattened = b'.unflattened
  silent : b.silent = b'.silent
  pending : b.pending = b'.pending

/-- The same results but for what the errors say. -/
structure DomainResult.Alike (r r' : DomainResult) : Prop where
  ips : r.ips = r'.ips
  nested : r.nested = r'.nested
  errors : r.errors.length = r'.errors.length
  lookups : r.lookups = r'.lookups
  unflattened : r.unflattened = r'.unflattened

/-- The same domains in the same order, with results that are alike, and the same summary. -/
structure Flattening.Alike (f f' : Flattening) : Prop where
  domains : List.Forall₂ (fun e e' => e.1 = e'.1 ∧ e.2.Alike e'.2) f.resolved f'.resolved
  totalIps : f.totalIps = f'.totalIps
  status : f.status = f'.status

namespace Branch

theorem alike_refl (b : Branch) : b.Alike b := ⟨rfl, rfl, rfl, rfl, rfl, rfl, rfl⟩

theorem alike_append {a a' b b' : Branch} (ha : a.Alike a') (hb : b.Alike b') : (a ++ b).Alike (a' ++ b') where
  networks := congrArg₂ (· ++ ·) ha.networks hb.networks
  nested := congrArg₂ (· ++ ·) ha.nested hb.nested
  troubles := by
    rw [troubles_append, troubles_append, List.map_append, List.map_append, ha.troubles, hb.troubles]
  lookups := congrArg₂ (· + ·) ha.lookups hb.lookups
  unflattened := congrArg₂ (· ++ ·) ha.unflattened hb.unflattened
  silent := congrArg₂ (· || ·) ha.silent hb.silent
  pending := congrArg₂ (· ++ ·) ha.pending hb.pending

theorem alike_join {bs bs' : List Branch} (h : List.Forall₂ Alike bs bs') : (join bs).Alike (join bs') := by
  induction h with
  | nil => exact alike_refl _
  | cons hb _ ih => exact alike_append hb ih

/-- Errors of one domain are alike, whatever they say. -/
theorem alike_failure (domain : String) (cause cause' : Cause) : (failure domain cause).Alike (failure domain cause') :=
  ⟨rfl, rfl, rfl, rfl, rfl, rfl, rfl⟩

theorem alike_awaited {limits : Limits} {name : String} {b b' : Branch} (h : b.Alike b') :
    (awaited limits name b).Alike (awaited limits name b') := by
  unfold awaited
  rw [h.silent]
  split
  · exact alike_refl _
  · exact h

theorem alike_collected {limits : Limits} {v : Visit} {g g' : Branch} {bs bs' : List Branch} (hg : g.Alike g')
    (hbs : List.Forall₂ Alike bs bs') : (collected limits v g bs).Alike (collected limits v g' bs') := by
  have hjoin := alike_join hbs
  unfold collected
  rw [hjoin.silent, hjoin.pending]
  split
  · exact alike_refl _
  · exact alike_append hg hjoin

theorem Alike.report {b b' : Branch} (h : b.Alike b') : b.report.Alike b'.report where
  ips := by
    show (Sequence.sort Network.le b.networks.eraseDups).map Network.normal = _
    rw [h.networks]
    rfl
  nested := h.nested
  errors := by
    have hlength := congrArg List.length h.troubles
    simpa only [Branch.report, List.length_map] using hlength
  lookups := congrArg Int.ofNat h.lookups
  unflattened := h.unflattened

end Branch

open Branch

/-! ## Walks -/

theorem matches_addressBranch (name : String) (v4 v6 : Option String) :
    Matches Alike (addressBranch put name v4 v6) (addressBranch put name v4 v6) := by
  refine (matches_addresses name).bind fun r r' hr => ?_
  cases hr with
  | error hkind => exact matches_pure (alike_failure _ _ _)
  | ok hsame =>
    rw [hsame]
    dsimp only
    split <;> exact matches_pure (alike_refl _)

/-- The addresses of a term. -/
theorem matches_hostsBranch (domain : String) (h : Hosts) :
    Matches Alike (hostsBranch put domain h) (hostsBranch put domain h) := by
  unfold hostsBranch
  dsimp only
  split
  · refine (matches_exchanges _).bind fun r r' hr => ?_
    cases hr with
    | error hkind => exact matches_pure (alike_failure _ _ _)
    | ok hsame =>
      rw [hsame]
      have hexchange : ∀ e, Matches Alike (exchangeBranch put h.v4 h.v6 e) (exchangeBranch put h.v4 h.v6 e) := fun e =>
        (matches_addressBranch e.host h.v4 h.v6).bind fun b b' hb => matches_pure (alike_append (alike_refl _) hb)
      exact (matches_mapM hexchange _).bind fun bs bs' hbs => matches_pure (alike_append (alike_refl _) (alike_join hbs))
  · exact matches_addressBranch _ _ _

/-- Two walks from one visit. -/
theorem twin_walk (limits : Limits) (room : Nat) (v : Visit) : Twin Alike (walk limits put room v) (walk limits put room v) := by
  induction room generalizing v with
  | zero => exact .done (alike_refl _)
  | succ room ih =>
    unfold walk
    dsimp only
    split
    · exact .done (alike_refl _)
    split
    · exact .done (alike_refl _)
    refine Twin.bind (matches_published _) fun r r' hr => ?_
    cases hr with
    | error hi =>
      rw [hi]
      exact .done (alike_refl _)
    | ok hpublished =>
      cases hpublished with
      | error _ => exact .done (alike_failure _ _ _)
      | ok hsame =>
        -- The record is one and the same from here on, and so are the plan and the visits below.
        rw [hsame]
        refine Twin.bind (matches_mapM (matches_hostsBranch _) _) fun r r' hr => ?_
        cases hr with
        | error hi =>
          rw [hi]
          exact .done (alike_refl _)
        | ok hhosts =>
          have hbelow : ∀ child : Visit, Twin Alike (do return awaited limits child.name (← walk limits put room child))
              (do return awaited limits child.name (← walk limits put room child)) := fun child =>
            (ih child).bind fun b b' hb => .done (alike_awaited hb)
          refine Twin.bind (Program.twin_mapM hbelow _) fun bs bs' hbs => .done ?_
          exact alike_collected (alike_append (alike_refl _) (alike_join hhosts)) hbs

/-! ## Flattenings -/

/-- A visit at two sources whose answers differ in order. -/
theorem resolve_alike {ask ask' : Ask Id} (hask : ∀ q, Outcome.Reorders (ask q).run (ask' q).run) (limits : Limits)
    (v : Visit) : (resolve limits ask v).run.Alike (resolve limits ask' v).run := by
  have hrun := (twin_walk limits (roomAt limits v.depth) v).run hask
  rw [run_walk, run_walk] at hrun
  exact hrun

theorem flatMap_ips {rs rs' : List (String × DomainResult)}
    (h : List.Forall₂ (fun e e' => e.1 = e'.1 ∧ e.2.Alike e'.2) rs rs') :
    rs.flatMap (·.2.ips) = rs'.flatMap (·.2.ips) := by
  induction h with
  | nil => rfl
  | cons he _ ih => rw [List.flatMap_cons, List.flatMap_cons, he.2.ips, ih]

theorem no_errors_iff {rs rs' : List (String × DomainResult)}
    (h : List.Forall₂ (fun e e' => e.1 = e'.1 ∧ e.2.Alike e'.2) rs rs') :
    (∀ r ∈ rs, r.2.errors = []) ↔ ∀ r ∈ rs', r.2.errors = [] := by
  induction h with
  | nil => exact Iff.rfl
  | cons he _ ih =>
    rw [List.forall_mem_cons, List.forall_mem_cons, ih, ← List.length_eq_zero_iff, ← List.length_eq_zero_iff, he.2.errors]

theorem ofResults_alike {rs rs' : List (String × DomainResult)}
    (h : List.Forall₂ (fun e e' => e.1 = e'.1 ∧ e.2.Alike e'.2) rs rs') :
    (Flattening.ofResults rs).Alike (.ofResults rs') where
  domains := h
  totalIps := by
    show (((rs.flatMap (·.2.ips)).eraseDups.length : Nat) : Int) = _
    rw [flatMap_ips h]
    rfl
  status := by
    have hsafe : (Flattening.ofResults rs).status = .safe ↔ (Flattening.ofResults rs').status = .safe := by
      rw [status_eq_safe, status_eq_safe, no_errors_iff h]
    cases hstatus : (Flattening.ofResults rs).status with
    | safe => exact (hsafe.mp hstatus).symm
    | incomplete =>
      cases hstatus' : (Flattening.ofResults rs').status with
      | safe =>
        rw [hsafe.mpr hstatus'] at hstatus
        cases hstatus
      | incomplete => rfl

/-- In zones that differ only in the order of the answers inside their entries the outcomes differ in order, whatever
transport brings them. And at two sources whose outcomes differ in order a flattening comes to the same, in pools of any
size and however their tasks take turns: every domain has the same addresses, lookups, nested domains and terms that are
left out, and as many errors. -/
theorem answer_order_never_matters :
    (∀ (z z' : Zone), z.Reorders z' → ∀ t q asked, (z.source t q asked).Reorders (z'.source t q asked)) ∧
    ∀ (limits : Limits) (retries : Option Int) (source source' : Source) (outcome outcome' : Question → Outcome),
      (∀ q asked, source q asked = outcome q) → (∀ q asked, source' q asked = outcome' q) →
      (∀ q, outcome q ≠ .silent) → (∀ q, (outcome q).Reorders (outcome' q)) → ∀ depth domains, ∃ f f',
        FlattensTo limits ⟨retries, source⟩ outcome depth domains f ∧
          FlattensTo limits ⟨retries, source'⟩ outcome' depth domains f' ∧ f.Alike f' := by
  refine ⟨fun z z' h t q asked => Zone.source_reorders h t q asked, ?_⟩
  intro limits retries source source' outcome outcome' hsource hsource' hprompt hreorders depth domains
  have hprompt' : ∀ q, outcome' q ≠ .silent := by
    intro q hq
    have hq' := hreorders q
    rw [hq] at hq'
    generalize ho : outcome q = o at hq'
    cases hq'
    exact hprompt q ho
  have hconstant : Constant ⟨retries, source⟩ outcome (settled ⟨retries, source⟩ outcome) := constant_settled hsource
  have hconstant' : Constant ⟨retries, source'⟩ outcome' (settled ⟨retries, source'⟩ outcome') := constant_settled hsource'
  have hask : ∀ q, Outcome.Reorders (settled ⟨retries, source⟩ outcome q).run (settled ⟨retries, source'⟩ outcome' q).run :=
    settled_reorders rfl hreorders
  refine ⟨_, _, flattensTo_results hconstant (settled_ne_silent _ hprompt) limits depth domains,
    flattensTo_results hconstant' (settled_ne_silent _ hprompt') limits depth domains, ofResults_alike ?_⟩
  exact forall₂_results (fun v => (resolve_alike hask limits v).report) depth domains

/-- A zone of which every entry is a list of answers gives one outcome to a question, whenever it is asked. -/
theorem source_listed {z : Zone} (h : ∀ name ∈ z.names, ∀ entry ∈ name.2, ∃ items, entry.2 = .arr items) (q : Question)
    (asked : Nat) : z.source .plain q asked = z.source .plain q 0 ∧ z.source .plain q 0 ≠ .silent := by
  unfold Zone.source
  cases hentry : z.entry? q with
  | none => exact ⟨rfl, Outcome.noConfusion⟩
  | some entry =>
    obtain ⟨types, htypes, hfind⟩ := Option.bind_eq_some_iff.mp hentry
    obtain ⟨⟨name, types⟩, hname, rfl⟩ := Option.map_eq_some_iff.mp htypes
    obtain ⟨⟨type, entry⟩, htype, rfl⟩ := Option.map_eq_some_iff.mp hfind
    obtain ⟨items, rfl⟩ := h _ (List.mem_of_find?_eq_some hname) _ (List.mem_of_find?_eq_some htype)
    exact ⟨rfl, Outcome.noConfusion⟩

/-- A domain with two exchanges, of which one has two addresses and the other one answers that are none. -/
def exchanging (texts exchanges good bad : List Json) : Zone :=
  ⟨[("a.example", [("TXT", .arr texts), ("MX", .arr exchanges)]), ("b.example", [("A", .arr good)]),
    ("c.example", [("A", .arr bad)])]⟩

theorem listed_exchanging (texts exchanges good bad : List Json) :
    ∀ name ∈ (exchanging texts exchanges good bad).names, ∀ entry ∈ name.2, ∃ items, entry.2 = .arr items := by
  intro name hname entry hentry
  simp only [exchanging, List.mem_cons, List.not_mem_nil, or_false] at hname
  rcases hname with rfl | rfl | rfl
  · simp only [List.mem_cons, List.not_mem_nil, or_false] at hentry
    rcases hentry with rfl | rfl
    · exact ⟨texts, rfl⟩
    · exact ⟨exchanges, rfl⟩
  · obtain rfl := List.mem_singleton.mp hentry
    exact ⟨good, rfl⟩
  · obtain rfl := List.mem_singleton.mp hentry
    exact ⟨bad, rfl⟩

theorem answer_order_never_matters_exchanging :
    let z := exchanging [.str "v=spf1 mx -all", .str "x"] [.str "10 b.example.", .str "20 c.example."]
      [.str "192.0.2.1", .str "192.0.2.2"] [.str "y", .str "192.0.2.3", .str "z"]
    let z' := exchanging [.str "x", .str "v=spf1 mx -all"] [.str "20 c.example.", .str "10 b.example."]
      [.str "192.0.2.2", .str "192.0.2.1"] [.str "192.0.2.3", .str "z", .str "y"]
    z.Reorders z' ∧ (∀ q asked, z.source .plain q asked = z.source .plain q 0) ∧ (∀ q, z.source .plain q 0 ≠ .silent) ∧
      ∃ f f' : Flattening, f.totalIps = 2 ∧ f.status = .incomplete ∧
        f.errors = ["c.example: Malformed address answer for c.example: 'y'"] ∧
        f'.errors = ["c.example: Malformed address answer for c.example: 'z'"] ∧ f.Alike f' := by
  intro z z'
  have hz : ∀ name ∈ z.names, ∀ entry ∈ name.2, ∃ items, entry.2 = .arr items := listed_exchanging _ _ _ _
  have hz' : ∀ name ∈ z'.names, ∀ entry ∈ name.2, ∃ items, entry.2 = .arr items := listed_exchanging _ _ _ _
  have hreorders : z.Reorders z' := by
    refine .cons ⟨rfl, .cons ⟨rfl, .listed (.swap _ _ _)⟩ (.cons ⟨rfl, .listed (.swap _ _ _)⟩ .nil)⟩
      (.cons ⟨rfl, .cons ⟨rfl, .listed (.swap _ _ _)⟩ .nil⟩ (.cons ⟨rfl, .cons ⟨rfl, .listed ?_⟩ .nil⟩ .nil))
    exact (List.Perm.swap _ _ _).trans (.cons _ (.swap _ _ _))
  obtain ⟨hzones, hflatten⟩ := answer_order_never_matters
  obtain ⟨f, f', hf, hf', halike⟩ := hflatten ⟨true, 10, 20, 1⟩ (some 0) (z.source .plain) (z'.source .plain) _ _
    (fun q asked => (source_listed hz q asked).1) (fun q asked => (source_listed hz' q asked).1)
    (fun q => (source_listed hz q 0).2) (fun q => hzones z z' hreorders .plain q 0) 0 ["a.example"]
  have hempty : ∀ outcome, Agrees outcome [] := by
    intro outcome e he
    cases he
  have hone := hf.inOrder 1 (by decide) ⟨⟨10, true, []⟩, []⟩ (hempty _)
  have hone' := hf'.inOrder 1 (by decide) ⟨⟨10, true, []⟩, []⟩ (hempty _)
  have hfirst : f.totalIps = 2 ∧ f.status = .incomplete ∧
      f.errors = ["c.example: Malformed address answer for c.example: 'y'"] := by
    rw [← hone]
    decide +kernel
  have hsecond : f'.errors = ["c.example: Malformed address answer for c.example: 'z'"] := by
    rw [← hone']
    decide +kernel
  exact ⟨hreorders, fun q asked => (source_listed hz q asked).1, fun q => (source_listed hz q 0).2, f, f', hfirst.1,
    hfirst.2.1, hfirst.2.2, hsecond, halike⟩

end SenderPolicy.Flatten
