/-
  SenderPolicy.Proofs.Flatten.Deepening — what more levels add to a resolution.

  The depth that a flattening may reach is looked at in one place only: a visit that is too deep has nothing but
  an error. With more levels the same visits are made, in the same order, and some of those that were cut get to ask.
  So each branch keeps what it had and may have more in between; nothing that was found can get lost, since no branch
  depends on what the branches beside it came to. A cut is never invisible, so where a branch has no error nothing was
  cut in it, and it is the same with more levels.
  - `Branch.Extends.append`, `extends_join`: branches are extended part by part.
  - `resolve_extends`: a visit with more levels, by induction on the levels that it has with less.
  - `results_extend`: the domains that were asked for.
  - `deeper_only_adds`: both for a client, and for a pool whoever goes on when.
-/

import SenderPolicy.Proofs.Flatten.PoolEnds

namespace SenderPolicy.Flatten

open Dns

variable {limits : Limits} {ask : Ask Id} {c : Client} {outcome : Question → Outcome} {k k' : Nat}

/-! ## More in the same order -/

/-- That a branch has all that another one has, in the same order; and nothing else if that one has no trouble. -/
structure Branch.Extends (b b' : Branch) : Prop where
  networks : b.networks.Sublist b'.networks
  nested : b.nested.Sublist b'.nested
  lookups : b.lookups ≤ b'.lookups
  unflattened : b.unflattened.Sublist b'.unflattened
  whole : b.troubles = [] → b' = b

/-- The same for what is reported of branches. -/
structure DomainResult.Extends (r r' : DomainResult) : Prop where
  ips : r.ips ⊆ r'.ips
  nested : r.nested.Sublist r'.nested
  lookups : r.lookups ≤ r'.lookups
  unflattened : r.unflattened.Sublist r'.unflattened
  whole : r.errors = [] → r' = r

/-- The same domains with results that have all that the others have; and nothing else if those are safe. -/
structure Flattening.Extends (f f' : Flattening) : Prop where
  domains : List.Forall₂ (fun e e' => e.1 = e'.1 ∧ e.2.Extends e'.2) f.resolved f'.resolved
  whole : f.status = .safe → f' = f

namespace Branch

theorem Extends.refl (b : Branch) : b.Extends b :=
  ⟨.refl _, .refl _, Nat.le_refl _, .refl _, fun _ => rfl⟩

theorem Extends.append {a a' b b' : Branch} (ha : a.Extends a') (hb : b.Extends b') : (a ++ b).Extends (a' ++ b') where
  networks := ha.networks.append hb.networks
  nested := ha.nested.append hb.nested
  lookups := Nat.add_le_add ha.lookups hb.lookups
  unflattened := ha.unflattened.append hb.unflattened
  whole h := by
    rw [troubles_append] at h
    obtain ⟨hnone, hnone'⟩ := List.append_eq_nil_iff.mp h
    rw [ha.whole hnone, hb.whole hnone']

theorem extends_join {go go' : Visit → Branch} {vs : List Visit} (h : ∀ v ∈ vs, (go v).Extends (go' v)) :
    (join (vs.map go)).Extends (join (vs.map go')) := by
  induction vs with
  | nil => exact .refl _
  | cons v vs ih =>
    obtain ⟨hv, hvs⟩ := List.forall_mem_cons.mp h
    exact hv.append (ih hvs)

/-- A branch with nothing but an error is extended by any other one. -/
theorem failure_extends (domain : String) (cause : Cause) (b : Branch) : (failure domain cause).Extends b where
  networks := List.nil_sublist _
  nested := List.nil_sublist _
  lookups := Nat.zero_le _
  unflattened := List.nil_sublist _
  whole h := by cases h

theorem Extends.report {b b' : Branch} (h : b.Extends b') : b.report.Extends b'.report where
  ips := by
    intro ip hip
    obtain ⟨n, hn, hnormal⟩ := mem_report_ips.mp hip
    exact mem_report_ips.mpr ⟨n, h.networks.subset hn, hnormal⟩
  nested := h.nested
  lookups := Int.ofNat_le.mpr h.lookups
  unflattened := h.unflattened
  whole herrors := by rw [h.whole (List.map_eq_nil_iff.mp herrors)]

end Branch

/-! ## With more levels -/

/-- The same limits with another depth. -/
def Limits.upTo (limits : Limits) (k : Nat) : Limits := { limits with maxDepth := k }

theorem children_upTo (v : Visit) (record : String) : children (limits.upTo k) v record = children limits v record := rfl

theorem interrupted_upTo (name : String) (i : Interruption) : interrupted (limits.upTo k) name i = interrupted limits name i := by
  cases i <;> rfl

/-- A visit that does not get to ask comes to an error, which is the same one with more levels unless it was cut. -/
theorem resolve_idle_extends {v : Visit} (hk : k ≤ k') (h : ¬ v.Asks (limits.upTo k)) :
    (resolve (limits.upTo k) ask v).run.Extends (resolve (limits.upTo k') ask v).run := by
  rw [resolve_eq (limits.upTo k), visit]
  by_cases hdeep : (limits.upTo k).maxDepth < v.depth
  · rw [if_pos hdeep]
    exact Branch.failure_extends _ _ _
  have hdeep' : ¬ (limits.upTo k').maxDepth < v.depth := by
    have hle : ((limits.upTo k).maxDepth : Int) ≤ (limits.upTo k').maxDepth := Int.ofNat_le.mpr hk
    omega
  rw [resolve_eq (limits.upTo k'), visit, if_neg hdeep, if_neg hdeep']
  rcases idle_cases h with htoo | ⟨-, hloop⟩ | ⟨-, hfresh, htime⟩
  · exact absurd htoo hdeep
  · rw [if_pos hloop, if_pos hloop]
    exact .refl _
  · rw [if_neg hfresh, if_neg hfresh, if_pos htime]
    exact Branch.failure_extends _ _ _

theorem Visit.Asks.deeper {v : Visit} (h : v.Asks (limits.upTo k)) (hk : k ≤ k') : v.Asks (limits.upTo k') where
  inDepth := Int.le_trans h.inDepth (Int.ofNat_le.mpr hk)
  fresh := h.fresh
  timely := h.timely

/-- A visit with more levels has all that it has with less. -/
theorem resolve_extends (hask : Prompt ask) (limits : Limits) (hk : k ≤ k') (v : Visit) :
    (resolve (limits.upTo k) ask v).run.Extends (resolve (limits.upTo k') ask v).run := by
  -- By the levels that the visit has with the smaller depth; with the larger one it may have more, but no visit less.
  induction hroom : roomAt (limits.upTo k) v.depth generalizing v with
  | zero =>
    refine resolve_idle_extends hk fun hasks => ?_
    have hin := hasks.inDepth
    unfold roomAt at hroom
    omega
  | succ room ih =>
    by_cases hasks : v.Asks (limits.upTo k)
    · rw [resolve_asks hask hasks, resolve_asks hask (hasks.deeper hk)]
      simp only [children_upTo, interrupted_upTo]
      rcases (Record.published ask v.domain).run with i | u | record
      · exact .refl (interrupted limits v.name i)
      · exact .refl (Branch.failure v.domain (.unavailable u))
      dsimp only
      rcases ((planOf record).hosts.mapM (hostsBranch ask v.domain)).run with i | hosts
      · exact .refl { interrupted limits v.name i with pending := children limits v record }
      · refine (Branch.Extends.refl (own v record ++ Branch.join hosts)).append (Branch.extends_join fun child hchild => ?_)
        have hdepth := depth_of_child hchild
        refine ih child ?_
        unfold roomAt at hroom ⊢
        omega
    · exact resolve_idle_extends hk hasks

theorem results_extend (hask : Prompt ask) (limits : Limits) (hk : k ≤ k') (depth : Int) (domains : List String) :
    (Flattening.ofResults (results (limits.upTo k) ask depth domains)).Extends
      (.ofResults (results (limits.upTo k') ask depth domains)) := by
  refine ⟨forall₂_results (fun v => (resolve_extends hask limits hk v).report) depth domains, fun hsafe => ?_⟩
  have herrors := status_eq_safe.mp hsafe
  refine congrArg Flattening.ofResults (List.map_congr_left fun d hd => ?_)
  rw [(resolve_extends hask limits hk ⟨depth, [], d⟩).report.whole (herrors _ (List.mem_map_of_mem hd))]

/-! ## Clients and pools -/

/-- A client that makes a visit comes to what the settled outcomes lead to. -/
theorem resolve_run (hconstant : Constant c outcome ask) (limits : Limits) (v : Visit) {m : Memory}
    (hm : Agrees outcome m.cache.entries) : ((resolve limits c.query v).run m).1 = (resolve limits ask v).run := by
  have hyields := hconstant.yields_run (regular_walk limits (roomAt limits v.depth) v)
  rw [← run_resolve limits c.query, ← Access.exec_run]
  exact (hyields.exec hconstant.source hm).trans (congrArg Id.run (run_resolve limits ask v))

/-- At a source that answers each question in one way and is never silent, more levels only add to what is found, and
nothing to what was found without an error: for a visit that is made alone, and for the flattening of several domains
that everybody comes to, in pools of any size and however their tasks take turns. -/
theorem deeper_only_adds (limits : Limits) {c : Client} {outcome : Question → Outcome}
    (hsource : ∀ q asked, c.source q asked = outcome q) (hprompt : ∀ q, outcome q ≠ .silent) {k k' : Nat} (hk : k ≤ k') :
    (∀ v (m m' : Memory), Agrees outcome m.cache.entries → Agrees outcome m'.cache.entries →
      ((resolve (limits.upTo k) c.query v).run m).1.report.Extends ((resolve (limits.upTo k') c.query v).run m').1.report) ∧
    ∀ depth domains, ∃ f f', FlattensTo (limits.upTo k) c outcome depth domains f ∧
      FlattensTo (limits.upTo k') c outcome depth domains f' ∧ f.Extends f' := by
  have hconstant : Constant c outcome (settled c outcome) := constant_settled hsource
  have hsettled : Prompt (settled c outcome) := settled_ne_silent c hprompt
  refine ⟨fun v m m' hm hm' => ?_, fun depth domains => ?_⟩
  · rw [resolve_run hconstant _ v hm, resolve_run hconstant _ v hm']
    exact (resolve_extends hsettled limits hk v).report
  · exact ⟨_, _, flattensTo_results hconstant hsettled _ depth domains, flattensTo_results hconstant hsettled _ depth domains,
      results_extend hsettled limits hk depth domains⟩

/-- Three domains of which each includes the next one. -/
def includingInTurn : Question → Outcome := fun q =>
  if q = ⟨"a.example", "TXT"⟩ then .answers ["v=spf1 ip4:192.0.2.1 include:b.example -all"]
  else if q = ⟨"b.example", "TXT"⟩ then .answers ["v=spf1 ip4:192.0.2.2 include:c.example ptr -all"]
  else if q = ⟨"c.example", "TXT"⟩ then .answers ["v=spf1 ip4:192.0.2.3 -all"]
  else .failed (.noRecords q)

theorem deeper_only_adds_in_turn :
    (∀ q asked, (⟨some 0, fun q _ => includingInTurn q⟩ : Client).source q asked = includingInTurn q) ∧
      (∀ q, includingInTurn q ≠ .silent) ∧ 1 ≤ 2 ∧
      ∃ f f' : Flattening, f.status = .incomplete ∧ f.totalIps = 2 ∧ f'.status = .safe ∧ f'.totalIps = 3 ∧
        f.Extends f' := by
  have hsource : ∀ q asked, (⟨some 0, fun q _ => includingInTurn q⟩ : Client).source q asked = includingInTurn q :=
    fun _ _ => rfl
  have hprompt : ∀ q, includingInTurn q ≠ .silent := by
    intro q
    unfold includingInTurn
    split
    · exact Outcome.noConfusion
    split
    · exact Outcome.noConfusion
    split <;> exact Outcome.noConfusion
  have hempty : Agrees includingInTurn [] := by
    intro e he
    cases he
  have hk : 1 ≤ 2 := by decide
  obtain ⟨-, hflatten⟩ := deeper_only_adds ⟨true, 10, 20, 1⟩ hsource hprompt hk
  obtain ⟨f, f', hf, hf', hextends⟩ := hflatten 0 ["a.example"]
  have hone := hf.inOrder 1 (by decide) ⟨⟨10, true, []⟩, []⟩ hempty
  have hone' := hf'.inOrder 1 (by decide) ⟨⟨10, true, []⟩, []⟩ hempty
  have hcut : f.status = .incomplete ∧ f.totalIps = 2 := by
    rw [← hone]
    decide +kernel
  have hwhole : f'.status = .safe ∧ f'.totalIps = 3 := by
    rw [← hone']
    decide +kernel
  exact ⟨hsource, hprompt, hk, f, f', hcut.1, hcut.2, hwhole.1, hwhole.2, hextends⟩

end SenderPolicy.Flatten
