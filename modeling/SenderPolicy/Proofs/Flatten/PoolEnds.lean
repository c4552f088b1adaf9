/-
  SenderPolicy.Proofs.Flatten.PoolEnds — the pool always ends, and always with the same result.

  A task that somebody has begun with can always go on by itself: it makes an access, takes a result over, or makes
  the first task below it that nobody has begun with. So nobody waits in a circle, and as soon as all workers wait
  for one another, one of them does the work of the others. With one worker this is a walk in depth, with many of
  them everything may happen at once. Each step leaves less to do: what is left of a visit is bounded by its levels
  and by the records of the domains below it, whoever makes them.
  - `Task.Fits.steps_of_running`, `Pool.Sound.exists_step`: as long as a domain is not done, the pool goes on.
  - `Pool.Run.busy_le`: no more workers are busy than there are.
  - `Task.Step.cost_lt`, `Pool.Run.length_le`: no run is longer than what there was to do.
  - `flattensTo_results`, `forall₂_results`: what everybody comes to, and how two such flattenings compare.
  - `flattening_ignores_schedule`: every schedule, with however many workers and whatever is in the cache, comes to
    one flattening, in which each domain has the result that it has alone.
-/

import Mathlib.Algebra.GroupWithZero.Nat
import SenderPolicy.Proofs.Flatten.Pool

namespace SenderPolicy.Flatten

open Dns

variable {limits : Limits} {c : Client} {outcome : Question → Outcome} {ask : Ask Id} {entries kept : Entries} {v : Visit}
  {free : Prop} {t t' : Task}

/-! ## Somebody can go on -/

namespace Task

/-- Somebody has begun with it and it is not done. -/
def Running : Task → Prop
  | .waiting _ | .done .. => False
  | _ => True

/-- That something can happen to a task, whether there is a free worker or not. -/
def Steps (limits : Limits) (c : Client) (free : Prop) (entries : Entries) (t : Task) : Prop :=
  ∃ kept t', Step limits c free entries t kept t'

theorem Steps.firstBelow {taken : Bool} {gathered : Branch} {results : List Branch} {orphans below : List Task}
    (h : t.Steps limits c free entries) :
    (Task.collecting v taken gathered results orphans (t :: below)).Steps limits c free entries := by
  obtain ⟨kept, t', hstep⟩ := h
  exact ⟨kept, _, @Step.belowCollecting limits c free entries kept v taken gathered results orphans [] below t t' hstep⟩

theorem Fits.steps_of_running (c : Client) (free : Prop) (entries : Entries) (h : t.Fits limits outcome ask) (ht : t.Running) :
    t.Steps limits c free entries := by
  induction h with
  | waiting => exact ht.elim
  | done => exact ht.elim
  | @reading v taken left _ _ =>
    rcases exists_accessStep c entries left with ⟨r, rfl⟩ | ⟨kept, left', haccess⟩
    · match r with
      | .error i => exact ⟨_, _, .interrupted⟩
      | .ok (.error u) => exact ⟨_, _, .unavailable⟩
      | .ok (.ok record) => exact ⟨_, _, .submit⟩
    · exact ⟨_, _, .read haccess⟩
  | @looking v taken record left below _ _ _ _ _ _ =>
    rcases exists_accessStep c entries left with ⟨r, rfl⟩ | ⟨kept, left', haccess⟩
    · match r with
      | .error i => exact ⟨_, _, .crash⟩
      | .ok hosts => exact ⟨_, _, .gather⟩
    · exact ⟨_, _, .look haccess⟩
  | @collecting v taken gathered results orphans below _ _ _ _ ih =>
    match below, ih with
    | [], _ => exact ⟨_, _, .finish⟩
    | .waiting w :: below, _ => exact ⟨_, _, .makeInline⟩
    | .done w b orphans' :: below, _ => exact ⟨_, _, .collect⟩
    | .reading .. :: below, ih => exact (ih _ List.mem_cons_self trivial).firstBelow
    | .looking .. :: below, ih => exact (ih _ List.mem_cons_self trivial).firstBelow
    | .collecting .. :: below, ih => exact (ih _ List.mem_cons_self trivial).firstBelow

theorem exists_busy {ts : List Task} (h : 0 < busyAll ts) : ∃ t ∈ ts, 0 < t.busy := by
  induction ts with
  | nil => exact absurd h (Nat.lt_irrefl 0)
  | cons t ts ih =>
    by_cases ht : 0 < t.busy
    · exact ⟨t, List.mem_cons_self, ht⟩
    · rw [busyAll] at h
      obtain ⟨u, hu, hbusy⟩ := ih (by omega)
      exact ⟨u, List.mem_cons_of_mem _ hu, hbusy⟩

/-- A worker that is busy with a task, or with one that the task has left behind, has something to do. -/
theorem Fits.steps_of_busy (c : Client) (free : Prop) (entries : Entries) (h : t.Fits limits outcome ask) (ht : 0 < t.busy) :
    t.Steps limits c free entries := by
  induction h with
  | waiting => exact absurd ht (Nat.lt_irrefl 0)
  | reading hasks hleft => exact Fits.steps_of_running c free entries (.reading hasks hleft) trivial
  | looking hasks hrecord hleft hvisits hbelow _ =>
    exact Fits.steps_of_running c free entries (.looking hasks hrecord hleft hvisits hbelow) trivial
  | collecting hresult horphans hbelow _ _ =>
    exact Fits.steps_of_running c free entries (.collecting hresult horphans hbelow) trivial
  | done _ _ ih =>
    rw [busy] at ht
    obtain ⟨u, hu, hbusy⟩ := exists_busy ht
    obtain ⟨kept, u', hstep⟩ := ih u hu hbusy
    obtain ⟨before, after, rfl⟩ := List.append_of_mem hu
    exact ⟨_, _, .orphanDone hstep⟩

end Task

section

variable {depth : Int} {domains : List String} {p : Pool}

theorem Pool.exists_step_of_task (ht : t ∈ p.tasks) (h : t.Steps limits c (Task.busyAll p.tasks < limits.workers) p.entries) :
    ∃ q, Pool.Step limits c p q := by
  obtain ⟨entries, tasks⟩ := p
  obtain ⟨before, after, rfl⟩ := List.append_of_mem ht
  obtain ⟨kept, t', hstep⟩ := h
  exact ⟨_, .task hstep⟩

theorem reports_or_undone (tasks : List Task) :
    (∃ reports, tasks.mapM Task.report? = some reports) ∨ ∃ t ∈ tasks, t.report? = none := by
  induction tasks with
  | nil => exact .inl ⟨[], rfl⟩
  | cons t tasks ih =>
    cases ht : t.report? with
    | none => exact .inr ⟨t, List.mem_cons_self, ht⟩
    | some report =>
      rcases ih with ⟨reports, hreports⟩ | ⟨u, hu, hnone⟩
      · refine .inl ⟨report :: reports, ?_⟩
        rw [List.mapM_cons, ht, hreports]
        rfl
      · exact .inr ⟨u, List.mem_cons_of_mem _ hu, hnone⟩

/-- As long as a domain is not done, the pool goes on. -/
theorem Pool.Sound.exists_step (hworkers : 1 ≤ limits.workers) (hp : p.Sound limits outcome ask depth domains)
    (h : p.flattening? = none) (c : Client) : ∃ q, Pool.Step limits c p q := by
  rcases reports_or_undone p.tasks with ⟨reports, hreports⟩ | ⟨t, ht, hnone⟩
  · rw [Pool.flattening?, hreports] at h
    cases h
  have hfits := hp.fits t ht
  match t with
  | .done .. => cases hnone
  | .reading .. => exact Pool.exists_step_of_task ht (hfits.steps_of_running c _ _ trivial)
  | .looking .. => exact Pool.exists_step_of_task ht (hfits.steps_of_running c _ _ trivial)
  | .collecting .. => exact Pool.exists_step_of_task ht (hfits.steps_of_running c _ _ trivial)
  | .waiting v =>
    by_cases hfree : Task.busyAll p.tasks < limits.workers
    · exact Pool.exists_step_of_task ht ⟨_, _, .take hfree⟩
    · have hpos : 0 < Task.busyAll p.tasks := by omega
      obtain ⟨u, hu, hbusy⟩ := Task.exists_busy hpos
      exact Pool.exists_step_of_task hu ((hp.fits u hu).steps_of_busy c _ _ hbusy)

end

/-! ## No more workers than there are -/

namespace Task

theorem busyAll_append (ts us : List Task) : busyAll (ts ++ us) = busyAll ts + busyAll us := by
  induction ts with
  | nil => exact (Nat.zero_add _).symm
  | cons t ts ih => rw [List.cons_append, busyAll, busyAll, ih, Nat.add_assoc]

theorem busyAll_split (before : List Task) (t : Task) (after : List Task) :
    busyAll (before ++ t :: after) = busyAll before + (t.busy + busyAll after) := by
  rw [busyAll_append, busyAll]

theorem busyAll_waiting (vs : List Visit) : busyAll (vs.map .waiting) = 0 := by
  induction vs with
  | nil => rfl
  | cons v vs ih => rw [List.map_cons, busyAll, busy, ih]

theorem busy_begin (limits : Limits) (c : Client) (taken : Bool) (v : Visit) : (begin limits c taken v).busy ≤ taken.toNat := by
  unfold begin
  split
  · exact Nat.zero_le _
  split
  · exact Nat.zero_le _
  split
  · exact Nat.zero_le _
  · exact Nat.le_refl _

/-- A step makes at most one more worker busy, and none unless there is a free one. -/
theorem Step.busy_le (h : Step limits c free entries t kept t') : t'.busy ≤ t.busy ∨ free ∧ t'.busy ≤ t.busy + 1 := by
  induction h with
  | take hfree => exact .inr ⟨hfree, busy_begin limits c true _⟩
  | read _ => exact .inl (Nat.le_refl _)
  | interrupted => exact .inl (Nat.zero_le _)
  | unavailable => exact .inl (Nat.zero_le _)
  | submit =>
    rw [busy, busy, busyAll_waiting]
    exact .inl (Nat.le_refl _)
  | look _ => exact .inl (Nat.le_refl _)
  | crash =>
    rw [busy, busy]
    exact .inl (by omega)
  | gather =>
    rw [busy, busy, busyAll]
    exact .inl (by omega)
  | @makeInline _ w =>
    have hbegin := busy_begin limits c false w
    rw [Bool.toNat_false] at hbegin
    rw [busy, busy, busyAll, busyAll]
    exact .inl (by omega)
  | collect =>
    rw [busy, busy, busyAll, busyAll_append, busy]
    exact .inl (by omega)
  | finish =>
    rw [busy, busy]
    exact .inl (by omega)
  | belowLooking _ ih =>
    rw [busy, busy, busyAll_split, busyAll_split]
    rcases ih with hle | ⟨hfree, hle⟩
    · exact .inl (by omega)
    · exact .inr ⟨hfree, by omega⟩
  | belowCollecting _ ih =>
    rw [busy, busy, busyAll_split, busyAll_split]
    rcases ih with hle | ⟨hfree, hle⟩
    · exact .inl (by omega)
    · exact .inr ⟨hfree, by omega⟩
  | orphanCollecting _ ih =>
    rw [busy, busy, busyAll_split, busyAll_split]
    rcases ih with hle | ⟨hfree, hle⟩
    · exact .inl (by omega)
    · exact .inr ⟨hfree, by omega⟩
  | orphanDone _ ih =>
    rw [busy, busy, busyAll_split, busyAll_split]
    rcases ih with hle | ⟨hfree, hle⟩
    · exact .inl (by omega)
    · exact .inr ⟨hfree, by omega⟩

end Task

theorem Pool.Run.busy_le {n : Nat} {p q : Pool} (h : Pool.Run limits c n p q) (hp : Task.busyAll p.tasks ≤ limits.workers) :
    Task.busyAll q.tasks ≤ limits.workers := by
  induction h with
  | refl => exact hp
  | step _ hstep ih =>
    cases hstep with
    | task hstep =>
      show Task.busyAll (_ ++ _ :: _) ≤ limits.workers
      rw [Task.busyAll_split]
      rcases hstep.busy_le with hle | ⟨hfree, hle⟩
      · have hq : Task.busyAll (_ ++ _ :: _) ≤ limits.workers := ih hp
        rw [Task.busyAll_split] at hq
        omega
      · rw [Task.busyAll_split] at hfree
        omega

/-! ## There is less and less to do -/

section

variable (limits c outcome ask)

/-- So many steps are there at most behind the record of a visit, if those below it are known. -/
def weightBehind (weightBelow : Visit → Nat) (v : Visit) : Nat :=
  match (Record.published ask v.domain).run with
  | .ok (.ok record) =>
    (hostsAccess c v record).size outcome + 2 + ((children limits v record).map fun child => weightBelow child + 1).sum
  | _ => 0

/-- So many steps are there at most in a visit that has so many levels left. -/
def weight : Nat → Visit → Nat
  | 0, _ => 1
  | room + 1, v => (recordAccess c v).size outcome + 2 + weightBehind limits c outcome ask (fun child => weight room child) v

/-- The same for the levels that a visit has left by its depth. -/
def visitWeight (v : Visit) : Nat := weight limits c outcome ask (roomAt limits v.depth) v

mutual

/-- So many steps are left at most. -/
def Task.cost : Task → Nat
  | .waiting v => visitWeight limits c outcome ask v
  | .reading v _ left => left.size outcome + 1 + weightBehind limits c outcome ask (visitWeight limits c outcome ask) v
  | .looking _ _ _ left below => left.size outcome + 2 + Task.costAll below
  | .collecting _ _ _ _ orphans below => 1 + Task.costAll orphans + Task.costAll below
  | .done _ _ orphans => Task.costAll orphans

def Task.costAll : List Task → Nat
  | [] => 0
  | t :: ts => t.cost + 1 + Task.costAll ts

end

end

theorem visitWeight_asks (h : v.Asks limits) :
    visitWeight limits c outcome ask v
      = (recordAccess c v).size outcome + 2 + weightBehind limits c outcome ask (visitWeight limits c outcome ask) v := by
  obtain ⟨room, hroom⟩ : ∃ room, roomAt limits v.depth = room + 1 :=
    ⟨(limits.maxDepth - v.depth).toNat, by have hin := h.inDepth; unfold roomAt; omega⟩
  have hbelow : ∀ record, ∀ child ∈ children limits v record,
      weight limits c outcome ask room child + 1 = visitWeight limits c outcome ask child + 1 := by
    intro record child hchild
    have hdepth := depth_of_child hchild
    have hroom' : roomAt limits child.depth = room := by unfold roomAt at hroom ⊢; omega
    rw [visitWeight, hroom']
  rw [visitWeight, hroom, weight, weightBehind, weightBehind]
  rcases (Record.published ask v.domain).run with i | u | record
  · rfl
  · rfl
  · dsimp only
    rw [List.map_congr_left (hbelow record)]

theorem visitWeight_pos (v : Visit) : 0 < visitWeight limits c outcome ask v := by
  unfold visitWeight
  cases roomAt limits v.depth with
  | zero => exact Nat.one_pos
  | succ room =>
    rw [weight]
    omega

namespace Task

theorem costAll_append (ts us : List Task) :
    costAll limits c outcome ask (ts ++ us) = costAll limits c outcome ask ts + costAll limits c outcome ask us := by
  induction ts with
  | nil => exact (Nat.zero_add _).symm
  | cons t ts ih =>
    rw [List.cons_append, costAll, costAll, ih]
    omega

theorem costAll_split (before : List Task) (t : Task) (after : List Task) :
    costAll limits c outcome ask (before ++ t :: after)
      = costAll limits c outcome ask before + (t.cost limits c outcome ask + 1 + costAll limits c outcome ask after) := by
  rw [costAll_append, costAll]

theorem costAll_waiting (vs : List Visit) :
    costAll limits c outcome ask (vs.map .waiting)
      = (vs.map fun v => visitWeight limits c outcome ask v + 1).sum := by
  induction vs with
  | nil => rfl
  | cons v vs ih => rw [List.map_cons, costAll, cost, ih, List.map_cons, List.sum_cons]

theorem cost_begin_lt (taken : Bool) (v : Visit) :
    (begin limits c taken v).cost limits c outcome ask < visitWeight limits c outcome ask v := by
  by_cases hasks : v.Asks limits
  · rw [begin_asks hasks, visitWeight_asks hasks, cost]
    omega
  · rw [begin_cut hasks ask, cost, costAll]
    exact visitWeight_pos v

/-- Each step leaves less to do. -/
theorem Step.cost_lt (hconstant : Constant c outcome ask) (h : Step limits c free entries t kept t')
    (ht : t.Fits limits outcome ask) (hentries : Agrees outcome entries) :
    t'.cost limits c outcome ask < t.cost limits c outcome ask := by
  induction h with
  | take _ => exact cost_begin_lt _ _
  | read haccess =>
    cases ht with
    | reading _ hleft =>
      have hlt := haccess.size_lt hconstant.source hleft hentries
      rw [cost, cost]
      omega
  | interrupted =>
    rw [cost, cost, costAll]
    omega
  | unavailable =>
    rw [cost, cost, costAll]
    omega
  | submit =>
    cases ht with
    | reading hasks hleft =>
      rw [cost, cost, costAll_waiting, weightBehind, hleft.of_done]
      dsimp only
      omega
  | look haccess =>
    cases ht with
    | looking _ _ hleft _ _ =>
      have hlt := haccess.size_lt hconstant.source hleft hentries
      rw [cost, cost]
      omega
  | crash =>
    rw [cost, cost]
    omega
  | gather =>
    rw [cost, cost, costAll]
    omega
  | @makeInline _ w =>
    have hlt : (begin limits c false w).cost limits c outcome ask < visitWeight limits c outcome ask w := cost_begin_lt false w
    rw [cost, cost, costAll, costAll, cost]
    omega
  | collect =>
    rw [cost, cost, costAll, costAll_append, cost]
    omega
  | finish =>
    rw [cost, cost, costAll]
    omega
  | belowLooking _ ih =>
    cases ht with
    | looking _ _ _ _ hbelow =>
      have hlt := ih (hbelow _ (by simp))
      rw [cost, cost, costAll_split, costAll_split]
      omega
  | belowCollecting _ ih =>
    cases ht with
    | collecting _ _ hbelow =>
      have hlt := ih (hbelow _ (by simp))
      rw [cost, cost, costAll_split, costAll_split]
      omega
  | orphanCollecting _ ih =>
    cases ht with
    | collecting _ horphans _ =>
      have hlt := ih (horphans _ (by simp))
      rw [cost, cost, costAll_split, costAll_split]
      omega
  | orphanDone _ ih =>
    cases ht with
    | done _ horphans =>
      have hlt := ih (horphans _ (by simp))
      rw [cost, cost, costAll_split, costAll_split]
      omega

end Task

section

variable {depth : Int} {domains : List String} {p q : Pool}

/-- No run is longer than what there was to do. -/
theorem Pool.Run.length_le (hconstant : Constant c outcome ask) (hprompt : Prompt ask) {n : Nat} (h : Pool.Run limits c n p q)
    (hp : p.Sound limits outcome ask depth domains) :
    n + Task.costAll limits c outcome ask q.tasks ≤ Task.costAll limits c outcome ask p.tasks := by
  induction h with
  | refl => omega
  | step hrun hstep ih =>
    have hsound := hrun.sound hconstant hprompt hp
    have hle := ih hp
    cases hstep with
    | task hstep =>
      have hlt := hstep.cost_lt hconstant (hsound.fits _ (by simp)) hsound.agrees
      rw [Task.costAll_split] at hle ⊢
      omega

end

/-! ## Everything in one go -/

/-- A client that resolves the domains one after the other comes to what the settled outcomes lead to. -/
theorem flatten_run (hconstant : Constant c outcome ask) (depth : Int) (domains : List String) {m : Memory}
    (hm : Agrees outcome m.cache.entries) :
    ((flatten limits c.query depth domains).run m).1 = (flatten limits ask depth domains).run := by
  have hyields := hconstant.yields_run (regular_flatten limits depth domains)
  rw [← run_flatten limits c.query, ← Access.exec_run, hyields.exec hconstant.source hm, run_flatten]

/-! ## One flattening -/

/-- How many workers there are makes no difference to a branch. -/
theorem resolve_workers (limits : Limits) (workers : Nat) (ask : Ask Id) (v : Visit) :
    resolve { limits with workers } ask v = resolve limits ask v := by
  have hexpired : Limits.expired { limits with workers } = limits.expired := rfl
  have hchildren : ∀ v record, children { limits with workers } v record = children limits v record := fun _ _ => rfl
  have hinterrupted : ∀ name i, interrupted { limits with workers } name i = interrupted limits name i := by
    intro name i
    cases i <;> rfl
  have hawaited : ∀ name b, awaited { limits with workers } name b = awaited limits name b := by
    intro name b
    rw [awaited, awaited, hinterrupted]
  have hcollected : ∀ v gathered below,
      collected { limits with workers } v gathered below = collected limits v gathered below := fun _ _ _ => rfl
  unfold resolve
  show walk _ ask (roomAt limits v.depth) v = _
  generalize roomAt limits v.depth = room
  induction room generalizing v with
  | zero => rfl
  | succ room ih =>
    rw [walk_succ, walk_succ]
    simp only [followed, hexpired, hchildren, hinterrupted, hawaited, hcollected, ih]

theorem results_workers (limits : Limits) (workers : Nat) (ask : Ask Id) (depth : Int) (domains : List String) :
    results { limits with workers } ask depth domains = results limits ask depth domains := by
  unfold results
  simp only [resolve_workers]

/-- That a pool comes to a flattening, whoever goes on when: no run goes on forever, none stops before all domains are
done, and what is returned then is this flattening. -/
structure Pool.ComesTo (limits : Limits) (c : Client) (p : Pool) (f : Flattening) : Prop where
  ends : ∃ bound, ∀ n q, Pool.Run limits c n p q → n ≤ bound
  goes_on : ∀ n q, Pool.Run limits c n p q → q.flattening? = none → ∃ r, Pool.Step limits c q r
  result : ∀ n q g, Pool.Run limits c n p q → q.flattening? = some g → g = f

theorem Pool.comesTo (hconstant : Constant c outcome ask) (hprompt : Prompt ask) (hworkers : 1 ≤ limits.workers)
    (hentries : Agrees outcome entries) (depth : Int) (domains : List String) :
    (Pool.start entries depth domains).ComesTo limits c (.ofResults (results limits ask depth domains)) := by
  have hstart : (Pool.start entries depth domains).Sound limits outcome ask depth domains := Pool.sound_start hentries
  refine ⟨⟨_, fun n q hrun => Nat.le_trans (Nat.le_add_right _ _) (hrun.length_le hconstant hprompt hstart)⟩,
    fun n q hrun hnone => ?_, fun n q g hrun hsome => ?_⟩
  · exact (hrun.sound hconstant hprompt hstart).exists_step hworkers hnone c
  · exact (hrun.sound hconstant hprompt hstart).flattening hsome

/-- That flattening some domains with a client comes to one flattening: in pools of any size, from every cache that
agrees with the source and however their tasks take turns, and for who resolves one domain after the other. -/
structure FlattensTo (limits : Limits) (c : Client) (outcome : Question → Outcome) (depth : Int) (domains : List String)
    (f : Flattening) : Prop where
  pooled : ∀ workers, 1 ≤ workers → ∀ entries, Agrees outcome entries →
    (Pool.start entries depth domains).ComesTo { limits with workers } c f
  inOrder : ∀ workers, 1 ≤ workers → ∀ m : Memory, Agrees outcome m.cache.entries →
    ((flatten { limits with workers } c.query depth domains).run m).1 = f

theorem flattensTo_results (hconstant : Constant c outcome ask) (hprompt : Prompt ask) (limits : Limits) (depth : Int)
    (domains : List String) : FlattensTo limits c outcome depth domains (.ofResults (results limits ask depth domains)) where
  pooled workers hworkers entries hentries := by
    rw [← results_workers limits workers]
    exact Pool.comesTo hconstant hprompt hworkers hentries depth domains
  inOrder workers hworkers m hm := by
    rw [flatten_run hconstant depth domains hm, ← results_workers limits workers]
    exact flatten_eq hprompt hworkers depth domains

/-- Two flattenings of the same domains are related one by one if every two visits are. -/
theorem forall₂_results {limits limits' : Limits} {ask ask' : Ask Id} {R : DomainResult → DomainResult → Prop}
    (h : ∀ v, R (resolve limits ask v).run.report (resolve limits' ask' v).run.report) (depth : Int) (domains : List String) :
    List.Forall₂ (fun e e' => e.1 = e'.1 ∧ R e.2 e'.2) (results limits ask depth domains)
      (results limits' ask' depth domains) := by
  unfold results
  rw [List.forall₂_map_left_iff, List.forall₂_map_right_iff]
  exact List.forall₂_same.mpr fun d _ => ⟨rfl, h _⟩

/-- At a source that answers each question in one way there is one flattening of some domains. Pools of any size come
to it, from every cache that agrees with the source and however their tasks take turns, and so does who resolves one
domain after the other; and each domain has the result in it that it has if it is flattened alone. -/
theorem flattening_ignores_schedule (limits : Limits) {c : Client} {outcome : Question → Outcome}
    (hsource : ∀ q asked, c.source q asked = outcome q) (hprompt : ∀ q, outcome q ≠ .silent) (depth : Int)
    (domains : List String) :
    ∃ f : Flattening,
      (∀ workers, 1 ≤ workers → ∀ entries, Agrees outcome entries →
        (Pool.start entries depth domains).ComesTo { limits with workers } c f) ∧
      (∀ workers, 1 ≤ workers → ∀ m : Memory, Agrees outcome m.cache.entries →
        ((flatten { limits with workers } c.query depth domains).run m).1 = f) ∧
      ∀ d ∈ domains, ∃ g r,
        (∀ workers, 1 ≤ workers → (Pool.start [] depth [d]).ComesTo { limits with workers } c g) ∧
        f.find? (Domain.key d) = some r ∧ g.find? (Domain.key d) = some r := by
  have hconstant : Constant c outcome (settled c outcome) := constant_settled hsource
  have hsettled : Prompt (settled c outcome) := settled_ne_silent c hprompt
  have hpool : ∀ workers, 1 ≤ workers → ∀ entries, Agrees outcome entries → ∀ ds,
      (Pool.start entries depth ds).ComesTo { limits with workers } c
        (.ofResults (results limits (settled c outcome) depth ds)) := by
    intro workers hworkers entries hentries ds
    rw [← results_workers limits workers]
    exact Pool.comesTo hconstant hsettled hworkers hentries depth ds
  refine ⟨.ofResults (results limits (settled c outcome) depth domains), fun workers hworkers entries hentries => ?_,
    fun workers hworkers m hm => ?_, fun d hd => ?_⟩
  · exact hpool workers hworkers entries hentries domains
  · rw [flatten_run hconstant depth domains hm, ← results_workers limits workers]
    exact flatten_eq hsettled hworkers depth domains
  · have hempty : Agrees outcome [] := by
      intro e he
      cases he
    exact ⟨_, _, fun workers hworkers => hpool workers hworkers [] hempty [d],
      find?_results limits (settled c outcome) depth hd, find?_results limits (settled c outcome) depth List.mem_cons_self⟩

/-- A domain that includes another one twice, and that one. -/
def includingTwice : Question → Outcome := fun q =>
  if q = ⟨"a.example", "TXT"⟩ then .answers ["v=spf1 include:b.example include:b.example -all"]
  else if q = ⟨"b.example", "TXT"⟩ then .answers ["v=spf1 ip4:192.0.2.1 -all"]
  else .failed (.noRecords q)

theorem flattening_ignores_schedule_including_twice :
    (∀ q asked, (⟨some 0, fun q _ => includingTwice q⟩ : Client).source q asked = includingTwice q) ∧
      (∀ q, includingTwice q ≠ .silent) ∧
      ∃ f : Flattening, f.status = .safe ∧ f.totalIps = 1 ∧ ∀ workers, 1 ≤ workers →
        (Pool.start [] 0 ["a.example", "b.example"]).ComesTo ⟨true, 10, 20, workers⟩
          ⟨some 0, fun q _ => includingTwice q⟩ f := by
  have hsource : ∀ q asked, (⟨some 0, fun q _ => includingTwice q⟩ : Client).source q asked = includingTwice q :=
    fun _ _ => rfl
  have hprompt : ∀ q, includingTwice q ≠ .silent := by
    intro q
    unfold includingTwice
    split
    · exact Outcome.noConfusion
    split <;> exact Outcome.noConfusion
  have hempty : Agrees includingTwice [] := by
    intro e he
    cases he
  obtain ⟨f, hpool, hone, -⟩ := flattening_ignores_schedule ⟨true, 10, 20, 1⟩ hsource hprompt 0 ["a.example", "b.example"]
  have hf := hone 1 (by decide) ⟨⟨10, true, []⟩, []⟩ hempty
  have hsafe : f.status = .safe ∧ f.totalIps = 1 := by
    rw [← hf]
    decide +kernel
  exact ⟨hsource, hprompt, f, hsafe.1, hsafe.2, fun workers hworkers => hpool workers hworkers [] hempty⟩

end SenderPolicy.Flatten
