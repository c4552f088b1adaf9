/-
  SenderPolicy.Proofs.Flatten.Pool — branches shared out among workers.

  Each visit is a task. A free worker may begin with any task that waits; the domains that a record goes on to
  become tasks as soon as the record is known, and the one who has them made looks up the addresses of its own terms
  first. Then it collects their results in order: what is done is taken over, what runs is waited for, and what nobody
  has begun with it makes itself. So all tasks may be under way at the same time, each at any of its accesses to
  the cache and the source. A task that breaks down leaves the tasks below it without anybody who waits for them.
  Nothing is assumed of who goes on when, but nobody gives up waiting. The task of each visit always stands for the result of making the
  visit alone, whatever the others do (`Fits`).
  - `Task.Step.sound`, `Pool.Run.sound`: each step keeps that, and the agreement of the cache with the source.
  - `Pool.Sound.flattening`: once all domains are done, they are reported as if each of them were resolved alone.
-/

import SenderPolicy.Proofs.Dns.Accesses
import SenderPolicy.Proofs.Flatten.Prompt

namespace SenderPolicy.Flatten

open Dns

variable {limits : Limits} {c : Client} {outcome : Question → Outcome} {ask : Ask Id}
  {entries kept : Entries} {v : Visit} {record : String}

/-! ## Tasks -/

/-- Looking up a record, and the addresses of its terms, access by access. -/
abbrev Reading := Access (Except Interruption (Except Record.Unavailable String))

abbrev Looking := Access (Except Interruption (List Branch))

/-- What a visit looks up of the record of its domain. -/
def recordAccess (c : Client) (v : Visit) : Reading :=
  (Record.published c.queryAccess v.domain).run

/-- What a visit looks up of the addresses of its record's terms. -/
def hostsAccess (c : Client) (v : Visit) (record : String) : Looking :=
  ((planOf record).hosts.mapM (hostsBranch c.queryAccess v.domain)).run

inductive Task where
  /-- Nobody has begun with it. -/
  | waiting (v : Visit)
  /-- Looks up the record. All tasks under way say whether a worker has taken them, or the task above them. -/
  | reading (v : Visit) (taken : Bool) (left : Reading)
  | looking (v : Visit) (taken : Bool) (record : String) (left : Looking) (below : List Task)
  /-- Waits for the tasks below, of which the first ones have been collected. Nobody waits for the orphans. -/
  | collecting (v : Visit) (taken : Bool) (gathered : Branch) (results : List Branch) (orphans below : List Task)
  | done (v : Visit) (b : Branch) (orphans : List Task)

namespace Task

def visit : Task → Visit
  | .waiting v | .reading v .. | .looking v .. | .collecting v .. | .done v .. => v

/-- The task of a visit that has just been begun. -/
def begin (limits : Limits) (c : Client) (taken : Bool) (v : Visit) : Task :=
  if limits.maxDepth < v.depth then .done v (.failure v.domain (.tooDeep v.depth limits.maxDepth)) []
  else if v.domain ∈ v.path then .done v (.failure v.domain (.loop (v.path ++ [v.domain]))) []
  else if limits.expired then .done v (.failure v.domain (.timedOut limits.timeout)) []
  else .reading v taken (recordAccess c v)

/-- What can happen to a task and the cache next; `free` says that there is a worker to begin with one more. -/
inductive Step (limits : Limits) (c : Client) (free : Prop) : Entries → Task → Entries → Task → Prop
  | take {entries : Entries} {v : Visit} : free → Step limits c free entries (.waiting v) entries (begin limits c true v)
  | read {entries kept : Entries} {v : Visit} {taken : Bool} {left left' : Reading} :
      AccessStep c entries left kept left' → Step limits c free entries (.reading v taken left) kept (.reading v taken left')
  | interrupted {entries : Entries} {v : Visit} {taken : Bool} {i : Interruption} :
      Step limits c free entries (.reading v taken (.done (.error i))) entries (.done v (Flatten.interrupted limits v.name i) [])
  | unavailable {entries : Entries} {v : Visit} {taken : Bool} {u : Record.Unavailable} :
      Step limits c free entries (.reading v taken (.done (.ok (.error u)))) entries
        (.done v (.failure v.domain (.unavailable u)) [])
  -- The tasks below are there before the task goes on with its own terms, so others may begin with them at once.
  | submit {entries : Entries} {v : Visit} {taken : Bool} {record : String} :
      Step limits c free entries (.reading v taken (.done (.ok (.ok record)))) entries
        (.looking v taken record (hostsAccess c v record) ((children limits v record).map .waiting))
  | look {entries kept : Entries} {v : Visit} {taken : Bool} {record : String} {left left' : Looking}
      {below : List Task} :
      AccessStep c entries left kept left' →
      Step limits c free entries (.looking v taken record left below) kept (.looking v taken record left' below)
  | crash {entries : Entries} {v : Visit} {taken : Bool} {record : String} {i : Interruption} {below : List Task} :
      Step limits c free entries (.looking v taken record (.done (.error i)) below) entries
        (.done v { Flatten.interrupted limits v.name i with pending := children limits v record } below)
  | gather {entries : Entries} {v : Visit} {taken : Bool} {record : String} {hosts : List Branch} {below : List Task} :
      Step limits c free entries (.looking v taken record (.done (.ok hosts)) below) entries
        (.collecting v taken (own v record ++ Branch.join hosts) [] [] below)
  -- Only the first of the tasks below is looked at: it is made, taken over or waited for.
  | makeInline {entries : Entries} {v w : Visit} {taken : Bool} {gathered : Branch} {results : List Branch}
      {orphans below : List Task} :
      Step limits c free entries (.collecting v taken gathered results orphans (.waiting w :: below)) entries
        (.collecting v taken gathered results orphans (begin limits c false w :: below))
  | collect {entries : Entries} {v w : Visit} {taken : Bool} {gathered b : Branch} {results : List Branch}
      {orphans orphans' below : List Task} :
      Step limits c free entries (.collecting v taken gathered results orphans (.done w b orphans' :: below)) entries
        (.collecting v taken gathered (results ++ [b]) (orphans ++ orphans') below)
  | finish {entries : Entries} {v : Visit} {taken : Bool} {gathered : Branch} {results : List Branch} {orphans : List Task} :
      Step limits c free entries (.collecting v taken gathered results orphans []) entries
        (.done v (gathered ++ Branch.join results) orphans)
  -- In the meantime anything may happen to the tasks below, and to those that nobody waits for.
  | belowLooking {entries kept : Entries} {v : Visit} {taken : Bool} {record : String} {left : Looking}
      {t t' : Task} {before after : List Task} :
      Step limits c free entries t kept t' →
      Step limits c free entries (.looking v taken record left (before ++ t :: after)) kept
        (.looking v taken record left (before ++ t' :: after))
  | belowCollecting {entries kept : Entries} {v : Visit} {taken : Bool} {gathered : Branch} {results : List Branch}
      {orphans before after : List Task} {t t' : Task} :
      Step limits c free entries t kept t' →
      Step limits c free entries (.collecting v taken gathered results orphans (before ++ t :: after)) kept
        (.collecting v taken gathered results orphans (before ++ t' :: after))
  | orphanCollecting {entries kept : Entries} {v : Visit} {taken : Bool} {gathered : Branch} {results : List Branch}
      {before after below : List Task} {t t' : Task} :
      Step limits c free entries t kept t' →
      Step limits c free entries (.collecting v taken gathered results (before ++ t :: after) below) kept
        (.collecting v taken gathered results (before ++ t' :: after) below)
  | orphanDone {entries kept : Entries} {v : Visit} {b : Branch} {before after : List Task} {t t' : Task} :
      Step limits c free entries t kept t' →
      Step limits c free entries (.done v b (before ++ t :: after)) kept (.done v b (before ++ t' :: after))

/-- What the task has to report when it is done. -/
def report? : Task → Option (String × DomainResult)
  | .done v b _ => some (v.name, b.report)
  | _ => none

mutual

/-- So many workers are busy with the task and those below it. -/
def busy : Task → Nat
  | .waiting _ => 0
  | .reading _ taken _ => taken.toNat
  | .looking _ taken _ _ below => taken.toNat + busyAll below
  | .collecting _ taken _ _ orphans below => taken.toNat + busyAll orphans + busyAll below
  | .done _ _ orphans => busyAll orphans

def busyAll : List Task → Nat
  | [] => 0
  | t :: ts => t.busy + busyAll ts

end

end Task

/-! ## The pool -/

structure Pool where
  entries : Entries
  tasks : List Task

namespace Pool

/-- Nobody has begun yet with the domains that are asked for. -/
def start (entries : Entries) (depth : Int) (domains : List String) : Pool :=
  ⟨entries, (requested domains).map fun d => .waiting ⟨depth, [], d⟩⟩

inductive Step (limits : Limits) (c : Client) : Pool → Pool → Prop
  | task {entries kept : Entries} {t t' : Task} {before after : List Task} :
      Task.Step limits c (Task.busyAll (before ++ t :: after) < limits.workers) entries t kept t' →
      Step limits c ⟨entries, before ++ t :: after⟩ ⟨kept, before ++ t' :: after⟩

/-- So many steps lead from one pool to another. -/
inductive Run (limits : Limits) (c : Client) : Nat → Pool → Pool → Prop
  | refl (p : Pool) : Run limits c 0 p p
  | step {n : Nat} {p q r : Pool} : Run limits c n p q → Step limits c q r → Run limits c (n + 1) p r

/-- What is returned, as soon as all domains are done. -/
def flattening? (p : Pool) : Option Flattening := (p.tasks.mapM Task.report?).map .ofResults

end Pool

/-! ## What a task stands for -/

section

variable (limits outcome ask)

/-- That a task and those below it are on the way to the results of their visits. -/
inductive Task.Fits : Task → Prop
  | waiting (v : Visit) : Fits (.waiting v)
  | reading {v : Visit} {taken : Bool} {left : Reading} :
      v.Asks limits → Yields outcome left (Record.published ask v.domain).run → Fits (.reading v taken left)
  | looking {v : Visit} {taken : Bool} {record : String} {left : Looking} {below : List Task} :
      v.Asks limits → (Record.published ask v.domain).run = .ok (.ok record) →
      Yields outcome left ((planOf record).hosts.mapM (hostsBranch ask v.domain)).run →
      below.map Task.visit = children limits v record → (∀ t ∈ below, Fits t) → Fits (.looking v taken record left below)
  | collecting {v : Visit} {taken : Bool} {gathered : Branch} {results : List Branch} {orphans below : List Task} :
      gathered ++ Branch.join results ++ Branch.join ((below.map Task.visit).map (resolve limits ask)) = resolve limits ask v →
      (∀ t ∈ orphans, Fits t) → (∀ t ∈ below, Fits t) → Fits (.collecting v taken gathered results orphans below)
  | done {v : Visit} {b : Branch} {orphans : List Task} :
      b = resolve limits ask v → (∀ t ∈ orphans, Fits t) → Fits (.done v b orphans)

end

theorem yields_record (h : Constant c outcome ask) (v : Visit) :
    Yields outcome (recordAccess c v) (Record.published ask v.domain).run := by
  have hyields := h.yields_run (regular_record v.domain).only
  rw [run_published, run_published] at hyields
  exact hyields

theorem yields_hosts (h : Constant c outcome ask) (v : Visit) (record : String) :
    Yields outcome (hostsAccess c v record) ((planOf record).hosts.mapM (hostsBranch ask v.domain)).run := by
  have hyields := h.yields_run (regular_hosts v.domain (planOf record).hosts).only
  rw [run_hosts, run_hosts] at hyields
  exact hyields

theorem begin_cut (h : ¬ v.Asks limits) (ask : Ask Id) (c : Client) (taken : Bool) :
    Task.begin limits c taken v = .done v (resolve limits ask v) [] := by
  rw [resolve_eq]
  unfold Task.begin visit
  rcases idle_cases h with hdeep | ⟨hdeep, hloop⟩ | ⟨hdeep, hfresh, htime⟩
  · rw [if_pos hdeep, if_pos hdeep]
    rfl
  · rw [if_neg hdeep, if_neg hdeep, if_pos hloop, if_pos hloop]
    rfl
  · rw [if_neg hdeep, if_neg hdeep, if_neg hfresh, if_neg hfresh, if_pos htime, if_pos htime]
    rfl

theorem begin_asks (h : v.Asks limits) (c : Client) (taken : Bool) :
    Task.begin limits c taken v = .reading v taken (recordAccess c v) := by
  have hdeep : ¬ limits.maxDepth < v.depth := by have hin := h.inDepth; omega
  rw [Task.begin, if_neg hdeep, if_neg h.fresh, if_neg (by rw [h.timely]; exact Bool.false_ne_true)]

theorem visit_begin (limits : Limits) (c : Client) (taken : Bool) (v : Visit) : (Task.begin limits c taken v).visit = v := by
  unfold Task.begin
  split
  · rfl
  split
  · rfl
  split <;> rfl

theorem fits_begin (h : Constant c outcome ask) (limits : Limits) (taken : Bool) (v : Visit) :
    Task.Fits limits outcome ask (.begin limits c taken v) := by
  by_cases hasks : v.Asks limits
  · rw [begin_asks hasks]
    exact .reading hasks (yields_record h v)
  · rw [begin_cut hasks ask]
    exact .done rfl (by simp)

/-! ## One step -/

/-- What holds of all tasks holds of them with another one in the place of one. -/
theorem forall_replaced {P : Task → Prop} {before after : List Task} {t t' : Task} (h : ∀ u ∈ before ++ t :: after, P u)
    (ht : P t') : ∀ u ∈ before ++ t' :: after, P u := by
  intro u hu
  rcases List.mem_append.mp hu with hu | hu
  · exact h u (List.mem_append_left _ hu)
  · rcases List.mem_cons.mp hu with rfl | hu
    · exact ht
    · exact h u (List.mem_append_right _ (List.mem_cons_of_mem _ hu))

theorem map_visit_replaced {before after : List Task} {t t' : Task} (h : t'.visit = t.visit) :
    (before ++ t' :: after).map Task.visit = (before ++ t :: after).map Task.visit := by
  rw [List.map_append, List.map_append, List.map_cons, List.map_cons, h]

/-- A task stays the one of its visit. -/
theorem Task.Step.visit_eq {free : Prop} {t t' : Task} (h : Task.Step limits c free entries t kept t') : t'.visit = t.visit := by
  cases h with
  | take _ => exact visit_begin _ _ _ _
  | _ => rfl

theorem fits_of_mem_map_waiting {vs : List Visit} : ∀ t ∈ vs.map Task.waiting, Task.Fits limits outcome ask t := by
  intro t ht
  obtain ⟨v, -, rfl⟩ := List.mem_map.mp ht
  exact .waiting v

/-- A step keeps what the task stands for, and the agreement of the cache. -/
theorem Task.Step.sound (hconstant : Constant c outcome ask) (hprompt : Prompt ask) {free : Prop} {t t' : Task}
    (h : Task.Step limits c free entries t kept t') (ht : t.Fits limits outcome ask) (hentries : Agrees outcome entries) :
    t'.Fits limits outcome ask ∧ Agrees outcome kept := by
  induction h with
  | take _ => exact ⟨fits_begin hconstant limits _ _, hentries⟩
  | read haccess =>
    cases ht with
    | reading hasks hleft =>
      obtain ⟨hleft, hkept⟩ := haccess.sound hconstant.source hleft hentries
      exact ⟨.reading hasks hleft, hkept⟩
  | interrupted =>
    cases ht with
    | reading hasks hleft =>
      refine ⟨.done ?_ (by simp), hentries⟩
      rw [resolve_asks hprompt hasks, hleft.of_done]
  | unavailable =>
    cases ht with
    | reading hasks hleft =>
      refine ⟨.done ?_ (by simp), hentries⟩
      rw [resolve_asks hprompt hasks, hleft.of_done]
  | submit =>
    cases ht with
    | reading hasks hleft =>
      refine ⟨.looking hasks hleft.of_done (yields_hosts hconstant _ _) ?_ fits_of_mem_map_waiting, hentries⟩
      rw [List.map_map]
      exact List.map_id _
  | look haccess =>
    cases ht with
    | looking hasks hrecord hleft hvisits hbelow =>
      obtain ⟨hleft, hkept⟩ := haccess.sound hconstant.source hleft hentries
      exact ⟨.looking hasks hrecord hleft hvisits hbelow, hkept⟩
  | crash =>
    cases ht with
    | looking hasks hrecord hleft hvisits hbelow =>
      refine ⟨.done ?_ hbelow, hentries⟩
      rw [resolve_asks hprompt hasks, hrecord]
      dsimp only
      rw [hleft.of_done]
  | gather =>
    cases ht with
    | looking hasks hrecord hleft hvisits hbelow =>
      refine ⟨.collecting ?_ (by simp) hbelow, hentries⟩
      rw [resolve_asks hprompt hasks, hrecord, hvisits, Branch.join_nil, Branch.append_empty]
      dsimp only
      rw [hleft.of_done]
  | makeInline =>
    cases ht with
    | collecting hresult horphans hbelow =>
      refine ⟨.collecting ?_ horphans ?_, hentries⟩
      · rw [List.map_cons, visit_begin]
        exact hresult
      · obtain ⟨-, hbelow⟩ := List.forall_mem_cons.mp hbelow
        exact List.forall_mem_cons.mpr ⟨fits_begin hconstant limits _ _, hbelow⟩
  | collect =>
    cases ht with
    | collecting hresult horphans hbelow =>
      obtain ⟨hfirst, hbelow⟩ := List.forall_mem_cons.mp hbelow
      cases hfirst with
      | done hb horphans' =>
        refine ⟨.collecting ?_ ?_ hbelow, hentries⟩
        · rw [← hresult, hb, Branch.join_append, Branch.join_cons, Branch.join_nil, Branch.append_empty]
          simp only [List.map_cons, Task.visit, Branch.join_cons, Branch.append_assoc]
        · intro t ht
          rcases List.mem_append.mp ht with ht | ht
          · exact horphans t ht
          · exact horphans' t ht
  | finish =>
    cases ht with
    | collecting hresult horphans _ =>
      refine ⟨.done ?_ horphans, hentries⟩
      rw [← hresult]
      exact (Branch.append_empty _).symm
  | belowLooking hstep ih =>
    cases ht with
    | looking hasks hrecord hleft hvisits hbelow =>
      obtain ⟨ht', hkept⟩ := ih (hbelow _ (by simp))
      refine ⟨.looking hasks hrecord hleft ?_ (forall_replaced hbelow ht'), hkept⟩
      rw [map_visit_replaced hstep.visit_eq, hvisits]
  | belowCollecting hstep ih =>
    cases ht with
    | collecting hresult horphans hbelow =>
      obtain ⟨ht', hkept⟩ := ih (hbelow _ (by simp))
      refine ⟨.collecting ?_ horphans (forall_replaced hbelow ht'), hkept⟩
      rw [map_visit_replaced hstep.visit_eq, hresult]
  | orphanCollecting _ ih =>
    cases ht with
    | collecting hresult horphans hbelow =>
      obtain ⟨ht', hkept⟩ := ih (horphans _ (by simp))
      exact ⟨.collecting hresult (forall_replaced horphans ht') hbelow, hkept⟩
  | orphanDone _ ih =>
    cases ht with
    | done hb horphans =>
      obtain ⟨ht', hkept⟩ := ih (horphans _ (by simp))
      exact ⟨.done hb (forall_replaced horphans ht'), hkept⟩

/-! ## A run -/

/-- What holds of a pool on its way: the cache agrees with the source, and the tasks are those of the domains. -/
structure Pool.Sound (limits : Limits) (outcome : Question → Outcome) (ask : Ask Id) (depth : Int) (domains : List String)
    (p : Pool) : Prop where
  agrees : Agrees outcome p.entries
  fits : ∀ t ∈ p.tasks, t.Fits limits outcome ask
  visits : p.tasks.map Task.visit = (requested domains).map fun d => ⟨depth, [], d⟩

section

variable {depth : Int} {domains : List String} {p q : Pool}

theorem Pool.sound_start (h : Agrees outcome entries) :
    (Pool.start entries depth domains).Sound limits outcome ask depth domains := by
  refine ⟨h, fun t ht => ?_, ?_⟩
  · obtain ⟨d, -, rfl⟩ := List.mem_map.mp ht
    exact .waiting _
  · exact List.map_map

theorem Pool.Step.sound (hconstant : Constant c outcome ask) (hprompt : Prompt ask) (h : Pool.Step limits c p q)
    (hp : p.Sound limits outcome ask depth domains) : q.Sound limits outcome ask depth domains := by
  cases h with
  | task hstep =>
    obtain ⟨ht', hkept⟩ := hstep.sound hconstant hprompt (hp.fits _ (by simp)) hp.agrees
    refine ⟨hkept, forall_replaced hp.fits ht', ?_⟩
    rw [map_visit_replaced hstep.visit_eq]
    exact hp.visits

theorem Pool.Run.sound (hconstant : Constant c outcome ask) (hprompt : Prompt ask) {n : Nat} (h : Pool.Run limits c n p q)
    (hp : p.Sound limits outcome ask depth domains) : q.Sound limits outcome ask depth domains := by
  induction h with
  | refl => exact hp
  | step _ hstep ih => exact hstep.sound hconstant hprompt (ih hp)

/-- Tasks that are all done report the results of their visits. -/
theorem reports_of_fits {tasks : List Task} {reports : List (String × DomainResult)} (h : tasks.mapM Task.report? = some reports)
    (hfits : ∀ t ∈ tasks, t.Fits limits outcome ask) :
    reports = (tasks.map Task.visit).map fun v => (v.name, (resolve limits ask v).run.report) := by
  induction tasks generalizing reports with
  | nil =>
    cases h
    rfl
  | cons t tasks ih =>
    obtain ⟨ht, htasks⟩ := List.forall_mem_cons.mp hfits
    rw [List.mapM_cons] at h
    obtain ⟨first, hfirst, h⟩ := Option.bind_eq_some_iff.mp h
    obtain ⟨rest, hrest, h⟩ := Option.bind_eq_some_iff.mp h
    cases h
    rw [ih hrest htasks, List.map_cons, List.map_cons]
    cases ht with
    | done hb _ =>
      cases hfirst
      rw [hb]
      rfl
    | _ => cases hfirst

/-- Once all domains are done, they are reported as if each of them were resolved alone. -/
theorem Pool.Sound.flattening {f : Flattening} (hp : p.Sound limits outcome ask depth domains) (hf : p.flattening? = some f) :
    f = .ofResults (results limits ask depth domains) := by
  obtain ⟨reports, hreports, rfl⟩ := Option.map_eq_some_iff.mp hf
  rw [reports_of_fits hreports hp.fits, hp.visits, List.map_map]
  rfl

end

end SenderPolicy.Flatten
