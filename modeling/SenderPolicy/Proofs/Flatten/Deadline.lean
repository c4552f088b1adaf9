/-
  SenderPolicy.Proofs.Flatten.Deadline — workers who run out of time.

  A flattening has so many seconds. The clock is looked at before a visit asks for anything, while a task waits for one
  that runs below it, and by whoever waits for all domains. Nothing is assumed of the clock here: each time
  somebody looks at it the time may be up, whatever it was a moment ago, so all that can happen in a pool is among these
  runs. A task that gives up waiting puts an error in the place of the result, and what it waited for goes on
  without anybody who waits for it. If the time allowed is more than a clock can count then nobody can wait at all: a task
  that would have to breaks down, and so does the wait for all domains, unless they are found done.
  - `Task.TimedStep.holds`, `Pool.TimedRun.holds`: what holds of all tasks is kept when the time is up.
  - `Pool.Closes.holds`: what is reported then.
  - `Pool.exists_ends`: the wait for a pool comes to something at any time.
  - `Task.Holds.puts`: what the tasks ask for on the way.
-/

import SenderPolicy.Proofs.Flatten.Invariants
import SenderPolicy.Proofs.Flatten.PoolEnds

namespace SenderPolicy.Flatten

open Dns

variable {limits : Limits} {c : Client} {entries kept : Entries} {P : Visit → Prop} {Q : Question → Prop} {B : Branch → Prop}

/-! ## Steps and runs -/

/-- What there is of a domain when the time is up. -/
def unresolved (limits : Limits) (name : String) : Branch := .failure name (.timedOut limits.timeout)

namespace Task

/-- The task of a visit that is begun when the time is up. -/
def late (limits : Limits) (v : Visit) : Task := .done v (unresolved limits v.domain) []

/-- What can happen to a task next if the time may be up. -/
inductive TimedStep (limits : Limits) (c : Client) (free : Prop) : Entries → Task → Entries → Task → Prop
  | step {entries kept : Entries} {t t' : Task} : Step limits c free entries t kept t' → TimedStep limits c free entries t kept t'
  | takeLate {entries : Entries} {v : Visit} :
      free → v.Asks limits → TimedStep limits c free entries (.waiting v) entries (late limits v)
  | inlineLate {entries : Entries} {v w : Visit} {taken : Bool} {gathered : Branch} {results : List Branch}
      {orphans below : List Task} :
      w.Asks limits → TimedStep limits c free entries (.collecting v taken gathered results orphans (.waiting w :: below)) entries
        (.collecting v taken gathered results orphans (late limits w :: below))
  | giveUp {entries : Entries} {v : Visit} {taken : Bool} {gathered : Branch} {results : List Branch} {t : Task}
      {orphans below : List Task} :
      t.Running → TimedStep limits c free entries (.collecting v taken gathered results orphans (t :: below)) entries
        (.collecting v taken gathered (results ++ [unresolved limits t.visit.name]) (orphans ++ [t]) below)
  | overflow {entries : Entries} {v : Visit} {taken : Bool} {gathered : Branch} {results : List Branch} {t : Task}
      {orphans below : List Task} :
      limits.endless = true → t.Running →
      TimedStep limits c free entries (.collecting v taken gathered results orphans (t :: below)) entries
        (.done v (.failure v.name .endless) (orphans ++ t :: below))
  | belowLooking {entries kept : Entries} {v : Visit} {taken : Bool} {record : String} {left : Looking}
      {t t' : Task} {before after : List Task} :
      TimedStep limits c free entries t kept t' →
      TimedStep limits c free entries (.looking v taken record left (before ++ t :: after)) kept
        (.looking v taken record left (before ++ t' :: after))
  | belowCollecting {entries kept : Entries} {v : Visit} {taken : Bool} {gathered : Branch} {results : List Branch}
      {orphans before after : List Task} {t t' : Task} :
      TimedStep limits c free entries t kept t' →
      TimedStep limits c free entries (.collecting v taken gathered results orphans (before ++ t :: after)) kept
        (.collecting v taken gathered results orphans (before ++ t' :: after))
  | orphanCollecting {entries kept : Entries} {v : Visit} {taken : Bool} {gathered : Branch} {results : List Branch}
      {before after below : List Task} {t t' : Task} :
      TimedStep limits c free entries t kept t' →
      TimedStep limits c free entries (.collecting v taken gathered results (before ++ t :: after) below) kept
        (.collecting v taken gathered results (before ++ t' :: after) below)
  | orphanDone {entries kept : Entries} {v : Visit} {b : Branch} {before after : List Task} {t t' : Task} :
      TimedStep limits c free entries t kept t' →
      TimedStep limits c free entries (.done v b (before ++ t :: after)) kept (.done v b (before ++ t' :: after))

/-- What is reported of a task by whoever waits for all of them. It may be done by the time when the last one is
looked at, and yet have been reported as late. -/
inductive Reported (limits : Limits) : Task → String × DomainResult → Prop
  | done (v : Visit) (b : Branch) (orphans : List Task) : Reported limits (.done v b orphans) (v.name, b.report)
  | late (t : Task) : Reported limits t (t.visit.name, (unresolved limits t.visit.name).report)

/-- The tasks of a visit at its start. Besides those that wait for a worker, whoever resolves a single domain begins
with it on the spot. -/
inductive Opens (limits : Limits) (c : Client) (v : Visit) : Task → Prop
  | waiting : Opens limits c v (.waiting v)
  | begun (taken : Bool) : Opens limits c v (.begin limits c taken v)
  | late : Opens limits c v (late limits v)

/-- That the next access of a task, or of one that it has to do with, puts a question to the source. -/
inductive Puts (q : Question) : Task → Prop
  | reading {v : Visit} {taken : Bool} {next : Outcome → Reading} : Puts q (.reading v taken (.resolve q next))
  | looking {v : Visit} {taken : Bool} {record : String} {next : Outcome → Looking} {below : List Task} :
      Puts q (.looking v taken record (.resolve q next) below)
  | belowLooking {v : Visit} {taken : Bool} {record : String} {left : Looking} {t : Task} {below : List Task} :
      t ∈ below → Puts q t → Puts q (.looking v taken record left below)
  | belowCollecting {v : Visit} {taken : Bool} {gathered : Branch} {results : List Branch} {t : Task}
      {orphans below : List Task} : t ∈ below → Puts q t → Puts q (.collecting v taken gathered results orphans below)
  | orphanCollecting {v : Visit} {taken : Bool} {gathered : Branch} {results : List Branch} {t : Task}
      {orphans below : List Task} : t ∈ orphans → Puts q t → Puts q (.collecting v taken gathered results orphans below)
  | orphanDone {v : Visit} {b : Branch} {t : Task} {orphans : List Task} : t ∈ orphans → Puts q t → Puts q (.done v b orphans)

end Task

namespace Pool

inductive TimedStep (limits : Limits) (c : Client) : Pool → Pool → Prop
  | task {entries kept : Entries} {t t' : Task} {before after : List Task} :
      Task.TimedStep limits c (Task.busyAll (before ++ t :: after) < limits.workers) entries t kept t' →
      TimedStep limits c ⟨entries, before ++ t :: after⟩ ⟨kept, before ++ t' :: after⟩

inductive TimedRun (limits : Limits) (c : Client) : Pool → Pool → Prop
  | refl (p : Pool) : TimedRun limits c p p
  | step {p q r : Pool} : TimedRun limits c p q → TimedStep limits c q r → TimedRun limits c p r

/-- What may be returned of a pool, be it done or not. -/
def Closes (limits : Limits) (p : Pool) (f : Flattening) : Prop :=
  ∃ reports, List.Forall₂ (Task.Reported limits) p.tasks reports ∧ f = .ofResults reports

/-- What the wait for a pool may come to. As a rule it can be over at any time; a wait that no clock can count is over
at once, and breaks down unless all domains are done. -/
inductive Ends (limits : Limits) (p : Pool) : Except LimitError Flattening → Prop
  | closed {f : Flattening} : limits.endless = false → p.Closes limits f → Ends limits p (.ok f)
  | done {f : Flattening} : p.flattening? = some f → Ends limits p (.ok f)
  | endless : limits.endless = true → p.flattening? = none → Ends limits p (.error .endless)

end Pool

/-! ## What is kept -/

theorem holds_late (h : Pieces B) (limits : Limits) (v : Visit) : (Task.late limits v).Holds P Q B :=
  .done (h.failure _ _) (List.forall_mem_nil _)

/-- Being late is an error like others, and who gives up waiting only forgets. -/
theorem Task.TimedStep.holds (h : Invariant limits P Q B) (hnormal : ∀ q, Q q → Q q.normalize) {free : Prop} {t t' : Task}
    (hstep : Task.TimedStep limits c free entries t kept t') (ht : t.Holds P Q B) : t'.Holds P Q B := by
  induction hstep with
  | step hstep => exact hstep.holds h hnormal ht
  | takeLate _ _ => exact holds_late h.toPieces limits _
  | inlineLate _ =>
    cases ht with
    | collecting hgathered hresults horphans hbelow =>
      have hrest := (List.forall_mem_cons.mp hbelow).2
      exact .collecting hgathered hresults horphans (List.forall_mem_cons.mpr ⟨holds_late h.toPieces limits _, hrest⟩)
  | giveUp _ =>
    cases ht with
    | collecting hgathered hresults horphans hbelow =>
      obtain ⟨hfirst, hrest⟩ := List.forall_mem_cons.mp hbelow
      refine .collecting hgathered ?_ (List.forall_mem_append.mpr ⟨horphans, List.forall_mem_singleton.mpr hfirst⟩) hrest
      exact List.forall_mem_append.mpr ⟨hresults, List.forall_mem_singleton.mpr (h.failure _ _)⟩
  | overflow _ _ =>
    cases ht with
    | collecting _ _ horphans hbelow => exact .done (h.failure _ _) (List.forall_mem_append.mpr ⟨horphans, hbelow⟩)
  | belowLooking _ ih =>
    cases ht with
    | looking hv hleft hhosts hbelow => exact .looking hv hleft hhosts (forall_replaced hbelow (ih (hbelow _ (by simp))))
  | belowCollecting _ ih =>
    cases ht with
    | collecting hgathered hresults horphans hbelow =>
      exact .collecting hgathered hresults horphans (forall_replaced hbelow (ih (hbelow _ (by simp))))
  | orphanCollecting _ ih =>
    cases ht with
    | collecting hgathered hresults horphans hbelow =>
      exact .collecting hgathered hresults (forall_replaced horphans (ih (horphans _ (by simp)))) hbelow
  | orphanDone _ ih =>
    cases ht with
    | done hb horphans => exact .done hb (forall_replaced horphans (ih (horphans _ (by simp))))

theorem Task.Opens.holds (h : Invariant limits P Q B) (hnormal : ∀ q, Q q → Q q.normalize) {v : Visit} {t : Task}
    (ht : t.Opens limits c v) (hv : P v) : t.Holds P Q B := by
  cases ht with
  | waiting => exact .waiting hv
  | begun taken => exact holds_begin h hnormal c taken hv
  | late => exact holds_late h.toPieces limits v

section

variable {p q : Pool}

/-- However a pool goes on, with whatever answers and whenever the time is up. -/
theorem Pool.TimedRun.holds (h : Invariant limits P Q B) (hnormal : ∀ q, Q q → Q q.normalize)
    (hrun : Pool.TimedRun limits c p q) (hp : ∀ t ∈ p.tasks, t.Holds P Q B) : ∀ t ∈ q.tasks, t.Holds P Q B := by
  induction hrun with
  | refl => exact hp
  | step _ hstep ih =>
    cases hstep with
    | task hstep => exact forall_replaced ih (hstep.holds h hnormal (ih _ (by simp)))

theorem Task.TimedStep.visit_eq {free : Prop} {t t' : Task} (h : Task.TimedStep limits c free entries t kept t') :
    t'.visit = t.visit := by
  cases h with
  | step h => exact h.visit_eq
  | _ => rfl

/-- The tasks of a pool stay those of their visits. -/
theorem Pool.TimedRun.visits (hrun : Pool.TimedRun limits c p q) : q.tasks.map Task.visit = p.tasks.map Task.visit := by
  induction hrun with
  | refl => rfl
  | step _ hstep ih =>
    cases hstep with
    | task hstep => rw [map_visit_replaced hstep.visit_eq, ih]

theorem reported_of_done {tasks : List Task} {reports : List (String × DomainResult)}
    (h : tasks.mapM Task.report? = some reports) : List.Forall₂ (Task.Reported limits) tasks reports := by
  induction tasks generalizing reports with
  | nil =>
    cases h
    exact .nil
  | cons t tasks ih =>
    rw [List.mapM_cons] at h
    obtain ⟨first, hfirst, h⟩ := Option.bind_eq_some_iff.mp h
    obtain ⟨rest, hrest, h⟩ := Option.bind_eq_some_iff.mp h
    cases h
    cases t with
    | done v b orphans =>
      cases hfirst
      exact .cons (.done v b orphans) (ih hrest)
    | _ => cases hfirst

/-- Whoever finds all domains done may return what they have, whether the time is up or not. -/
theorem Pool.closes_of_done {f : Flattening} (h : p.flattening? = some f) : p.Closes limits f := by
  obtain ⟨reports, hreports, rfl⟩ := Option.map_eq_some_iff.mp h
  exact ⟨reports, reported_of_done hreports, rfl⟩

theorem Pool.Ends.closes {f : Flattening} (h : p.Ends limits (.ok f)) : p.Closes limits f := by
  cases h with
  | closed _ h => exact h
  | done h => exact closes_of_done h

/-- What is reported is the report of a branch as good as the others. -/
theorem Pool.Closes.holds (h : Pieces B) {f : Flattening} (hp : ∀ t ∈ p.tasks, t.Holds P Q B) (hf : p.Closes limits f) :
    ∀ e ∈ f.resolved, ∃ b, B b ∧ e.2 = b.report := by
  obtain ⟨reports, hreports, rfl⟩ := hf
  intro e he
  obtain ⟨t, ht, hreported⟩ := mem_forall₂_right hreports he
  cases hreported with
  | done v b orphans => cases hp _ ht with | done hb _ => exact ⟨b, hb, rfl⟩
  | late t => exact ⟨_, h.failure _ _, rfl⟩

theorem Task.Holds.puts {t : Task} {q : Question} (ht : t.Holds P Q B) (hputs : t.Puts q) : Q q := by
  induction hputs with
  | reading => cases ht with | reading _ hleft => cases hleft with | resolve hq _ => exact hq
  | looking => cases ht with | looking _ hleft _ _ => cases hleft with | resolve hq _ => exact hq
  | belowLooking hmem _ ih => cases ht with | looking _ _ _ hbelow => exact ih (hbelow _ hmem)
  | belowCollecting hmem _ ih => cases ht with | collecting _ _ _ hbelow => exact ih (hbelow _ hmem)
  | orphanCollecting hmem _ ih => cases ht with | collecting _ _ horphans _ => exact ih (horphans _ hmem)
  | orphanDone hmem _ ih => cases ht with | done _ horphans => exact ih (horphans _ hmem)

end

end SenderPolicy.Flatten
