/-
  SenderPolicy.Proofs.Flatten.Reach — which branches a resolution gets to, and what a cut in one of them means.

  Nothing in the records of a zone gets smaller from one include to the next; only the depth is bounded. So the
  walk, which goes by the levels that are left, is the recursion that goes by the depth alone, and every branch is
  at most one level too deep. On the way to a branch no domain comes twice: a visit that finds its domain on its
  path stops before it asks. Both kinds of cut leave an error, and errors are only ever added to, or replaced by
  the error of a branch that crashed or fell silent.
  The source may answer as it likes, each question anew, and a branch of which nobody knows the result any more,
  because its parent crashed, may be made at any later time.
  - `resolve_eq`: the walk is the recursion over the includes.
  - `Enters.bounds`: depth and path of every branch.
  - `mem_questions`: everything that is asked is asked by one of the branches itself.
  - `Enters.reports_cut`: a cut is an error of every branch above it.
  - `resolution_is_bounded`: all of it, from the domains that were asked for.
-/

import SenderPolicy.Proofs.Flatten.CleanWalk
import SenderPolicy.Proofs.Flatten.Programs

namespace SenderPolicy.Flatten

open Dns
open Dns.Program (put run_bind run_pure)

/-! ## The recursion -/

section

variable {m : Type → Type} [Monad m]

/-- A visit whose includes are resolved by `go`. -/
def visit (limits : Limits) (ask : Ask m) (go : Visit → m Branch) (v : Visit) : m Branch :=
  if limits.maxDepth < v.depth then return .failure v.domain (.tooDeep v.depth limits.maxDepth)
  else if v.domain ∈ v.path then return .failure v.domain (.loop (v.path ++ [v.domain]))
  else if limits.expired then return .failure v.domain (.timedOut limits.timeout)
  else do
    match ← (Record.published ask v.domain).run with
    | .error i => return interrupted limits v.name i
    | .ok (.error u) => return .failure v.domain (.unavailable u)
    | .ok (.ok record) =>
      match ← ((planOf record).hosts.mapM (hostsBranch ask v.domain)).run with
      | .error i => return { interrupted limits v.name i with pending := children limits v record }
      | .ok hosts =>
        let below ← (children limits v record).mapM fun child => do return awaited limits child.name (← go child)
        return collected limits v (own v record ++ Branch.join hosts) below

theorem depth_of_child {limits : Limits} {v child : Visit} {record : String} (h : child ∈ children limits v record) :
    child.depth = v.depth + 1 := by
  obtain ⟨name, _, rfl⟩ := List.mem_map.mp h
  rfl

theorem mapM_congr {α β : Type} [LawfulMonad m] {f g : α → m β} {as : List α} (h : ∀ a ∈ as, f a = g a) :
    as.mapM f = as.mapM g := by
  induction as with
  | nil => rfl
  | cons a as ih =>
    obtain ⟨ha, has⟩ := List.forall_mem_cons.mp h
    rw [List.mapM_cons, List.mapM_cons, ha, ih has]

/-- The levels that are left bound the recursion only where the depth does. -/
theorem resolve_eq [LawfulMonad m] (limits : Limits) (ask : Ask m) (v : Visit) :
    resolve limits ask v = visit limits ask (resolve limits ask) v := by
  unfold visit
  by_cases hdeep : limits.maxDepth < v.depth
  · have hroom : roomAt limits v.depth = 0 := by unfold roomAt; omega
    rw [if_pos hdeep, resolve, hroom]
    rfl
  · rw [if_neg hdeep]
    obtain ⟨room, hroom⟩ : ∃ room, roomAt limits v.depth = room + 1 :=
      ⟨(limits.maxDepth - v.depth).toNat, by unfold roomAt; omega⟩
    have hbelow : ∀ record, ∀ child ∈ children limits v record, walk limits ask room child = resolve limits ask child := by
      intro record child hchild
      have hdepth := depth_of_child hchild
      have hroom' : roomAt limits child.depth = room := by unfold roomAt at hroom ⊢; omega
      rw [resolve, hroom']
    rw [resolve, hroom]
    unfold walk
    show (if v.domain ∈ v.path then _ else if limits.expired = true then _ else _) = _
    by_cases hloop : v.domain ∈ v.path
    · rw [if_pos hloop, if_pos hloop]
      rfl
    rw [if_neg hloop, if_neg hloop]
    by_cases htime : limits.expired = true
    · rw [if_pos htime, if_pos htime]
      rfl
    rw [if_neg htime, if_neg htime]
    refine bind_congr fun r => ?_
    cases r with
    | error i => rfl
    | ok r =>
      cases r with
      | error u => rfl
      | ok record =>
        refine bind_congr fun r => ?_
        cases r with
        | error i => rfl
        | ok hosts =>
          refine congrArg (· >>= _) (mapM_congr fun child hchild => ?_)
          rw [hbelow record child hchild]

end

/-! ## Branches and their memories -/

section

variable {σ : Type} {limits : Limits} {ask : Ask (StateM σ)} {start : Int} {v w : Visit} {s s₁ s₂ t : σ} {record : String}

/-- A visit that goes no further because of its depth or its path. -/
def Visit.IsCut (limits : Limits) (v : Visit) : Prop := limits.maxDepth < v.depth ∨ v.domain ∈ v.path

/-- A visit that gets to ask for its record. -/
structure Visit.Asks (limits : Limits) (v : Visit) : Prop where
  inDepth : v.depth ≤ limits.maxDepth
  fresh : v.domain ∉ v.path
  timely : limits.expired = false

/-- That making a visit `v` from a memory comes to making a visit `w` from a memory. What a record goes on to is
visited in order. If its parent was interrupted, the visit is left to be made from whatever memory there is then. -/
inductive Enters (limits : Limits) (ask : Ask (StateM σ)) : Visit → σ → Visit → σ → Prop
  | here (v : Visit) (s : σ) : Enters limits ask v s v s
  | child {v w child : Visit} {s s₁ s₂ t : σ} {record : String} {hosts : List Branch} {before after : List Visit} :
      v.Asks limits → (Record.published ask v.domain).run.run s = (.ok (.ok record), s₁) →
      ((planOf record).hosts.mapM (hostsBranch ask v.domain)).run.run s₁ = (.ok hosts, s₂) →
      children limits v record = before ++ child :: after →
      Enters limits ask child ((before.mapM (resolve limits ask)).run s₂).2 w t → Enters limits ask v s w t
  | orphan {v w child : Visit} {s s₁ s₂ s₃ t : σ} {record : String} {i : Interruption} :
      v.Asks limits → (Record.published ask v.domain).run.run s = (.ok (.ok record), s₁) →
      ((planOf record).hosts.mapM (hostsBranch ask v.domain)).run.run s₁ = (.error i, s₂) →
      child ∈ children limits v record → Enters limits ask child s₃ w t → Enters limits ask v s w t

/-! ## Depth and path -/

/-- What holds of a visit that has been come to from one without a path, at the depth `start`. -/
structure Bounded (limits : Limits) (start : Int) (v : Visit) : Prop where
  depth_le : v.depth ≤ limits.maxDepth + 1
  depth_eq : v.depth = start + v.path.length
  nodup : v.path.Nodup

theorem Bounded.child {child : Visit} (h : Bounded limits start v) (hasks : v.Asks limits)
    (hchild : child ∈ children limits v record) : Bounded limits start child := by
  have hdepth := depth_of_child hchild
  obtain ⟨name, _, rfl⟩ := List.mem_map.mp hchild
  refine ⟨?_, ?_, ?_⟩
  · have hin := hasks.inDepth
    omega
  · have hlength : (v.next name).path.length = v.path.length + 1 := List.length_append
    have heq := h.depth_eq
    omega
  · refine List.nodup_append.mpr ⟨h.nodup, by simp, fun a ha b hb => ?_⟩
    rw [List.mem_singleton.mp hb]
    rintro rfl
    exact hasks.fresh ha

theorem Enters.bounded (h : Enters limits ask v s w t) (hv : Bounded limits start v) : Bounded limits start w := by
  induction h with
  | here => exact hv
  | child hasks _ _ hnext _ ih => exact ih (hv.child hasks (by rw [hnext]; simp))
  | orphan hasks _ _ hchild _ ih => exact ih (hv.child hasks hchild)

/-- The domains on the way to a visit, with its own if it is not cut. -/
theorem Bounded.activePath (h : Bounded limits start v) :
    v.path.length ≤ limits.maxDepth - start + 1 ∧
      (v.Asks limits → (v.path ++ [v.domain]).Nodup ∧ (v.path ++ [v.domain]).length ≤ limits.maxDepth - start + 1) := by
  have heq := h.depth_eq
  refine ⟨by have hle := h.depth_le; omega, fun hasks => ⟨?_, ?_⟩⟩
  · refine List.nodup_append.mpr ⟨h.nodup, by simp, fun a ha b hb => ?_⟩
    rw [List.mem_singleton.mp hb]
    rintro rfl
    exact hasks.fresh ha
  · have hin := hasks.inDepth
    rw [List.length_append, List.length_singleton]
    omega

/-! ## Errors -/

theorem mem_mapM_run {α β : Type} (f : α → StateM σ β) (before : List α) (a : α) (after : List α) (s : σ) :
    ((f a).run ((before.mapM f).run s).2).1 ∈ (((before ++ a :: after).mapM f).run s).1 := by
  induction before generalizing s with
  | nil =>
    rw [List.nil_append, List.mapM_cons]
    exact List.mem_cons_self
  | cons b before ih =>
    rw [List.cons_append, List.mapM_cons, List.mapM_cons]
    exact List.mem_cons_of_mem _ (ih _)

theorem run_bind_eq {α β : Type} {x : StateM σ α} {f : α → StateM σ β} {a : α} (h : x.run s = (a, t)) :
    (x >>= f).run s = (f a).run t := by
  rw [StateT.run_bind, h]
  rfl

/-- What becomes of the results of a list makes no difference to the memory. -/
theorem mapM_run_state {α β γ : Type} (f : α → StateM σ β) (g : α → β → γ) (as : List α) (s : σ) :
    ((as.mapM fun a => do return g a (← f a)).run s).2 = ((as.mapM f).run s).2 := by
  induction as generalizing s with
  | nil => rfl
  | cons a as ih =>
    rw [List.mapM_cons, List.mapM_cons]
    exact ih _

theorem resolve_cut (hcut : v.IsCut limits) :
    (resolve limits ask v).run s = (.failure v.domain (.tooDeep v.depth limits.maxDepth), s) ∨
      (resolve limits ask v).run s = (.failure v.domain (.loop (v.path ++ [v.domain])), s) := by
  rw [resolve_eq, visit]
  by_cases hdeep : limits.maxDepth < v.depth
  · rw [if_pos hdeep]
    exact .inl rfl
  · rw [if_neg hdeep, if_pos (hcut.resolve_left hdeep)]
    exact .inr rfl

theorem visit_asks {m : Type → Type} [Monad m] {ask : Ask m} {go : Visit → m Branch} (h : v.Asks limits) :
    visit limits ask go v = do
      match ← (Record.published ask v.domain).run with
      | .error i => return interrupted limits v.name i
      | .ok (.error u) => return .failure v.domain (.unavailable u)
      | .ok (.ok record) =>
        match ← ((planOf record).hosts.mapM (hostsBranch ask v.domain)).run with
        | .error i => return { interrupted limits v.name i with pending := children limits v record }
        | .ok hosts =>
          let below ← (children limits v record).mapM fun child => do return awaited limits child.name (← go child)
          return collected limits v (own v record ++ Branch.join hosts) below := by
  have hdeep : ¬ limits.maxDepth < v.depth := by have hin := h.inDepth; omega
  rw [visit, if_neg hdeep, if_neg h.fresh, if_neg (by rw [h.timely]; exact Bool.false_ne_true)]

theorem resolve_followed {hosts : List Branch} (hasks : v.Asks limits)
    (hrecord : (Record.published ask v.domain).run.run s = (.ok (.ok record), s₁))
    (hhosts : ((planOf record).hosts.mapM (hostsBranch ask v.domain)).run.run s₁ = (.ok hosts, s₂)) :
    ((resolve limits ask v).run s).1 = collected limits v (own v record ++ Branch.join hosts)
      (((children limits v record).mapM fun child => do return awaited limits child.name (← resolve limits ask child)).run s₂).1 := by
  rw [resolve_eq, visit_asks hasks, run_bind_eq hrecord]
  dsimp only
  rw [run_bind_eq hhosts]
  rfl

theorem resolve_interrupted {i : Interruption} (hasks : v.Asks limits)
    (hrecord : (Record.published ask v.domain).run.run s = (.ok (.ok record), s₁))
    (hhosts : ((planOf record).hosts.mapM (hostsBranch ask v.domain)).run.run s₁ = (.error i, s₂)) :
    ((resolve limits ask v).run s).1 = { interrupted limits v.name i with pending := children limits v record } := by
  rw [resolve_eq, visit_asks hasks, run_bind_eq hrecord]
  dsimp only
  rw [run_bind_eq hhosts]
  rfl

theorem interrupted_troubles (limits : Limits) (name : String) (i : Interruption) :
    (interrupted limits name i).troubles ≠ [] := by
  cases i <;> exact List.cons_ne_nil _ _

theorem awaited_troubles {b : Branch} (h : b.troubles ≠ []) (name : String) : (awaited limits name b).troubles ≠ [] := by
  unfold awaited
  split
  · exact interrupted_troubles _ _ _
  · exact h

theorem join_troubles {b : Branch} {bs : List Branch} (hb : b ∈ bs) (h : b.troubles ≠ []) :
    (Branch.join bs).troubles ≠ [] := by
  induction bs with
  | nil => cases hb
  | cons c bs ih =>
    rw [Branch.join_cons, Branch.troubles_append]
    rcases List.mem_cons.mp hb with rfl | hb
    · exact List.append_ne_nil_of_left_ne_nil h _
    · exact List.append_ne_nil_of_right_ne_nil _ (ih hb)

theorem collected_troubles {below : List Branch} (h : (Branch.join below).troubles ≠ []) (v : Visit) (gathered : Branch) :
    (collected limits v gathered below).troubles ≠ [] := by
  unfold collected
  split
  · exact List.cons_ne_nil _ _
  · exact List.append_ne_nil_of_right_ne_nil _ h

theorem awaited_mem (limits : Limits) (ask : Ask (StateM σ)) (before : List Visit) (child : Visit)
    (after : List Visit) (s : σ) :
    awaited limits child.name ((resolve limits ask child).run ((before.mapM (resolve limits ask)).run s).2).1 ∈
      (((before ++ child :: after).mapM fun child => do return awaited limits child.name (← resolve limits ask child)).run s).1 := by
  have h := mem_mapM_run (fun child => do return awaited limits child.name (← resolve limits ask child)) before child after s
  rw [mapM_run_state] at h
  exact h

/-- A cut is an error of every branch above it. -/
theorem Enters.reports_cut (h : Enters limits ask v s w t) (hcut : w.IsCut limits) :
    ((resolve limits ask v).run s).1.troubles ≠ [] := by
  induction h with
  | here =>
    rcases resolve_cut hcut with h | h <;> rw [h] <;> exact List.cons_ne_nil _ _
  | orphan hasks hrecord hhosts _ _ _ =>
    rw [resolve_interrupted hasks hrecord hhosts]
    exact interrupted_troubles _ _ _
  | child hasks hrecord hhosts hnext _ ih =>
    rw [resolve_followed hasks hrecord hhosts, hnext]
    exact collected_troubles (join_troubles (awaited_mem _ _ _ _ _ _) (awaited_troubles (ih hcut) _)) _ _

/-! ## Questions -/

/-- Everything that is asked when a visit is made from a memory. -/
def questions (limits : Limits) (ask : Ask (StateM σ)) (v : Visit) (s : σ) : List Question := (resolve limits put v).asked ask s

/-- What the visit asks itself: what is asked if nothing is asked for the domains that it goes on to. -/
def ownQuestions (limits : Limits) (ask : Ask (StateM σ)) (v : Visit) (s : σ) : List Question :=
  (visit limits put (fun _ => pure .empty) v).asked ask s

/-- Why a visit does not get to ask. -/
theorem idle_cases (h : ¬ v.Asks limits) :
    limits.maxDepth < v.depth ∨ (¬ limits.maxDepth < v.depth ∧ v.domain ∈ v.path) ∨
      (¬ limits.maxDepth < v.depth ∧ v.domain ∉ v.path ∧ limits.expired = true) := by
  by_cases hdeep : limits.maxDepth < v.depth
  · exact .inl hdeep
  by_cases hloop : v.domain ∈ v.path
  · exact .inr (.inl ⟨hdeep, hloop⟩)
  cases htime : limits.expired with
  | true => exact .inr (.inr ⟨hdeep, hloop, rfl⟩)
  | false => exact absurd ⟨by omega, hloop, htime⟩ h

theorem visit_idle {m : Type → Type} [Monad m] {ask : Ask m} {go : Visit → m Branch} (h : ¬ v.Asks limits) :
    ∃ b, visit limits ask go v = pure b := by
  unfold visit
  rcases idle_cases h with hdeep | ⟨hdeep, hloop⟩ | ⟨hdeep, hfresh, htime⟩
  · exact ⟨_, if_pos hdeep⟩
  · rw [if_neg hdeep]
    exact ⟨_, if_pos hloop⟩
  · rw [if_neg hdeep, if_neg hfresh]
    exact ⟨_, if_pos htime⟩

theorem asked_idle {go : Visit → Program Branch} (h : ¬ v.Asks limits) : (visit limits put go v).asked ask s = [] := by
  have hidle : ∃ b, visit limits put go v = pure b := visit_idle h
  obtain ⟨b, hb⟩ := hidle
  rw [hb]
  rfl

/-- What is asked for a visit it asks itself, or it is asked for a domain that it goes on to. -/
theorem mem_asked_visit {go : Visit → Program Branch} {q : Question} (hq : q ∈ (visit limits put go v).asked ask s) :
    q ∈ ownQuestions limits ask v s ∨ ∃ record s₁ hosts s₂, v.Asks limits ∧
      (Record.published ask v.domain).run.run s = (.ok (.ok record), s₁) ∧
      ((planOf record).hosts.mapM (hostsBranch ask v.domain)).run.run s₁ = (.ok hosts, s₂) ∧
      q ∈ ((children limits v record).mapM fun child => do return awaited limits child.name (← go child)).asked ask s₂ := by
  by_cases hasks : v.Asks limits
  · unfold ownQuestions
    rw [visit_asks hasks] at hq ⊢
    obtain ⟨r, s₁, hrecord⟩ : ∃ r s₁, (Record.published ask v.domain).run.run s = (r, s₁) :=
      ⟨_, _, (Prod.eta _).symm⟩
    have hrecord' : ((Record.published put v.domain).run.run ask).run s = (r, s₁) := by rw [run_published, hrecord]
    rw [Program.asked_bind_eq hrecord'] at hq ⊢
    rcases List.mem_append.mp hq with hq | hq
    · exact .inl (List.mem_append_left _ hq)
    rcases r with i | u | record
    · cases hq
    · cases hq
    · obtain ⟨r, s₂, hhosts⟩ : ∃ r s₂, ((planOf record).hosts.mapM (hostsBranch ask v.domain)).run.run s₁ = (r, s₂) :=
        ⟨_, _, (Prod.eta _).symm⟩
      have hhosts' : (((planOf record).hosts.mapM (hostsBranch put v.domain)).run.run ask).run s₁ = (r, s₂) := by
        rw [run_hosts, hhosts]
      dsimp only at hq ⊢
      rw [Program.asked_bind_eq hhosts'] at hq ⊢
      rcases List.mem_append.mp hq with hq | hq
      · exact .inl (List.mem_append_right _ (List.mem_append_left _ hq))
      cases r with
      | error i => cases hq
      | ok hosts =>
        dsimp only at hq
        rw [Program.asked_bind] at hq
        rcases List.mem_append.mp hq with hq | hq
        · exact .inr ⟨record, s₁, hosts, s₂, hasks, hrecord, hhosts, hq⟩
        · cases hq
  · rw [asked_idle hasks] at hq
    cases hq

/-- Everything that is asked is asked by one of the branches itself. -/
theorem mem_questions {q : Question} (hq : q ∈ questions limits ask v s) :
    ∃ w t, Enters limits ask v s w t ∧ q ∈ ownQuestions limits ask w t := by
  induction hroom : roomAt limits v.depth generalizing v s with
  | zero =>
    have hdeep : ¬ v.Asks limits := by
      intro hasks
      have hin := hasks.inDepth
      unfold roomAt at hroom
      omega
    rw [questions, resolve_eq, asked_idle hdeep] at hq
    cases hq
  | succ room ih =>
    rw [questions, resolve_eq] at hq
    rcases mem_asked_visit hq with hq | ⟨record, s₁, hosts, s₂, hasks, hrecord, hhosts, hq⟩
    · exact ⟨v, s, .here v s, hq⟩
    obtain ⟨before, child, after, hnext, hq⟩ := Program.mem_asked_mapM hq
    rw [Program.asked_bind] at hq
    rcases List.mem_append.mp hq with hq | hq
    · simp only [run_bind, run_resolve, run_pure] at hq
      rw [mapM_run_state] at hq
      have hchild : child ∈ children limits v record := by rw [hnext]; simp
      have hdepth := depth_of_child hchild
      obtain ⟨w, t, henters, hq⟩ := ih hq (by unfold roomAt at hroom ⊢; omega)
      exact ⟨w, t, .child hasks hrecord hhosts hnext henters, hq⟩
    · cases hq

/-- A question for a text that is one for the text of the visit's own domain. -/
def Visit.OwnText (v : Visit) (q : Question) : Prop := q.type = "TXT" → q = ⟨v.domain, "TXT"⟩

theorem ownText_of_type {q : Question} (h : q.type ∈ ["A", "AAAA", "MX"]) : v.OwnText q := by
  intro he
  rw [he] at h
  exact absurd h (by decide)

/-- A visit asks only while it goes on, and for a text only that of its own domain. -/
theorem asks_of_mem {q : Question} (hq : q ∈ ownQuestions limits ask v s) : v.Asks limits ∧ v.OwnText q := by
  by_cases hasks : v.Asks limits
  · refine ⟨hasks, ?_⟩
    have honly : (visit limits put (fun _ => pure .empty) v).Only v.OwnText := by
      rw [visit_asks hasks]
      have hrecord : Looks v.OwnText (Record.published put v.domain) := looks_published fun _ => rfl
      refine hrecord.only.bind fun r => ?_
      rcases r with i | u | record
      · exact Program.only_pure _
      · exact Program.only_pure _
      · have hhosts : Looks v.OwnText ((planOf record).hosts.mapM (hostsBranch put v.domain)) :=
          looks_hosts (fun _ => ownText_of_type) _ _
        dsimp only
        refine hhosts.only.bind fun r => ?_
        cases r with
        | error i => exact Program.only_pure _
        | ok hosts => exact (Program.only_mapM fun child _ => Program.only_pure _).bind fun _ => Program.only_pure _
    exact honly.of_asked hq
  · rw [ownQuestions, asked_idle hasks] at hq
    cases hq

/-! ## The domains that were asked for -/

/-- That resolving these domains, with so many workers and from a memory, comes to resolving a domain from a memory. -/
inductive Starts (limits : Limits) (ask : Ask (StateM σ)) (depth : Int) : Nat → List String → σ → String → σ → Prop
  | here (workers : Nat) (d : String) (ds : List String) (s : σ) : Starts limits ask depth (workers + 1) (d :: ds) s d s
  | later {workers : Nat} {d e : String} {ds : List String} {s t : σ} :
      Starts limits ask depth (if ((resolve limits ask ⟨depth, [], d⟩).run s).1.silent then workers else workers + 1) ds
        ((resolve limits ask ⟨depth, [], d⟩).run s).2 e t →
      Starts limits ask depth (workers + 1) (d :: ds) s e t

/-- What is resolved is reported as whoever waits for it has it. -/
theorem Starts.mem {depth : Int} {workers : Nat} {ds : List String} {d : String}
    (h : Starts limits ask depth workers ds s d t) :
    (d, awaited limits d ((resolve limits ask ⟨depth, [], d⟩).run t).1) ∈ ((resolveAll limits ask depth workers ds).run s).1.1 := by
  induction h with
  | here workers d ds s => exact List.mem_cons_self
  | later _ ih => exact List.mem_cons_of_mem _ ih

theorem share_run (depth : Int) (ds : List String) (s : σ) :
    ((share limits ask depth ds).run s).1 = ((resolveAll limits ask depth limits.workers ds).run s).1.1 := by
  unfold share
  rw [StateT.run_bind]
  show ((if ((resolveAll limits ask depth limits.workers ds).run s).1.2 ≠ 0 then _ else _ : StateM σ _).run _).1 = _
  split <;> rfl

/-- A domain whose branch has an error makes the flattening incomplete. -/
theorem Starts.incomplete {depth : Int} {domains : List String} {d : String}
    (h : Starts limits ask depth limits.workers (requested domains) s d t)
    (htroubles : ((resolve limits ask ⟨depth, [], d⟩).run t).1.troubles ≠ []) :
    ((flatten limits ask depth domains).run s).1.status = .incomplete := by
  have hmem := h.mem
  rw [← share_run] at hmem
  have hunsafe : ((flatten limits ask depth domains).run s).1.status ≠ .safe := by
    intro hsafe
    have herrors := status_eq_safe.mp hsafe _ (List.mem_map_of_mem hmem)
    exact awaited_troubles htroubles d (List.map_eq_nil_iff.mp herrors)
  cases hstatus : ((flatten limits ask depth domains).run s).1.status with
  | safe => exact absurd hstatus hunsafe
  | incomplete => rfl

/-! ## The whole resolution -/

/-- What holds of a branch that a resolution from a domain gets to. -/
structure Bounds (limits : Limits) (ask : Ask (StateM σ)) (start : Int) (w : Visit) (t : σ) : Prop where
  /-- At most one level is too deep. -/
  depth_le : w.depth ≤ limits.maxDepth + 1
  path_nodup : w.path.Nodup
  path_length : w.path.length ≤ limits.maxDepth - start + 1
  /-- While it goes on, its own domain is on the active path. -/
  active : w.Asks limits → (w.path ++ [w.domain]).Nodup ∧ (w.path ++ [w.domain]).length ≤ limits.maxDepth - start + 1
  deep_asks_nothing : limits.maxDepth < w.depth → questions limits ask w t = []
  asks_fresh : ∀ q ∈ ownQuestions limits ask w t, q.type = "TXT" → q.name ∉ w.path

theorem Enters.bounds {d : String} (hstart : start ≤ limits.maxDepth) (h : Enters limits ask ⟨start, [], d⟩ s w t) :
    Bounds limits ask start w t := by
  have hroot : Bounded limits start ⟨start, [], d⟩ := ⟨by show start ≤ _; omega, by simp, List.nodup_nil⟩
  have hbounded := h.bounded hroot
  obtain ⟨hlength, hactive⟩ := hbounded.activePath
  refine ⟨hbounded.depth_le, hbounded.nodup, hlength, hactive, fun hdeep => ?_, fun q hq htype hpath => ?_⟩
  · have hidle : ¬ w.Asks limits := fun hasks => by have hin := hasks.inDepth; omega
    rw [questions, resolve_eq, asked_idle hidle]
  · obtain ⟨hasks, hown⟩ := asks_of_mem hq
    rw [hown htype] at hpath
    exact hasks.fresh hpath

/-- Whatever the source answers, the resolution is the recursion over the includes; its branches are bounded in
depth and path, and ask no more than they should; all that is asked is asked by them; and a cut in one of them is
an error of all branches above it and makes the flattening incomplete. -/
theorem resolution_is_bounded (limits : Limits) (ask : Ask (StateM σ)) {start : Int} (hstart : start ≤ limits.maxDepth) :
    (∀ v, resolve limits ask v = visit limits ask (resolve limits ask) v) ∧
    (∀ d s w t, Enters limits ask ⟨start, [], d⟩ s w t → Bounds limits ask start w t ∧
      (w.IsCut limits → ∀ u r, Enters limits ask ⟨start, [], d⟩ s u r → Enters limits ask u r w t →
        ((resolve limits ask u).run r).1.report.errors ≠ [])) ∧
    (∀ d s, ∀ q ∈ questions limits ask ⟨start, [], d⟩ s,
      ∃ w t, Enters limits ask ⟨start, [], d⟩ s w t ∧ q ∈ ownQuestions limits ask w t) ∧
    (∀ domains s d t w r, Starts limits ask start limits.workers (requested domains) s d t →
      Enters limits ask ⟨start, [], d⟩ t w r → w.IsCut limits →
      ((flatten limits ask start domains).run s).1.status = .incomplete) := by
  refine ⟨resolve_eq limits ask, fun d s w t h => ⟨h.bounds hstart, fun hcut u r _ hbelow herrors => ?_⟩,
    fun d s q hq => mem_questions hq, fun domains s d t w r hstarts henters hcut => ?_⟩
  · exact hbelow.reports_cut hcut (List.map_eq_nil_iff.mp herrors)
  · exact hstarts.incomplete (henters.reports_cut hcut)

end

/-- A zone in which a domain includes itself. -/
def selfIncluding : Ask (StateM Unit) := fun q =>
  pure (if q = ⟨"a.example", "TXT"⟩ then .answers ["v=spf1 include:a.example -all"] else .answers [])

theorem resolution_is_bounded_self_include :
    (0 : Int) ≤ (⟨true, 10, 20, 8⟩ : Limits).maxDepth ∧
      ((flatten ⟨true, 10, 20, 8⟩ selfIncluding 0 ["a.example"]).run ()).1.status = .incomplete := by
  have hdepth : (0 : Int) ≤ (⟨true, 10, 20, 8⟩ : Limits).maxDepth := by decide
  have hasks : (⟨0, [], "a.example"⟩ : Visit).Asks ⟨true, 10, 20, 8⟩ := ⟨by decide, by decide, by decide +kernel⟩
  have hdomain : (⟨0, [], "a.example"⟩ : Visit).domain = "a.example" := by decide +kernel
  have hanswers : Record.ofAnswers "a.example" (.ok ["v=spf1 include:a.example -all"]) = .ok "v=spf1 include:a.example -all" := by
    decide +kernel
  have hrecord : (Record.published selfIncluding (⟨0, [], "a.example"⟩ : Visit).domain).run.run ()
      = (.ok (.ok "v=spf1 include:a.example -all"), ()) := by
    rw [hdomain, ← hanswers]
    rfl
  have hhosts : ((planOf "v=spf1 include:a.example -all").hosts.mapM
      (hostsBranch selfIncluding (⟨0, [], "a.example"⟩ : Visit).domain)).run.run () = (.ok [], ()) := by
    have hnone : (planOf "v=spf1 include:a.example -all").hosts = [] := by decide +kernel
    rw [hnone]
    rfl
  have hnext : children ⟨true, 10, 20, 8⟩ ⟨0, [], "a.example"⟩ "v=spf1 include:a.example -all"
      = [] ++ ⟨1, ["a.example"], "a.example"⟩ :: [] := by decide +kernel
  have hrequested : requested ["a.example"] = ["a.example"] := by decide +kernel
  refine ⟨hdepth, (resolution_is_bounded _ selfIncluding hdepth).2.2.2 ["a.example"] () "a.example" ()
    ⟨1, ["a.example"], "a.example"⟩ () ?_ (.child hasks hrecord hhosts hnext (.here _ _)) (.inr (by decide +kernel))⟩
  rw [hrequested]
  exact .here 7 "a.example" [] ()

end SenderPolicy.Flatten
