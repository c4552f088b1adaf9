/-
  SenderPolicy.Proofs.Flatten.Prompt — sources that never keep silent.

  Whoever waits for a branch gives it up if one of its questions is never answered, and a worker is lost with it.
  If every question is answered, nobody is: a branch is the result of its visit as it stands, all workers stay, and
  what a flattening reports of a domain depends on this domain alone.
  - `resolve_not_silent`: no branch is given up.
  - `flatten_eq`: the flattening consists of the results of its domains.
  - `find?_results`: the result of a domain is the one it has alone.
-/

import SenderPolicy.Proofs.Flatten.Reach

namespace SenderPolicy.Flatten

open Dns

/-- Every question comes to an end. -/
def Prompt (ask : Ask Id) : Prop := ∀ q, (ask q).run ≠ .silent

variable {α β : Type} {p : α → Prop} {ask : Ask Id} {limits : Limits}

/-- That a lookup comes to an end, with a result that has a property if nothing breaks down. -/
structure Ends (p : α → Prop) (x : Lookup Id α) : Prop where
  ok : ∀ a, x.run = .ok a → p a
  heard : x.run ≠ .error .silence

theorem ends_pure {a : α} (h : p a) : Ends p (pure a : Lookup Id α) := by
  refine ⟨fun b hb => ?_, fun hb => by cases hb⟩
  cases hb
  exact h

theorem Ends.bind {r : β → Prop} {x : Lookup Id α} {f : α → Lookup Id β} (hx : Ends p x)
    (hf : ∀ a, p a → Ends r (f a)) :
    Ends r (x >>= f) := by
  cases hrun : x.run with
  | error i =>
    have hbind : (x >>= f).run = .error i := by
      rw [ExceptT.run_bind, hrun]
      rfl
    refine ⟨fun b hb => ?_, fun hb => ?_⟩
    · rw [hbind] at hb
      cases hb
    · rw [hbind] at hb
      cases hb
      exact hx.heard hrun
  | ok a =>
    have hbind : (x >>= f).run = (f a).run := by
      rw [ExceptT.run_bind, hrun]
      rfl
    have hfa := hf a (hx.ok a hrun)
    exact ⟨by rw [hbind]; exact hfa.ok, by rw [hbind]; exact hfa.heard⟩

theorem ends_mapM {r : β → Prop} {f : α → Lookup Id β} (hf : ∀ a, Ends r (f a)) (as : List α) :
    Ends (fun bs => ∀ b ∈ bs, r b) (as.mapM f) := by
  induction as with
  | nil => exact ends_pure (fun b hb => by cases hb)
  | cons a as ih =>
    rw [List.mapM_cons]
    exact (hf a).bind fun b hb => ih.bind fun bs hbs => ends_pure (List.forall_mem_cons.mpr ⟨hb, hbs⟩)

theorem ends_texts (hask : Prompt ask) (name type : String) : Ends (fun _ => True) (texts ask name type) := by
  refine ⟨fun _ _ => trivial, ?_⟩
  rw [texts_run]
  have hq := hask ⟨name, type⟩
  cases ho : ask ⟨name, type⟩ with
  | silent => exact absurd ho hq
  | _ => intro h; cases h

theorem ends_addresses (hask : Prompt ask) (name : String) : Ends (fun _ => True) (addresses ask name) := by
  have hsome : ∀ type, Ends (fun _ => True) (someTexts ask name type) := by
    intro type
    refine (ends_texts hask name type).bind fun r _ => ?_
    cases r <;> exact ends_pure trivial
  refine (hsome "A").bind fun r _ => ?_
  cases r with
  | error f => exact ends_pure trivial
  | ok v4 =>
    refine (hsome "AAAA").bind fun r _ => ?_
    cases r <;> exact ends_pure trivial

/-! ## Branches -/

theorem ends_addressBranch (hask : Prompt ask) (name : String) (v4 v6 : Option String) :
    Ends (fun b => b.silent = false) (addressBranch ask name v4 v6) := by
  refine (ends_addresses hask name).bind fun r _ => ?_
  cases r with
  | error f => exact ends_pure rfl
  | ok texts =>
    dsimp only
    split <;> exact ends_pure rfl

theorem ends_hostsBranch (hask : Prompt ask) (domain : String) (h : Hosts) :
    Ends (fun b => b.silent = false) (hostsBranch ask domain h) := by
  unfold hostsBranch
  dsimp only
  split
  · have hexchanges : Ends (fun _ => True) (exchanges ask (h.target.getD domain)) := by
      refine (ends_texts hask _ "MX").bind fun r _ => ?_
      cases r <;> exact ends_pure trivial
    refine hexchanges.bind fun r _ => ?_
    cases r with
    | error f => exact ends_pure rfl
    | ok es =>
      have hexchange : ∀ e, Ends (fun b => b.silent = false) (exchangeBranch ask h.v4 h.v6 e) := fun e =>
        (ends_addressBranch hask e.host h.v4 h.v6).bind fun b hb => ends_pure (append_not_silent rfl hb)
      refine (ends_mapM hexchange _).bind fun bs hbs => ends_pure (append_not_silent ?_ (join_not_silent hbs))
      split <;> rfl
  · exact ends_addressBranch hask _ _ _

theorem own_not_silent (v : Visit) (record : String) : (own v record).silent = false := by
  refine append_not_silent (join_not_silent fun b hb => ?_) ?_
  · obtain ⟨step, -, rfl⟩ := List.mem_map.mp hb
    cases step <;> rfl
  · cases (planOf record).redirect with
    | none => rfl
    | some target =>
      unfold Plan.redirectBranch
      dsimp only
      split <;> rfl

theorem interrupted_not_silent {name : String} {i : Interruption} (h : i ≠ .silence) :
    (interrupted limits name i).silent = false := by
  cases i with
  | crash c => rfl
  | silence => exact absurd rfl h

/-- Nothing changes about branches of which none is given up. -/
theorem map_awaited (limits : Limits) {f : Visit → Branch} (hf : ∀ w, (f w).silent = false) (ws : List Visit) :
    (ws.map fun w => awaited limits w.name (f w)) = ws.map f :=
  List.map_congr_left fun w _ => awaited_of_not_silent limits (hf w) w.name

theorem join_map_not_silent {f : Visit → Branch} (hf : ∀ w, (f w).silent = false) (ws : List Visit) :
    (Branch.join (ws.map f)).silent = false := join_not_silent (List.forall_mem_map.mpr fun w _ => hf w)

theorem collected_awaited (limits : Limits) (v : Visit) (gathered : Branch) {f : Visit → Branch}
    (hf : ∀ w, (f w).silent = false) (ws : List Visit) :
    collected limits v gathered (ws.map fun w => awaited limits w.name (f w)) = gathered ++ Branch.join (ws.map f) := by
  rw [map_awaited limits hf, collected_of_not_silent limits v gathered (join_map_not_silent hf ws)]

/-- Where every question is answered nobody is given up. -/
theorem walk_not_silent (hask : Prompt ask) (limits : Limits) (room : Nat) (v : Visit) :
    (walk limits ask room v).run.silent = false := by
  induction room generalizing v with
  | zero => rfl
  | succ room ih =>
    rw [walk_succ]
    split
    · rfl
    split
    · rfl
    have hpublished : Ends (fun _ => True) (Record.published ask v.domain) :=
      (ends_texts hask _ "TXT").bind fun _ _ => ends_pure trivial
    have hhosts : ∀ record, Ends (fun bs => ∀ b ∈ bs, b.silent = false)
        ((planOf record).hosts.mapM (hostsBranch ask v.domain)) :=
      fun record => ends_mapM (ends_hostsBranch hask v.domain) _
    split
    · rename_i i hi
      exact interrupted_not_silent fun he => hpublished.heard (by rw [← he]; exact hi)
    · rfl
    · rename_i record _
      split
      · rename_i i hi
        exact interrupted_not_silent fun he => (hhosts record).heard (by rw [← he]; exact hi)
      · rename_i hosts hh
        have hchild : ∀ w, Branch.silent (walk limits ask room w) = false := ih
        rw [followed, collected_awaited limits v _ hchild]
        refine append_not_silent (append_not_silent (own_not_silent v record) (join_not_silent ((hhosts record).ok _ hh))) ?_
        exact join_map_not_silent hchild _

theorem resolve_not_silent (hask : Prompt ask) (limits : Limits) (v : Visit) : (resolve limits ask v).run.silent = false :=
  walk_not_silent hask limits _ v

/-- The branches below a visit are taken over as they are. -/
theorem followed_eq (hask : Prompt ask) (limits : Limits) (room : Nat) (v : Visit) (record : String) (hosts : List Branch) :
    followed limits ask room v record hosts
      = own v record ++ Branch.join hosts ++ Branch.join ((children limits v record).map (walk limits ask room)) :=
  collected_awaited limits v _ (walk_not_silent hask limits room) _

/-- A visit that asks, case by case: the branches below it are taken over as they are. -/
theorem resolve_asks (hask : Prompt ask) {v : Visit} (h : v.Asks limits) :
    resolve limits ask v =
      match (Record.published ask v.domain).run with
      | .error i => interrupted limits v.name i
      | .ok (.error u) => Branch.failure v.domain (.unavailable u)
      | .ok (.ok record) =>
        match ((planOf record).hosts.mapM (hostsBranch ask v.domain)).run with
        | .error i => { interrupted limits v.name i with pending := children limits v record }
        | .ok hosts =>
          own v record ++ Branch.join hosts ++ Branch.join ((children limits v record).map (resolve limits ask)) := by
  have hbelow : ∀ w, Branch.silent (resolve limits ask w) = false := resolve_not_silent hask limits
  rw [resolve_eq, visit_asks h]
  simp only [bind, pure]
  cases (Record.published ask v.domain).run with
  | error i => rfl
  | ok r =>
    cases r with
    | error u => rfl
    | ok record =>
      dsimp only
      cases ((planOf record).hosts.mapM (hostsBranch ask v.domain)).run with
      | error i => rfl
      | ok hosts =>
        dsimp only
        rw [mapM_id]
        exact collected_awaited limits v _ hbelow _

/-! ## Domains -/

/-- What the requested domains come to, each of them alone. -/
def results (limits : Limits) (ask : Ask Id) (depth : Int) (domains : List String) : List (String × DomainResult) :=
  (requested domains).map fun d => (d, (resolve limits ask ⟨depth, [], d⟩).run.report)

theorem resolveAll_eq (hask : Prompt ask) (limits : Limits) (depth : Int) (workers : Nat) (ds : List String) :
    (resolveAll limits ask depth (workers + 1) ds).run
      = (ds.map fun d => (d, (resolve limits ask ⟨depth, [], d⟩).run), workers + 1) := by
  induction ds with
  | nil => rfl
  | cons d ds ih =>
    have hd := resolve_not_silent hask limits ⟨depth, [], d⟩
    simp only [resolveAll, Id.run_bind, Id.run_pure]
    rw [hd, if_neg Bool.false_ne_true, ih, awaited_of_not_silent limits hd]
    rfl

theorem flatten_eq (hask : Prompt ask) (hworkers : 1 ≤ limits.workers) (depth : Int) (domains : List String) :
    (flatten limits ask depth domains).run = .ofResults (results limits ask depth domains) := by
  obtain ⟨workers, hw⟩ : ∃ workers, limits.workers = workers + 1 := ⟨limits.workers - 1, by omega⟩
  show Flattening.ofResults ((share limits ask depth (requested domains)).run.map fun e => (e.1, e.2.report)) = _
  rw [share_eq, hw, resolveAll_eq hask, List.map_map]
  rfl

theorem key_mem_requested {domains : List String} {d : String} (hd : d ∈ domains) : Domain.key d ∈ requested domains :=
  List.mem_eraseDups.mpr (List.mem_map_of_mem hd)

/-- The result of a domain is the one it has alone. -/
theorem find?_results (limits : Limits) (ask : Ask Id) (depth : Int) {domains : List String} {d : String} (hd : d ∈ domains) :
    (Flattening.ofResults (results limits ask depth domains)).find? (Domain.key d)
      = some (resolve limits ask ⟨depth, [], Domain.key d⟩).run.report := by
  show (((requested domains).map fun d => (d, (resolve limits ask ⟨depth, [], d⟩).run.report)).find?
    (·.1 == Domain.key d)).map (·.2) = _
  rw [List.find?_map]
  show (Option.map _ ((requested domains).find? fun e => e == Domain.key d)).map _ = _
  cases hfind : (requested domains).find? fun e => e == Domain.key d with
  | none => exact absurd (beq_self_eq_true (Domain.key d)) (List.find?_eq_none.mp hfind _ (key_mem_requested hd))
  | some e =>
    obtain rfl : e = Domain.key d := beq_iff_eq.mp (List.find?_some (p := fun e => e == Domain.key d) hfind)
    rfl

end SenderPolicy.Flatten
