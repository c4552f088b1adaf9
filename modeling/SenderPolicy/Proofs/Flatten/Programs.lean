/-
  SenderPolicy.Proofs.Flatten.Programs — flattening as a tree of questions.

  What is looked up for a branch, a whole walk and the flattening of several domains are written over an
  arbitrary way to ask, so they are the trees that they are for a program.
  - `runLookup_hostsBranch`: the addresses of a term.
  - `run_walk`, `run_flatten`: a walk, and the flattening of several domains.
  - `regular_flatten`: a flattening asks for nothing but records of the regular types.
-/

import SenderPolicy.Flatten.Result
import SenderPolicy.Proofs.Dns.Programs

namespace SenderPolicy.Flatten

open Dns
open Dns.Program (put run_bind run_pure run_mapM)

variable {m : Type → Type} [Monad m] [LawfulMonad m] (limits : Limits) (ask : Ask m)

theorem runLookup_addressBranch (name : String) (v4 v6 : Option String) :
    runLookup ask (addressBranch put name v4 v6) = addressBranch ask name v4 v6 := by
  unfold addressBranch
  rw [runLookup_bind, runLookup_addresses]
  refine bind_congr fun r => ?_
  cases r with
  | error f => rfl
  | ok texts =>
    dsimp only
    split <;> rfl

theorem runLookup_mxBranch (target : String) (v4 v6 : Option String) :
    runLookup ask (mxBranch put target v4 v6) = mxBranch ask target v4 v6 := by
  have hexchange : ∀ e, runLookup ask (exchangeBranch put v4 v6 e) = exchangeBranch ask v4 v6 e := by
    intro e
    unfold exchangeBranch
    rw [runLookup_bind, runLookup_addressBranch]
    rfl
  unfold mxBranch
  rw [runLookup_bind, runLookup_exchanges]
  refine bind_congr fun r => ?_
  cases r with
  | error f => rfl
  | ok es =>
    dsimp only
    rw [runLookup_bind, runLookup_mapM]
    simp only [hexchange]
    rfl

theorem runLookup_hostsBranch (domain : String) (h : Hosts) :
    runLookup ask (hostsBranch put domain h) = hostsBranch ask domain h := by
  unfold hostsBranch
  dsimp only
  split
  · exact runLookup_mxBranch ask _ _ _
  · exact runLookup_addressBranch ask _ _ _

/-- For the addresses of a term only addresses and exchanges are asked for. -/
theorem looks_hostsBranch {p : Question → Prop} (h : ∀ q : Question, q.type ∈ ["A", "AAAA", "MX"] → p q) (domain : String)
    (hosts : Hosts) : Looks p (hostsBranch put domain hosts) := by
  have haddress : ∀ name v4 v6, Looks p (addressBranch put name v4 v6) := by
    intro name v4 v6
    refine (looks_addresses (h _ (by simp)) (h _ (by simp))).bind fun r => ?_
    cases r with
    | error f => exact looks_pure _
    | ok texts =>
      dsimp only
      split <;> exact looks_pure _
  unfold hostsBranch
  dsimp only
  split
  · refine (looks_exchanges (h _ (by simp))).bind fun r => ?_
    cases r with
    | error f => exact looks_pure _
    | ok es => exact (looks_mapM (fun e => (haddress _ _ _).bind fun _ => looks_pure _) _).bind fun _ => looks_pure _
  · exact haddress _ _ _

theorem looks_hosts {p : Question → Prop} (h : ∀ q : Question, q.type ∈ ["A", "AAAA", "MX"] → p q) (domain : String)
    (hs : List Hosts) : Looks p (hs.mapM (hostsBranch put domain)) := looks_mapM (looks_hostsBranch h domain) hs

/-- What a visit looks up of the record of its domain. -/
theorem run_published (domain : String) : ((Record.published put domain).run).run ask = (Record.published ask domain).run :=
  congrArg ExceptT.run (runLookup_published ask domain)

/-- What a visit looks up of the addresses of a record's terms. -/
theorem run_hosts (domain : String) (hs : List Hosts) :
    ((hs.mapM (hostsBranch put domain)).run).run ask = (hs.mapM (hostsBranch ask domain)).run := by
  have h := runLookup_mapM ask (hostsBranch put domain) hs
  simp only [runLookup_hostsBranch] at h
  exact congrArg ExceptT.run h

theorem run_walk (room : Nat) (v : Visit) : (walk limits put room v).run ask = walk limits ask room v := by
  induction room generalizing v with
  | zero => rfl
  | succ room ih =>
    unfold walk
    dsimp only
    split
    · rfl
    split
    · rfl
    rw [run_bind, run_published]
    refine bind_congr fun r => ?_
    cases r with
    | error i => rfl
    | ok r =>
      cases r with
      | error u => rfl
      | ok record =>
        dsimp only
        rw [run_bind, run_hosts]
        refine bind_congr fun r => ?_
        cases r with
        | error i => rfl
        | ok hosts =>
          dsimp only
          simp only [run_bind, run_mapM, run_pure, ih]

theorem run_resolve (v : Visit) : (resolve limits put v).run ask = resolve limits ask v := run_walk limits ask _ v

theorem run_resolveAll (depth : Int) (workers : Nat) (domains : List String) :
    (resolveAll limits put depth workers domains).run ask = resolveAll limits ask depth workers domains := by
  induction domains generalizing workers with
  | nil => cases workers <;> rfl
  | cons d ds ih =>
    cases workers with
    | zero => rfl
    | succ workers =>
      unfold resolveAll
      rw [run_bind, run_resolve]
      refine bind_congr fun b => ?_
      rw [run_bind, ih]
      rfl

theorem run_finish (rounds : Nat) (vs : List Visit) : (finish limits put rounds vs).run ask = finish limits ask rounds vs := by
  induction rounds generalizing vs with
  | zero => cases vs <;> rfl
  | succ rounds ih =>
    cases vs with
    | nil => rfl
    | cons v vs =>
      unfold finish
      rw [run_bind, run_mapM]
      simp only [run_resolve, ih]

theorem run_share (depth : Int) (domains : List String) :
    (share limits put depth domains).run ask = share limits ask depth domains := by
  unfold share
  rw [run_bind, run_resolveAll]
  refine bind_congr fun r => ?_
  obtain ⟨branches, left⟩ := r
  dsimp only
  split
  · rw [run_bind, run_finish]
    rfl
  · rfl

theorem run_flatten (depth : Int) (domains : List String) :
    (flatten limits put depth domains).run ask = flatten limits ask depth domains := by
  unfold flatten
  rw [run_bind, run_share]
  rfl

theorem run_flattenWithin (depth : Int) (domains : List String) :
    (flattenWithin limits put depth domains).run ask = flattenWithin limits ask depth domains := by
  unfold flattenWithin
  rw [run_bind, run_share]
  rfl

/-! ## What is asked -/

theorem regular_record (domain : String) : Looks Question.IsRegular (Record.published put domain) :=
  looks_published (show "TXT" ∈ recordTypes by decide)

theorem regular_hosts (domain : String) (hs : List Hosts) : Looks Question.IsRegular (hs.mapM (hostsBranch put domain)) := by
  refine looks_hosts (fun q hq => ?_) domain hs
  have htypes : ∀ t ∈ ["A", "AAAA", "MX"], t ∈ recordTypes := by decide
  exact htypes _ hq

theorem regular_walk (limits : Limits) (room : Nat) (v : Visit) : (walk limits put room v).Only Question.IsRegular := by
  induction room generalizing v with
  | zero => exact .done _
  | succ room ih =>
    unfold walk
    dsimp only
    split
    · exact .done _
    split
    · exact .done _
    refine (regular_record _).only.bind fun r => ?_
    rcases r with i | u | record
    · exact .done _
    · exact .done _
    · refine (regular_hosts _ _).only.bind fun r => ?_
      cases r with
      | error i => exact .done _
      | ok hosts => exact (Program.only_mapM fun child _ => (ih child).bind fun b => .done _).bind fun bs => .done _

theorem regular_resolveAll (limits : Limits) (depth : Int) (workers : Nat) (ds : List String) :
    (resolveAll limits put depth workers ds).Only Question.IsRegular := by
  induction ds generalizing workers with
  | nil => cases workers <;> exact .done _
  | cons d ds ih =>
    cases workers with
    | zero => exact .done _
    | succ workers => exact (regular_walk limits _ _).bind fun b => (ih _).bind fun r => .done _

theorem regular_finish (limits : Limits) (rounds : Nat) (vs : List Visit) :
    (finish limits put rounds vs).Only Question.IsRegular := by
  induction rounds generalizing vs with
  | zero => cases vs <;> exact .done _
  | succ rounds ih =>
    cases vs with
    | nil => exact .done _
    | cons v vs =>
      have hresolve : ∀ v, (resolve limits put v).Only Question.IsRegular := fun v => regular_walk limits _ v
      exact (Program.only_mapM fun v _ => hresolve v).bind fun bs => ih _

/-- A flattening asks for nothing but records of the regular types. -/
theorem regular_flatten (limits : Limits) (depth : Int) (domains : List String) :
    (flatten limits put depth domains).Only Question.IsRegular := by
  refine Program.Only.bind ?_ fun branches => .done _
  refine (regular_resolveAll limits depth limits.workers _).bind fun r => ?_
  obtain ⟨branches, left⟩ := r
  dsimp only
  split
  · exact (regular_finish limits _ _).bind fun _ => .done _
  · exact .done _

end SenderPolicy.Flatten
