/-
  SenderPolicy.Flatten.Workers — the requested domains and those who resolve them.

  Workers take the domains in order. One whose question is never answered is lost to the others, and
  without a worker a domain is not resolved in time. The visits that crashed branches left pending are
  made when all domains are done: nothing of them is reported, but their questions have been asked.
  - `map_fst_resolveAll`: every domain gets a branch, in order, whoever is lost on the way.
-/

import SenderPolicy.Flatten.Walk

namespace SenderPolicy.Flatten

open Dns

variable {m : Type → Type} [Monad m]

/-- The distinct domains that are asked for, in the order in which they come up. -/
def requested (domains : List String) : List String := (domains.map Domain.key).eraseDups

/-- The branches of the domains, with the workers that are left in the end. -/
def resolveAll (limits : Limits) (ask : Ask m) (depth : Int) :
    (workers : Nat) → List String → m (List (String × Branch) × Nat)
  | workers, [] => return ([], workers)
  | 0, domains => return (domains.map fun d => (d, interrupted limits d .silence), 0)
  | workers + 1, d :: ds => do
    let b ← resolve limits ask ⟨depth, [], d⟩
    let (rest, left) ← resolveAll limits ask depth (if b.silent then workers else workers + 1) ds
    return ((d, awaited limits d b) :: rest, left)

/-- Makes pending visits in order, then those that they left pending, and so on. -/
def finish (limits : Limits) (ask : Ask m) : (rounds : Nat) → List Visit → m Unit
  | _, [] => return ()
  | 0, _ => return ()
  | rounds + 1, vs => do
    let branches ← vs.mapM (resolve limits ask)
    finish limits ask rounds (branches.flatMap (·.pending))

/-- Resolves the domains, and then what is still pending if a worker is left. A pending visit is deeper
than the one that left it, so there are no more rounds than levels. -/
def share (limits : Limits) (ask : Ask m) (depth : Int) (domains : List String) : m (List (String × Branch)) := do
  let (branches, left) ← resolveAll limits ask depth limits.workers domains
  if left ≠ 0 then finish limits ask (roomAt limits depth) (branches.flatMap (·.2.pending))
  return branches

theorem map_fst_resolveAll (limits : Limits) (ask : Ask Id) (depth : Int) (workers : Nat) (domains : List String) :
    (resolveAll limits ask depth workers domains).run.1.map (·.1) = domains := by
  induction domains generalizing workers with
  | nil => cases workers <;> rfl
  | cons d ds ih =>
    cases workers with
    | zero => simp [resolveAll, Function.comp_def]
    | succ w =>
      simp only [resolveAll, Id.run_bind, Id.run_pure, List.map_cons]
      rw [ih]

end SenderPolicy.Flatten
