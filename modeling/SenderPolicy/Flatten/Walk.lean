/-
  SenderPolicy.Flatten.Walk — resolving a domain's policy, include by include.

  A branch is followed until it is too deep or comes back to a domain on its own path. Its record gives a
  plan; then the addresses of the `a` and `mx` terms are looked up in order, and after them the domains
  that the record goes on to. Every failure stays in the branch of the domain it belongs to. A crash
  leaves nothing of its branch but itself, and the visits of the domains that its record goes on to are
  left pending; a branch in which a question is never answered is given up by whoever waits for it. To
  wait for longer than a clock can count is a crash as well.
  The walk is a program over the effect `Ask`, and it ends because the depth is bounded.
  - `walk_zero`: a branch that is too deep asks nothing.
-/

import SenderPolicy.Flatten.Mask
import SenderPolicy.Flatten.Plan
import SenderPolicy.Json.Basic

namespace SenderPolicy.Flatten

structure Limits where
  /-- Whether includes inside the records of includes are followed. -/
  recursive : Bool
  maxDepth : Nat
  /-- The seconds that a whole flattening may take. -/
  timeout : Float
  workers : Nat

inductive LimitError where
  | negativeDepth
  | noWorker
  /-- A limit was asked for without a value. -/
  | missing
  | endless
  deriving DecidableEq, Repr

def LimitError.message : LimitError → String
  | .negativeDepth => "max_depth must not be negative"
  | .noWorker => "max_workers must be at least 1"
  | .missing => "a limit has no value"
  | .endless => "the time allowed is too long"

namespace Limits

def depthOf : Option Int → Except LimitError Nat
  | none => .error .missing
  | some i => if i < 0 then .error .negativeDepth else .ok i.toNat

def workersOf : Option Int → Except LimitError Nat
  | none => .error .missing
  | some i => if i < 1 then .error .noWorker else .ok i.toNat

def timeoutOf : Option Number → Except LimitError Float
  | none => .error .missing
  | some n =>
    match n.float? with
    | some x => .ok x
    | none => .error .endless

/-- The limits, of which the depth is looked at first and the time last. -/
def new (recursive : Bool) (maxDepth : Option Int) (timeout : Option Number) (workers : Option Int) :
    Except LimitError Limits := do
  let depth ← depthOf maxDepth
  let workers ← workersOf workers
  let timeout ← timeoutOf timeout
  .ok ⟨recursive, depth, timeout, workers⟩

end Limits

/-- Whether no time is left even at the start. -/
def Limits.expired (l : Limits) : Bool := l.timeout ≤ 0

/-- Whether nobody can wait for so long: the nanoseconds have to fit 64 bits with a sign. -/
def Limits.endless (l : Limits) : Bool := l.timeout * 1e9 ≥ 9223372036854775808

open Dns

variable {m : Type → Type} [Monad m]

/-! ## Addresses -/

/-- The networks around the addresses of a name; either all of them or one trouble. -/
def addressBranch (ask : Ask m) (name : String) (v4 v6 : Option String) : Lookup m Branch := do
  match ← addresses ask name with
  | .error f => return .failure name (.dns f)
  | .ok texts =>
    match maskAll v4 v6 texts with
    | .error e => return .failure name (.mask e)
    | .ok networks => return .found networks

/-- An exchange costs a lookup of its own. -/
def exchangeBranch (ask : Ask m) (v4 v6 : Option String) (e : Exchange) : Lookup m Branch := do
  return .lookup ++ (← addressBranch ask e.host v4 v6)

def mxBranch (ask : Ask m) (target : String) (v4 v6 : Option String) : Lookup m Branch := do
  match ← exchanges ask target with
  | .error f => return .failure target (.dns f)
  | .ok es =>
    let surplus := if es.length > maxExchanges then Branch.failure target (.tooManyExchanges target) else .empty
    return surplus ++ Branch.join (← (es.take maxExchanges).mapM (exchangeBranch ask v4 v6))

def hostsBranch (ask : Ask m) (domain : String) (h : Hosts) : Lookup m Branch :=
  let target := h.target.getD domain
  if h.isMx then mxBranch ask target h.v4 h.v6 else addressBranch ask target h.v4 h.v6

/-! ## Domains -/

/-- What is left of an interrupted branch. -/
def interrupted (limits : Limits) (name : String) : Interruption → Branch
  | .crash c => .failure name (.crash c)
  | .silence => { Branch.failure name (.timedOut limits.timeout) with silent := true }

/-- A branch as whoever waited for it has it. -/
def awaited (limits : Limits) (domain : String) (b : Branch) : Branch :=
  if b.silent then interrupted limits domain .silence else b

/-- What a visit has in the end, with the branches below it. It breaks down if it can never be done waiting for them. -/
def collected (limits : Limits) (v : Visit) (gathered : Branch) (below : List Branch) : Branch :=
  if (Branch.join below).silent && limits.endless then
    { Branch.failure v.name .endless with pending := (Branch.join below).pending }
  else gathered ++ Branch.join below

/-- Makes a visit; `room` says how many levels are left, its own included. -/
def walk (limits : Limits) (ask : Ask m) : (room : Nat) → Visit → m Branch
  | 0, v => return .failure (Domain.key v.name) (.tooDeep v.depth limits.maxDepth)
  | room + 1, v =>
    let domain := Domain.key v.name
    if domain ∈ v.path then return .failure domain (.loop (v.path ++ [domain]))
    else if limits.expired then return .failure domain (.timedOut limits.timeout)
    else do
      match ← (Record.published ask domain).run with
      | .error i => return interrupted limits v.name i
      | .ok (.error u) => return .failure domain (.unavailable u)
      | .ok (.ok record) =>
        let plan := Plan.ofTerms (Record.tokenize record)
        let own := plan.branch domain
        let next := (if limits.recursive then own.nested else []).map v.next
        match ← (plan.hosts.mapM (hostsBranch ask domain)).run with
        | .error i => return { interrupted limits v.name i with pending := next }
        | .ok hosts =>
          let children ← next.mapM fun child => do
            return awaited limits child.name (← walk limits ask room child)
          return collected limits v (own ++ Branch.join hosts) children

/-- The levels from a depth on that a branch may have. -/
def roomAt (limits : Limits) (depth : Int) : Nat := (limits.maxDepth + 1 - depth).toNat

def resolve (limits : Limits) (ask : Ask m) (v : Visit) : m Branch := walk limits ask (roomAt limits v.depth) v

theorem awaited_of_not_silent (limits : Limits) {b : Branch} (h : b.silent = false) (name : String) :
    awaited limits name b = b := if_neg (by rw [h]; exact Bool.false_ne_true)

theorem collected_of_not_silent (limits : Limits) (v : Visit) (gathered : Branch) {below : List Branch}
    (h : (Branch.join below).silent = false) : collected limits v gathered below = gathered ++ Branch.join below := by
  unfold collected
  rw [h]
  rfl

theorem walk_zero (limits : Limits) (ask : Ask m) (v : Visit) :
    walk limits ask 0 v = pure (.failure (Domain.key v.name) (.tooDeep v.depth limits.maxDepth)) := rfl

end SenderPolicy.Flatten
