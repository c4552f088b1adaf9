/-
  SenderPolicy.Advice.Outlook — how close a record is to failing, and what to do about it.

  The outlook follows from the lookups of the record alone, apart from two actions that concern its
  mechanisms.
  - `actions_ne_nil`: there is always something to say.
-/

import SenderPolicy.Decimal.Basic
import SenderPolicy.Record.Budget

namespace SenderPolicy.Advice

inductive Action where
  | exceeded
  | flattenNow
  | optimizeSoon
  | noRoom
  | keepRoom
  | withinLimit
  | dropPointers
  | manyIncludes
  deriving DecidableEq, Repr

def Action.message : Action → String
  | .exceeded => "The SPF record exceeds the DNS lookup limit and SPF checks will result in a permerror"
  | .flattenNow => "Flatten includes or remove unnecessary mechanisms now"
  | .optimizeSoon => "The SPF record is close to the DNS lookup limit. Optimize it soon."
  | .noRoom => "Any additional include may push the record over the limit"
  | .keepRoom => "Consider optimizing to keep room for future changes"
  | .withinLimit => "The SPF record is within the DNS lookup limit"
  | .dropPointers => "Remove deprecated ptr mechanisms"
  | .manyIncludes => "A high number of includes may impact performance"

/-- How likely checks are to fail. -/
def failureName : Risk → String
  | .critical => "immediate"
  | .high => "high"
  | .medium => "medium"
  | .low => "low"

def budgetActions : Risk → List Action
  | .critical => [.exceeded, .flattenNow]
  | .high => [.optimizeSoon, .noRoom]
  | .medium => [.keepRoom]
  | .low => [.withinLimit]

structure Outlook where
  risk : Risk
  /-- The lookups as a percentage of the limit. -/
  utilization : Float
  actions : List Action

/-- More lookups than a percentage can be given for. -/
structure TooManyLookups where
  lookups : Int
  deriving DecidableEq, Repr

/-- `n` of the allowed lookups as a percentage with one decimal place. -/
def utilization (n : Int) : Except TooManyLookups Float :=
  match Decimal.nearest? (n < 0) n.natAbs (-1) with
  | some share => .ok (Decimal.roundPlaces (share * 100) 1)
  | none => .error ⟨n⟩

def actions (r : Record) : List Action :=
  budgetActions (Budget.risk r.totalLookups)
    ++ (if r.mechanisms.any (·.kind == .ptr) then [.dropPointers] else [])
    ++ (if (r.mechanisms.filter (·.kind == .incl)).length > 5 then [.manyIncludes] else [])

def outlook (r : Record) : Except TooManyLookups Outlook :=
  (utilization r.totalLookups).map fun u => ⟨Budget.risk r.totalLookups, u, actions r⟩

theorem actions_ne_nil (r : Record) : actions r ≠ [] := by
  simp only [actions]
  cases Budget.risk r.totalLookups <;> simp [budgetActions]

end SenderPolicy.Advice
