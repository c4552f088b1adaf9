/-
  SenderPolicy.Risk — four grades of risk, in ascending order.
  - `le_max`: the higher of two risks is at least each of them.
-/

namespace SenderPolicy

inductive Risk where
  | low
  | medium
  | high
  | critical
  deriving DecidableEq, Repr

namespace Risk

def rank : Risk → Nat
  | .low => 0
  | .medium => 1
  | .high => 2
  | .critical => 3

def name : Risk → String
  | .low => "low"
  | .medium => "medium"
  | .high => "high"
  | .critical => "critical"

/-- The higher of two risks. -/
def max (a b : Risk) : Risk := if a.rank < b.rank then b else a

def highest (risks : List Risk) : Risk := risks.foldl max .low

theorem le_max (a b : Risk) : a.rank ≤ (a.max b).rank ∧ b.rank ≤ (a.max b).rank := by
  cases a <;> cases b <;> decide

end Risk

end SenderPolicy
