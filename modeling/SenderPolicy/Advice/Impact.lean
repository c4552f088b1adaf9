/-
  SenderPolicy.Advice.Impact — how much of the mail a change affects.

  A share of the mail is a percentage; below five it is low, from twenty-five on it is high.
  - `grade_isSome`: exactly the numbers from 0 to 100 are percentages.
-/

import SenderPolicy.Json.Display

namespace SenderPolicy.Advice

inductive Impact where
  | low
  | medium
  | high
  deriving DecidableEq, Repr

def Impact.name : Impact → String
  | .low => "low"
  | .medium => "medium"
  | .high => "high"

/-- A number that is no percentage. -/
structure NoPercentage where
  shown : String
  deriving DecidableEq, Repr

def NoPercentage.message (e : NoPercentage) : String := s!"{e.shown} is not a percentage between 0 and 100"

def isBelow : Number → Int → Bool
  | .int i, n => i < n
  | .real x, n => x < Float.ofInt n

def isAbove : Number → Int → Bool
  | .int i, n => i > n
  | .real x, n => x > Float.ofInt n

/-- The impact of a change that affects this percentage of the mail. -/
def grade (percentage : Number) : Except NoPercentage Impact :=
  if isBelow percentage 0 || isAbove percentage 100 then .error ⟨percentage.text⟩
  else if isBelow percentage 5 then .ok .low
  else if isBelow percentage 25 then .ok .medium
  else .ok .high

theorem grade_isSome (i : Int) : (grade (.int i)).toOption.isSome = true ↔ 0 ≤ i ∧ i ≤ 100 := by
  have hr : (isBelow (.int i) 0 || isAbove (.int i) 100) = false ↔ 0 ≤ i ∧ i ≤ 100 := by simp [isBelow, isAbove]
  rw [← hr, grade]
  cases isBelow (.int i) 0 || isAbove (.int i) 100
  · cases isBelow (.int i) 5 <;> cases isBelow (.int i) 25 <;> simp [Except.toOption]
  · simp [Except.toOption]

end SenderPolicy.Advice
