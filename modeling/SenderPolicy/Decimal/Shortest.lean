/-
  SenderPolicy.Decimal.Shortest — the fewest digits that read back as the same float.

  For one digit, two, and so on, the two neighbours of the value on the grid of decimals with that
  many significant digits are tried; the first grid with a neighbour that reads back wins, and of two
  such neighbours the nearer one. Seventeen digits always suffice.
-/

import SenderPolicy.Decimal.Basic

namespace SenderPolicy.Decimal

/-- The decimal exponent of `num / den > 0`: the largest `k` with `10 ^ k ≤ num / den`. -/
def magnitude (num den : Nat) : Int :=
  if den ≤ num then ((Nat.toDigits 10 (num / den)).length : Int) - 1
  else
    let d := (Nat.toDigits 10 (den / num)).length
    if den ≤ num * Nat.pow 10 (d - 1) then -((d : Int) - 1) else -(d : Int)

/-- A neighbour of the value with `n` digits that reads back as the float with these bits. -/
def candidate? (bits : UInt64) (num den : Nat) (k : Int) (n : Nat) : Option Nat :=
  let places := (n : Int) - 1 - k
  let (num, den) := scale num den places
  let low := num / den
  let near := if 2 * (num % den) > den || (2 * (num % den) == den && low % 2 == 1) then low + 1 else low
  let far := if near == low then low + 1 else low
  let readsBack := fun c => (nearest false c (-places)).toBits == bits
  if readsBack near then some near
  else if num % den != 0 && readsBack far then some far else none

/-- The digits of the shortest decimal for a positive float, and its decimal exponent. -/
def shortest (x : Float) (num den : Nat) : List Char × Int :=
  let k := magnitude num den
  let tries := (List.range 17).filterMap fun i => (candidate? x.toBits num den k (i + 1)).map fun c => (c, i + 1)
  match tries.head? with
  | some (c, n) =>
    let ds := Nat.toDigits 10 c
    (ds, k + (ds.length - n : Nat))
  | none => (Nat.toDigits 10 (roundDiv num den), k)

end SenderPolicy.Decimal
