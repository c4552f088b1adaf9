/-
  SenderPolicy.Decimal.Basic — the exact value of a float, and rounding it to decimal places.

  A finite float is `± mantissa · 2 ^ exponent`. All rounding is done on that quotient of naturals,
  a half goes to the even neighbour, and a decimal reads back as the nearest float.
  - `roundDiv_mul`: a division without rest is not rounded.
-/

namespace SenderPolicy.Decimal

/-- A float taken apart. -/
inductive Parts where
  | finite (negative : Bool) (mantissa : Nat) (exponent : Int)
  | infinite (negative : Bool)
  | notNumber
  deriving DecidableEq, Repr

def parts (x : Float) : Parts :=
  let bits : Nat := x.toBits.toNat
  let negative : Bool := bits / Nat.pow 2 63 == 1
  let biased : Nat := bits / Nat.pow 2 52 % 2048
  let fraction : Nat := bits % Nat.pow 2 52
  if biased == 2047 then if fraction == 0 then .infinite negative else .notNumber
  else if biased == 0 then .finite negative fraction (-1074)
  else .finite negative (Nat.pow 2 52 + fraction) ((biased : Int) - 1075)

/-- The numerator and the denominator of `mantissa · 2 ^ exponent`. -/
def ratio (mantissa : Nat) (exponent : Int) : Nat × Nat :=
  if exponent ≥ 0 then (mantissa * Nat.pow 2 exponent.toNat, 1) else (mantissa, Nat.pow 2 (-exponent).toNat)

/-- The nearest natural to `num / den`; a half goes to the even one. -/
def roundDiv (num den : Nat) : Nat :=
  let q := num / den
  let twice := 2 * (num % den)
  if twice > den || (twice == den && q % 2 == 1) then q + 1 else q

/-- `num / den · 10 ^ places`, as a quotient. -/
def scale (num den : Nat) (places : Int) : Nat × Nat :=
  if places ≥ 0 then (num * Nat.pow 10 places.toNat, den) else (num, den * Nat.pow 10 (-places).toNat)

/-- The float nearest to `± m · 10 ^ e`. -/
def nearest (negative : Bool) (m : Nat) (e : Int) : Float :=
  let size := (Nat.toDigits 10 m).length + e
  let x :=
    if m == 0 || size < -400 then 0
    else if size > 400 then 1 / 0
    else Float.ofScientific m (e < 0) e.natAbs
  if negative then -x else x

/-- The float nearest to `x` rounded to `places` decimal places. -/
def roundPlaces (x : Float) (places : Nat) : Float :=
  match parts x with
  | .finite negative m e =>
    let (num, den) := ratio m e
    let (num, den) := scale num den places
    nearest negative (roundDiv num den) (-places)
  | _ => x

/-- The whole number that is left of a finite float without its fraction. -/
def truncate? (x : Float) : Option Int :=
  match parts x with
  | .finite negative m e =>
    let (num, den) := ratio m e
    some (if negative then -((num / den : Nat) : Int) else (num / den : Nat))
  | _ => none

/-- The float nearest to a whole number. -/
def ofInt (i : Int) : Float := nearest (i < 0) i.natAbs 0

/-- The float nearest to `± m · 10 ^ e`, if no number of that size is too large for a float. -/
def nearest? (negative : Bool) (m : Nat) (e : Int) : Option Float :=
  let x := nearest negative m e
  match parts x with
  | .finite _ _ _ => some x
  | _ => none

/-- The float nearest to a whole number that is not too large for one. -/
def ofInt? (i : Int) : Option Float := nearest? (i < 0) i.natAbs 0

theorem roundDiv_mul (q : Nat) {den : Nat} (h : 0 < den) : roundDiv (q * den) den = q := by
  simp [roundDiv, Nat.mul_div_cancel _ h]
  omega

example : parts 0.5 = .finite false (2 ^ 52) (-53) := by decide
example : truncate? (-1.9) = some (-1) := by decide

end SenderPolicy.Decimal
