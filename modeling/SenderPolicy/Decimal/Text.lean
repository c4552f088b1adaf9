/-
  SenderPolicy.Decimal.Text — floats as text.

  A `Style` says from where on a number is written with an exponent and whether a whole number shows
  a point. `full` writes the shortest decimal that reads back, `six` at most six digits, and `fixed`
  a fixed number of places.
-/

import SenderPolicy.Decimal.Shortest

namespace SenderPolicy.Decimal

/-- Numbers from `10 ^ low` to below `10 ^ high` are written without an exponent. -/
structure Style where
  low : Int
  high : Int
  /-- Whether a whole number written without an exponent ends in `.0`. -/
  point : Bool

/-- Whole numbers keep `.0`; sixteen digits stand before the point at most. -/
def full : Style := ⟨-4, 16, true⟩

/-- Six digits at most, no digit that is not needed. -/
def six : Style := ⟨-4, 6, false⟩

def padLeft (width : Nat) (cs : List Char) : List Char := List.replicate (width - cs.length) '0' ++ cs

/-- At least two digits and always a sign. -/
def exponentText (k : Int) : List Char :=
  'e' :: (if k < 0 then '-' else '+') :: padLeft 2 (Nat.toDigits 10 k.natAbs)

/-- The number `d.ddd · 10 ^ k`, given its digits without zeros at the end. -/
def Style.write (style : Style) (digits : List Char) (k : Int) : List Char :=
  if style.low ≤ k && k < style.high then
    if k < 0 then '0' :: '.' :: List.replicate ((-k).toNat - 1) '0' ++ digits
    else
      let whole := digits.take (k.toNat + 1) ++ List.replicate (k.toNat + 1 - digits.length) '0'
      match digits.drop (k.toNat + 1) with
      | [] => if style.point then whole ++ ['.', '0'] else whole
      | fraction => whole ++ '.' :: fraction
  else
    match digits with
    | [d] => d :: exponentText k
    | d :: ds => d :: '.' :: ds ++ exponentText k
    | [] => []

def dropZeros (ds : List Char) : List Char :=
  match (ds.reverse.dropWhile (· == '0')).reverse with
  | [] => ['0']
  | kept => kept

def sign (negative : Bool) (cs : List Char) : String := String.ofList (if negative then '-' :: cs else cs)

/-- The shortest decimal that reads back as `x`. -/
def text (x : Float) : String :=
  match parts x with
  | .notNumber => "nan"
  | .infinite negative => sign negative "inf".toList
  | .finite negative 0 _ => sign negative (full.write ['0'] 0)
  | .finite negative m e =>
    let (num, den) := ratio m e
    let (digits, k) := shortest (if negative then -x else x) num den
    sign negative (full.write (dropZeros digits) k)

/-- `x` with at most six significant digits. -/
def brief (x : Float) : String :=
  match parts x with
  | .notNumber => "nan"
  | .infinite negative => sign negative "inf".toList
  | .finite negative 0 _ => sign negative (six.write ['0'] 0)
  | .finite negative m e =>
    let (num, den) := ratio m e
    let k := magnitude num den
    let (num, den) := scale num den (5 - k)
    let digits := Nat.toDigits 10 (roundDiv num den)
    sign negative (six.write (dropZeros digits) (k + (digits.length - 6 : Nat)))

/-- `x` with exactly `places` decimal places, of which there is at least one. -/
def fixed (x : Float) (places : Nat) : String :=
  match parts x with
  | .notNumber => "nan"
  | .infinite negative => sign negative "inf".toList
  | .finite negative m e =>
    let (num, den) := ratio m e
    let (num, den) := scale num den places
    let digits := padLeft (places + 1) (Nat.toDigits 10 (roundDiv num den))
    sign negative (digits.take (digits.length - places) ++ '.' :: digits.drop (digits.length - places))

example : fixed 2.3 3 = "2.300" := by decide

end SenderPolicy.Decimal
