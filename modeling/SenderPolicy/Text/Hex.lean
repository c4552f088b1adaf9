/-
  SenderPolicy.Text.Hex — hexadecimal digits.

  - `hexValue?_hexDigit`: a written digit reads back.
-/

namespace SenderPolicy.Text

/-- The lower-case digit for a value below sixteen. -/
def hexDigit (n : Nat) : Char := Nat.digitChar n

def hexValue? (c : Char) : Option Nat :=
  if c.isDigit then some (c.toNat - '0'.toNat)
  else if 'a' ≤ c && c ≤ 'f' then some (c.toNat - 'a'.toNat + 10)
  else if 'A' ≤ c && c ≤ 'F' then some (c.toNat - 'A'.toNat + 10)
  else none

/-- The last `width` digits of `n`, most significant first. -/
def hexFixed : Nat → Nat → List Char
  | 0, _ => []
  | width + 1, n => hexFixed width (n / 16) ++ [hexDigit (n % 16)]

/-- As many digits as `n` needs. -/
def hex (n : Nat) : List Char := Nat.toDigits 16 n

theorem hexValue?_hexDigit : ∀ n < 16, hexValue? (hexDigit n) = some n := by decide

theorem length_hexFixed (width n : Nat) : (hexFixed width n).length = width := by
  induction width generalizing n with
  | zero => rfl
  | succ w ih => simp [hexFixed, ih]

example : hexFixed 4 0x2d = ['0', '0', '2', 'd'] := by decide

end SenderPolicy.Text
