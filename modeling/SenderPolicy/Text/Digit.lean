/-
  SenderPolicy.Text.Digit — decimal digits of every script, and the wider class of digits.

  A decimal digit has a value (`digit?`) and can stand in a number. The wider class `isDigit` also
  holds superscripts and circled digits, which look like digits but count in no number.
  - `isDigit_of_digit?`: every decimal digit is in the wider class.
-/

import SenderPolicy.Text.Table

namespace SenderPolicy.Text

/-- The zeros of the decimal systems from U+0080 on; the other nine digits follow each of them. -/
def zeros : List Nat := (Table.ranges
  "660 6f0 7c0 966 9e6 a66 ae6 b66 be6 c66 ce6 d66 de6 e50 ed0 f20 1040 1090 17e0 1810 1946 19d0 1a80 1a90
  1b50 1bb0 1c40 1c50 a620 a8d0 a900 a9d0 a9f0 aa50 abf0 ff10 104a0 10d30 11066 110f0 11136 111d0 112f0
  11450 114d0 11650 116c0 11730 118e0 11950 11c50 11d50 11da0 16a60 16ac0 16b50 1d7ce 1d7d8 1d7e2 1d7ec
  1d7f6 1e140 1e2f0 1e950 1fbf0").map (·.1)

/-- Digits that are not decimal digits. -/
def otherDigits : List (Nat × Nat) := Table.ranges
  "b2-b3 b9 1369-1371 19da 2070 2074-2079 2080-2089 2460-2468 2474-247c 2488-2490 24ea 24f5-24fd 24ff
  2776-277e 2780-2788 278a-2792 10a40-10a43 10e60-10e68 11052-1105a 1f100-1f10a"

/-- The value of a decimal digit. -/
def digit? (c : Char) : Option Nat :=
  if c.toNat < 128 then if c.isDigit then some (c.toNat - '0'.toNat) else none
  else (zeros.find? fun z => z ≤ c.toNat && c.toNat < z + 10).map (c.toNat - ·)

def isDecimal (c : Char) : Bool := (digit? c).isSome

def isDigit (c : Char) : Bool := isDecimal c || (128 ≤ c.toNat && Table.mem otherDigits c)

theorem isDigit_of_digit? {c : Char} {n : Nat} (h : digit? c = some n) : isDigit c = true := by
  simp [isDigit, isDecimal, h]

/-- The number that a run of decimal digits spells; a character that is none counts as zero. -/
def number (cs : List Char) : Nat := cs.foldl (fun n c => 10 * n + (digit? c).getD 0) 0

example : number "2048".toList = 2048 := by decide

end SenderPolicy.Text
