/-
  SenderPolicy.Text.Case — lower and upper case, in every script.

  A character may map to several (`İ` to `i` and a dot above, `ß` to `SS`). A capital sigma that
  ends a word maps to the final sigma; it ends a word when the nearest character before it that is
  not passed over has case and the nearest one after it has none.
  - `lowerChars_ascii`: a text of ASCII is lowered character by character.
-/

import SenderPolicy.Text.Case.Lower
import SenderPolicy.Text.Case.Upper

namespace SenderPolicy.Text

def isAscii (cs : List Char) : Bool := cs.all (·.toNat < 128)

def lookup (table : List (Nat × List Char)) (c : Char) : List Char :=
  ((table.find? (·.1 == c.toNat)).map (·.2)).getD [c]

def lowerChar (c : Char) : List Char := if c.toNat < 128 then [c.toLower] else lookup lowerTable c

def upperChar (c : Char) : List Char := if c.toNat < 128 then [c.toUpper] else lookup upperTable c

def isCased (c : Char) : Bool := if c.toNat < 128 then c.isAlpha else Table.mem casedRanges c

def isCaseIgnorable (c : Char) : Bool :=
  if c.toNat < 128 then ['\'', '.', ':', '^', '\x60'].contains c else Table.mem caseIgnorableRanges c

/-- Whether the first character that is not passed over has case. -/
def meetsCase (cs : List Char) : Bool := ((cs.dropWhile isCaseIgnorable).head?.map isCased).getD false

def lowerFrom (before : List Char) : List Char → List Char
  | [] => []
  | c :: cs =>
    let here := if c == 'Σ' then [if meetsCase before && !meetsCase cs then 'ς' else 'σ'] else lowerChar c
    here ++ lowerFrom (c :: before) cs

def lowerChars (cs : List Char) : List Char := lowerFrom [] cs

def lower (s : String) : String := String.ofList (lowerChars s.toList)

def upper (s : String) : String := String.ofList (s.toList.flatMap upperChar)

theorem lowerFrom_ascii {before cs : List Char} (h : ∀ c ∈ cs, c.toNat < 128) :
    lowerFrom before cs = cs.map Char.toLower := by
  induction cs generalizing before with
  | nil => rfl
  | cons c cs ih =>
    have hc := h c List.mem_cons_self
    have hs : (c == 'Σ') = false := by
      rw [beq_eq_false_iff_ne]; rintro rfl; exact absurd hc (by decide)
    simp [lowerFrom, lowerChar, hs, hc, ih fun d hd => h d (List.mem_cons_of_mem _ hd)]

theorem lowerChars_ascii {cs : List Char} (h : ∀ c ∈ cs, c.toNat < 128) : lowerChars cs = cs.map Char.toLower :=
  lowerFrom_ascii h

end SenderPolicy.Text
