/-
  SenderPolicy.Text.Compose — the canonical composed form of a text.

  A text is first decomposed in full, its marks are put in the order of their classes, and then each
  mark joins the last starter before it, when the two compose and no mark of the same or a higher
  class stands between them. Below U+0300 nothing decomposes into something else that would not
  compose again, so such texts are left alone.
  - `compose_below`: a text of characters below U+0300 is its own composed form.
-/

import SenderPolicy.Text.Compose.Canonical

namespace SenderPolicy.Text

/-- The class of a mark, zero for a starter. -/
def combiningClass (c : Char) : Nat :=
  if c.toNat < 0x300 then 0
  else ((combiningTable.find? fun e => e.1.1 ≤ c.toNat && c.toNat ≤ e.1.2).map (·.2)).getD 0

namespace Hangul

def syllableBase : Nat := 0xac00
def leadBase : Nat := 0x1100
def vowelBase : Nat := 0x1161
def tailBase : Nat := 0x11a7
def leads : Nat := 19
def vowels : Nat := 21
def tails : Nat := 28

def isSyllable (n : Nat) : Bool := syllableBase ≤ n && n < syllableBase + leads * vowels * tails

/-- A syllable as its lead, vowel and, where it has one, tail. -/
def decompose (n : Nat) : List Char :=
  let i := n - syllableBase
  let lead := Char.ofNat (leadBase + i / (vowels * tails))
  let vowel := Char.ofNat (vowelBase + i % (vowels * tails) / tails)
  if i % tails == 0 then [lead, vowel] else [lead, vowel, Char.ofNat (tailBase + i % tails)]

/-- A lead and a vowel make a syllable, and a syllable without a tail takes one. -/
def compose? (a b : Nat) : Option Char :=
  if leadBase ≤ a && a < leadBase + leads && vowelBase ≤ b && b < vowelBase + vowels then
    some (Char.ofNat (syllableBase + ((a - leadBase) * vowels + (b - vowelBase)) * tails))
  else if isSyllable a && (a - syllableBase) % tails == 0 && tailBase < b && b < tailBase + tails then
    some (Char.ofNat (a + (b - tailBase)))
  else none

end Hangul

def decomposeChar (c : Char) : List Char :=
  if c.toNat < 0xc0 then [c]
  else if Hangul.isSyllable c.toNat then Hangul.decompose c.toNat
  else ((decompositionTable.find? (·.1 == c.toNat)).map (·.2)).getD [c]

/-- Puts a character behind the marks that its class does not come before; starters stop it. -/
def insertMark (c : Char) : List Char → List Char
  | [] => [c]
  | d :: ds => if combiningClass d > combiningClass c && combiningClass c != 0 then d :: insertMark c ds else c :: d :: ds

/-- The characters in canonical order, last one first. -/
def orderReversed (cs : List Char) : List Char := cs.foldl (fun acc c => insertMark c acc) []

def composePair? (a b : Char) : Option Char :=
  match Hangul.compose? a.toNat b.toNat with
  | some c => some c
  | none => (compositionTable.find? fun e => e.2 == [a, b]).map fun e => Char.ofNat e.1

/-- Composition behind a starter: `kept` holds the marks that did not join it, last one first. -/
def composeFrom (starter : Char) (kept : List Char) : List Char → List Char
  | [] => starter :: kept.reverse
  | c :: cs =>
    let blocked := match kept with
      | [] => false
      | k :: _ => combiningClass k ≥ combiningClass c
    match if blocked then none else composePair? starter c with
    | some joined => composeFrom joined kept cs
    | none =>
      if combiningClass c == 0 then starter :: kept.reverse ++ composeFrom c [] cs
      else composeFrom starter (c :: kept) cs

/-- Marks before the first starter stay as they are. -/
def composeOrdered : List Char → List Char
  | [] => []
  | c :: cs => if combiningClass c == 0 then composeFrom c [] cs else c :: composeOrdered cs

def composeChars (cs : List Char) : List Char :=
  if cs.all (·.toNat < 0x300) then cs
  else composeOrdered (orderReversed (cs.flatMap decomposeChar)).reverse

def compose (s : String) : String := String.ofList (composeChars s.toList)

theorem compose_below {s : String} (h : ∀ c ∈ s.toList, c.toNat < 0x300) : compose s = s := by
  have : s.toList.all (·.toNat < 0x300) = true := by simpa [List.all_eq_true] using h
  simp [compose, composeChars, this]

end SenderPolicy.Text
