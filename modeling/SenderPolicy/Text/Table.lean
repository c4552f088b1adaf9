/-
  SenderPolicy.Text.Table — character data written down as text.

  A table is a list of entries separated by blanks. Code points are hexadecimal, an entry
  `41-5a` is a range with both ends included, and `e9=65+301` maps one code point to a sequence.
  Only code points from U+0080 on appear in the tables of this library: the classes and case maps
  of ASCII are spelled out where they are used, and no table is consulted for it.
-/

namespace SenderPolicy.Text.Table

def hexDigit (c : Char) : Nat :=
  if c ≤ '9' then c.toNat - '0'.toNat else c.toNat - 'a'.toNat + 10

def hex (cs : List Char) : Nat := cs.foldl (fun n c => 16 * n + hexDigit c) 0

def entries (text : String) : List (List Char) :=
  (text.toList.splitOnP fun c => c == ' ' || c == '\n').filter (!·.isEmpty)

/-- The text before and after the first `sep`; the second part is empty when there is none. -/
def cutAt (sep : Char) (cs : List Char) : List Char × List Char :=
  (cs.takeWhile (· != sep), (cs.dropWhile (· != sep)).drop 1)

def range (e : List Char) : Nat × Nat :=
  match cutAt '-' e with
  | (lo, []) => (hex lo, hex lo)
  | (lo, hi) => (hex lo, hex hi)

/-- Ranges of code points. -/
def ranges (text : String) : List (Nat × Nat) := (entries text).map range

/-- Code points and the sequences they map to. -/
def mapping (text : String) : List (Nat × List Char) :=
  (entries text).map fun e =>
    let (key, value) := cutAt '=' e
    (hex key, (value.splitOn '+').map fun d => Char.ofNat (hex d))

/-- Ranges of code points, each with a number. -/
def weights (text : String) : List ((Nat × Nat) × Nat) :=
  (entries text).map fun e =>
    let (key, value) := cutAt ':' e
    (range key, hex value)

def mem (rs : List (Nat × Nat)) (c : Char) : Bool := rs.any fun r => r.1 ≤ c.toNat && c.toNat ≤ r.2

example : ranges "aa b2-b3\n  1f600" = [(0xaa, 0xaa), (0xb2, 0xb3), (0x1f600, 0x1f600)] := by decide
example : mapping "e9=65+301" = [(0xe9, ['e', '\u0301'])] := by decide
example : weights "300-314:e6" = [((0x300, 0x314), 230)] := by decide

end SenderPolicy.Text.Table
