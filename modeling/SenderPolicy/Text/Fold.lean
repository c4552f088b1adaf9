/-
  SenderPolicy.Text.Fold — matching ASCII letters without regard to case.

  Besides the two cases of a letter, the dotless and the dotted `i`, the long `s` and the Kelvin sign
  match the letters they fold to.
  - `foldsTo_self`: a lower-case letter matches itself.
-/

namespace SenderPolicy.Text

/-- The ASCII letter, in lower case, that a character matches when case is ignored. -/
def fold (c : Char) : Char :=
  if c == 'ı' || c == 'İ' then 'i'
  else if c == 'ſ' then 's'
  else if c == '\u212a' then 'k'
  else c.toLower

/-- Whether `c` matches the lower-case letter or digit `k`. -/
def foldsTo (c k : Char) : Bool := fold c == k

def isLetter (c : Char) : Bool := (fold c).isLower

/-- What follows `word`, a text in lower case, at the start of `cs`. -/
def afterWord? : List Char → List Char → Option (List Char)
  | [], cs => some cs
  | k :: ks, c :: cs => if foldsTo c k then afterWord? ks cs else none
  | _ :: _, [] => none

/-- Whether `cs` spells `word`. -/
def spells (cs word : List Char) : Bool := afterWord? word cs == some []

theorem foldsTo_self : ∀ k ∈ "abcdefghijklmnopqrstuvwxyz0123456789".toList, foldsTo k k = true :=
  List.all_eq_true.1 (by decide)

end SenderPolicy.Text
