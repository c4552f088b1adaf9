/-
  SenderPolicy.Domain.Hostname — names that the DNS can hold as host names.

  At most 253 characters, dots at the end aside, in labels of at most 63. A label holds letters,
  digits, hyphens and underscores and neither begins nor ends with a hyphen; the last label may only
  begin with an underscore. One line end may follow.
-/

import SenderPolicy.Text.Blank
import SenderPolicy.Text.Fold

namespace SenderPolicy.Domain

open Text

def isHostChar (c : Char) : Bool := isLetter c || c.isDigit

/-- A label whose first character passes `first`, whose last passes `last` if it has more than one, and
whose other characters pass `inner`. -/
def isLabel (first inner last : Char → Bool) (cs : List Char) : Bool :=
  cs.length ≤ 63 && match cs with
    | [] => false
    | [c] => first c
    | c :: rest => first c && rest.dropLast.all inner && (rest.getLast?.map last).getD false

def isInnerLabel : List Char → Bool :=
  isLabel (fun c => isHostChar c || c == '_') (fun c => isHostChar c || c == '_' || c == '-')
    (fun c => isHostChar c || c == '_')

def isLastLabel : List Char → Bool :=
  isLabel (fun c => isHostChar c || c == '_') (fun c => isHostChar c || c == '-') isHostChar

def isHostname (name : String) : Bool :=
  let cs := trimEnd (· == '.') name.toList
  let cs := if cs.getLast? == some '\n' then cs.dropLast else cs
  let ls := cs.splitOn '.'
  1 ≤ cs.length && cs.length ≤ 253 && ls.dropLast.all isInnerLabel && isLastLabel (ls.getLastD [])

example : isHostname "_spf.example.com." = true ∧ isHostname "a-.com" = false ∧ isHostname "a_" = false := by decide

end SenderPolicy.Domain
