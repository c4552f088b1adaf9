/-
  SenderPolicy.Text.Numeral — whole numbers and floats written as text.

  White space may stand around a number, a sign before it, and single underscores between its
  digits; the digits may be of any script. A whole number has at most 4300 digits, read or written.
-/

import SenderPolicy.Text.Blank
import SenderPolicy.Text.Digit
import SenderPolicy.Text.Quoted
import SenderPolicy.Decimal.Basic

namespace SenderPolicy.Text

inductive NumeralError where
  | notInteger (text : String)
  | notReal (text : String)
  | tooLong (digits : Nat)
  | unwritable
  deriving DecidableEq, Repr

namespace Numeral

def maxDigits : Nat := 4300

/-- The text in ASCII: spaces for white space, ASCII digits, and nothing after a character that can
stand in no number, for which a question mark is left. -/
def plain : List Char → List Char
  | [] => []
  | c :: cs =>
    if c.toNat < 127 then c :: plain cs
    else if isBlank c then ' ' :: plain cs
    else match digit? c with
      | some d => Nat.digitChar d :: plain cs
      | none => ['?']

def isSpace (c : Char) : Bool := (9 ≤ c.toNat && c.toNat ≤ 13) || c == ' '

def unsign : List Char → Bool × List Char
  | '-' :: cs => (true, cs)
  | '+' :: cs => (false, cs)
  | cs => (false, cs)

/-- Whether every underscore stands between two digits; `before` says whether a digit came last. -/
def spaced (before : Bool) : List Char → Bool
  | [] => true
  | '_' :: cs => before && (match cs with | d :: _ => d.isDigit | [] => false) && spaced false cs
  | c :: cs => spaced c.isDigit cs

def value (ds : List Char) : Nat := ds.foldl (fun n c => 10 * n + (c.toNat - '0'.toNat)) 0

def isInfinite (word : List Char) : Bool := word == "inf".toList || word == "infinity".toList

/-- The digits before the point, those behind it, and the exponent. -/
def realParts? (cs : List Char) : Option (List Char × List Char × Int) :=
  let whole := cs.takeWhile Char.isDigit
  let rest := cs.dropWhile Char.isDigit
  let (fraction, rest) := match rest with
    | '.' :: r => (r.takeWhile Char.isDigit, r.dropWhile Char.isDigit)
    | r => ([], r)
  if whole.isEmpty && fraction.isEmpty then none
  else match rest with
    | [] => some (whole, fraction, 0)
    | e :: r =>
      let (negative, ds) := unsign r
      if (e == 'e' || e == 'E') && !ds.isEmpty && ds.all Char.isDigit then
        some (whole, fraction, if negative then -(value ds : Int) else value ds)
      else none

end Numeral

open Numeral

/-- The whole number that a text spells. -/
def readInt (s : String) : Except NumeralError Int :=
  let (negative, body) := unsign ((plain s.toList).dropWhile isSpace)
  let run := body.takeWhile fun c => c.isDigit || c == '_'
  let rest := body.dropWhile fun c => c.isDigit || c == '_'
  let digits := run.filter (· != '_')
  if run.isEmpty || !spaced false run then .error (.notInteger s)
  else if digits.length > maxDigits then .error (.tooLong digits.length)
  else if rest.all isSpace then .ok (if negative then -(value digits : Int) else value digits)
  else .error (.notInteger s)

/-- A whole number as text. -/
def writeInt (i : Int) : Except NumeralError String :=
  if (Nat.toDigits 10 i.natAbs).length > maxDigits then .error .unwritable else .ok (toString i)

/-- The float nearest to the decimal that a text spells, an infinity, or no number at all. -/
def readReal (s : String) : Except NumeralError Float :=
  let (negative, body) := unsign (trim isSpace (plain s.toList))
  let word := body.map Char.toLower
  if isInfinite word then .ok (if negative then -(1 / 0) else 1 / 0)
  else if word == "nan".toList then .ok (0 / 0)
  else if !spaced false body then .error (.notReal s)
  else match realParts? (body.filter (· != '_')) with
    | some (whole, fraction, e) =>
      .ok (Decimal.nearest negative (value (whole ++ fraction)) (e - fraction.length))
    | none => .error (.notReal s)

/-- The text in quotes, cut off after two hundred characters. -/
def quotedStart (s : String) : String := String.ofList ((quoted s).toList.take 200)

def NumeralError.message : NumeralError → String
  | .notInteger s => s!"invalid literal for int() with base 10: {quotedStart s}"
  | .notReal s => s!"could not convert string to float: {quoted s}"
  | .tooLong n => s!"Exceeds the limit (4300 digits) for integer string conversion: value has {n} digits; use sys.set_int_max_str_digits() to increase the limit"
  | .unwritable => "Exceeds the limit (4300 digits) for integer string conversion; use sys.set_int_max_str_digits() to increase the limit"

example : (readInt " -1_000 ").toOption = some (-1000) := by decide

end SenderPolicy.Text
