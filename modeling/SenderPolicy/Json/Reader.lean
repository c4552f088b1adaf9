/-
  SenderPolicy.Json.Reader — JSON values read from text.

  A number with a point or an exponent is a float, any other one a whole number; two escapes that
  together spell one character beyond the first 65536 are read as that character. Reading ends because
  every part takes at least one character.
-/

import SenderPolicy.Json.Basic
import SenderPolicy.Text.Hex
import SenderPolicy.Text.Numeral

namespace SenderPolicy.Json

open Text

def isGap (c : Char) : Bool := c == ' ' || c == '\n' || c == '\r' || c == '\t'

def skipGap (cs : List Char) : List Char := cs.dropWhile isGap

/-- The number of a four digit escape. -/
def escapeValue? (ds : List Char) : Option Nat :=
  if ds.all fun c => (hexValue? c).isSome then some (ds.foldl (fun n c => 16 * n + (hexValue? c).getD 0) 0) else none

def isHigh (n : Nat) : Bool := 0xd800 ≤ n && n < 0xdc00

def isLow (n : Nat) : Bool := 0xdc00 ≤ n && n < 0xe000

/-- The character of a number; half a character is replaced. -/
def charOf (n : Nat) : Char := if isHigh n || isLow n then '\ufffd' else Char.ofNat n

def simpleEscape? (c : Char) : Option Char :=
  if c == 'n' then some '\n'
  else if c == 't' then some '\t'
  else if c == 'r' then some '\r'
  else if c == 'b' then some '\x08'
  else if c == 'f' then some '\x0c'
  else if c == '"' || c == '\\' || c == '/' then some c
  else none

/-- The characters up to the closing quote, and what follows it. -/
def readChars : List Char → Option (List Char × List Char)
  | [] => none
  | '"' :: rest => some ([], rest)
  | '\\' :: 'u' :: a :: b :: c :: d :: '\\' :: 'u' :: e :: f :: g :: h :: rest =>
    match escapeValue? [a, b, c, d], escapeValue? [e, f, g, h] with
    | some high, some low =>
      if isHigh high && isLow low then
        (readChars rest).map fun (cs, r) => (Char.ofNat (0x10000 + 1024 * (high - 0xd800) + (low - 0xdc00)) :: cs, r)
      else (readChars ('\\' :: 'u' :: e :: f :: g :: h :: rest)).map fun (cs, r) => (charOf high :: cs, r)
    | some n, none => (readChars ('\\' :: 'u' :: e :: f :: g :: h :: rest)).map fun (cs, r) => (charOf n :: cs, r)
    | none, _ => none
  | '\\' :: 'u' :: a :: b :: c :: d :: rest =>
    match escapeValue? [a, b, c, d] with
    | some n => (readChars rest).map fun (cs, r) => (charOf n :: cs, r)
    | none => none
  | '\\' :: c :: rest =>
    match simpleEscape? c with
    | some c => (readChars rest).map fun (cs, r) => (c :: cs, r)
    | none => none
  | c :: rest => (readChars rest).map fun (cs, r) => (c :: cs, r)

def isNumeral (c : Char) : Bool := c.isDigit || c == '-' || c == '+' || c == '.' || c == 'e' || c == 'E'

def number? (cs : List Char) : Option Number :=
  let s := String.ofList cs
  if cs.any fun c => c == '.' || c == 'e' || c == 'E' then (readReal s).toOption.map .real
  else (readInt s).toOption.map .int

/-- The constants that are written as words. -/
def words : List (String × Json) :=
  [("null", .null), ("true", .bool true), ("false", .bool false), ("NaN", .real (0 / 0)),
   ("Infinity", .real (1 / 0)), ("-Infinity", .real (-(1 / 0)))]

def readWord? (cs : List Char) : Option (Json × List Char) :=
  (words.find? fun w => w.1.toList.isPrefixOf cs).map fun w => (w.2, cs.drop w.1.length)

def readPlain? (cs : List Char) : Option (Json × List Char) :=
  (readWord? cs).orElse fun _ =>
    (number? (cs.takeWhile isNumeral)).map fun n => (.num n, cs.dropWhile isNumeral)

/-- The name of a field, and what follows its colon. -/
def readName? : List Char → Option (String × List Char)
  | '"' :: rest =>
    match readChars rest with
    | some (name, r) =>
      match skipGap r with
      | ':' :: r => some (String.ofList name, r)
      | _ => none
    | none => none
  | _ => none

mutual

/-- Reads a value; `room` bounds how many parts are read on the way. -/
def readValue : Nat → List Char → Option (Json × List Char)
  | 0, _ => none
  | room + 1, cs =>
    match skipGap cs with
    | '"' :: rest => (readChars rest).map fun (s, r) => (.str (String.ofList s), r)
    | '[' :: rest =>
      match skipGap rest with
      | ']' :: r => some (.arr [], r)
      | rest => (readItems room rest).map fun (items, r) => (.arr items, r)
    | '\x7b' :: rest =>
      match skipGap rest with
      | '\x7d' :: r => some (.obj [], r)
      | rest => (readFields room rest).map fun (fields, r) => (.obj fields, r)
    | cs => readPlain? cs

def readItems : Nat → List Char → Option (List Json × List Char)
  | 0, _ => none
  | room + 1, cs =>
    match readValue room cs with
    | none => none
    | some (v, rest) =>
      match skipGap rest with
      | ',' :: r => (readItems room r).map fun (vs, r) => (v :: vs, r)
      | ']' :: r => some ([v], r)
      | _ => none

def readFields : Nat → List Char → Option (List (String × Json) × List Char)
  | 0, _ => none
  | room + 1, cs =>
    match readName? (skipGap cs) with
    | none => none
    | some (name, rest) =>
      match readValue room rest with
      | none => none
      | some (v, rest) =>
        match skipGap rest with
        | ',' :: r => (readFields room r).map fun (fs, r) => ((name, v) :: fs, r)
        | '\x7d' :: r => some ([(name, v)], r)
        | _ => none

end

/-- The value that a text spells. -/
def ofText? (s : String) : Option Json :=
  match readValue (s.length + 1) s.toList with
  | some (v, rest) => if (skipGap rest).isEmpty then some v else none
  | none => none

end SenderPolicy.Json
