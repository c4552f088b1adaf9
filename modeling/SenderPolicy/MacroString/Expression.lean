/-
  SenderPolicy.MacroString.Expression — what stands between the braces of a macro-string.

  A letter names a field of the message being checked. Digits behind it keep that many labels of the
  field, an `r` turns their order around, and the remaining characters are the delimiters that the
  labels stand between; a capital letter asks for the result to be percent-encoded.
  - `Letter.ofChar?_char`: a letter reads back.
-/

import SenderPolicy.Risk
import SenderPolicy.Text.Numeral

namespace SenderPolicy.MacroString

inductive Letter where
  | sender
  | localPart
  | senderDomain
  | domain
  | ip
  | validated
  | version
  | helo
  | clientIp
  | receiver
  | timestamp
  deriving DecidableEq, Repr

namespace Letter

def char : Letter → Char
  | .sender => 's'
  | .localPart => 'l'
  | .senderDomain => 'o'
  | .domain => 'd'
  | .ip => 'i'
  | .validated => 'p'
  | .version => 'v'
  | .helo => 'h'
  | .clientIp => 'c'
  | .receiver => 'r'
  | .timestamp => 't'

def all : List Letter :=
  [.sender, .localPart, .senderDomain, .domain, .ip, .validated, .version, .helo, .clientIp, .receiver, .timestamp]

/-- The letter that a character names, in either case. -/
def ofChar? (c : Char) : Option Letter := all.find? (·.char == c.toLower)

def name (l : Letter) : String := l.char.toString

def ofName? (name : String) : Option Letter := all.find? (·.name == name)

theorem ofChar?_char (l : Letter) : ofChar? l.char = some l := by cases l <;> rfl

end Letter

/-- How the labels of a field are put together. -/
structure Transformers where
  /-- How many labels are kept; a negative number says how many are dropped at the front. -/
  digits : Option Int
  reversed : Bool
  delimiters : List Char
  encoded : Bool
  deriving DecidableEq, Repr

def isDelimiter (c : Char) : Bool := ['.', '-', '+', ',', '/', '_', '='].contains c

def maxDigits : Nat := 128

/-- What is wrong with the body of an expression; delimiters by their place behind the letter. -/
inductive BodyFault where
  | empty
  | unknownLetter (letter : Char)
  | digits
  | delimiter (offset : Nat)
  deriving DecidableEq, Repr

/-- Where the fault lies, counted from the `%` of the expression. -/
def BodyFault.offset : BodyFault → Nat
  | .empty => 0
  | .unknownLetter _ => 2
  | .digits => 3
  | .delimiter k => 3 + k

structure Body where
  letter : Letter
  transformers : Transformers
  deriving DecidableEq, Repr

/-- An `r` in either case at the start, and what follows it. -/
def takeReversal : List Char → Bool × List Char
  | [] => (false, [])
  | c :: cs => if c == 'r' || c == 'R' then (true, cs) else (false, c :: cs)

/-- The number that the digits behind the letter spell; there may be none. -/
def readDigits (run : List Char) : Except Text.NumeralError (Option Int) :=
  if run.isEmpty then .ok none else (Text.readInt (String.ofList run)).map some

/-- Reads a body. A run of digits that spells no number is an error of its own. -/
def readBody (body : List Char) : Except Text.NumeralError (Except BodyFault Body) :=
  match body with
  | [] => .ok (.error .empty)
  | c :: rest =>
    match Letter.ofChar? c with
    | none => .ok (.error (.unknownLetter c))
    | some letter =>
      let run := rest.takeWhile Text.isDigit
      match readDigits run with
      | .error e => .error e
      | .ok digits =>
        if digits.any fun (n : Int) => n == 0 || n > maxDigits then .ok (.error .digits)
        else
          let (reversed, delimiters) := takeReversal (rest.dropWhile Text.isDigit)
          let before := rest.length - delimiters.length
          match delimiters.findIdx? (!isDelimiter ·) with
          | some k => .ok (.error (.delimiter (before + k)))
          | none =>
            let delimiters := if delimiters.isEmpty then ['.'] else delimiters.eraseDups
            .ok (.ok ⟨letter, digits, reversed, delimiters, c.isUpper⟩)

/-- An expression where it stands in a macro-string. -/
structure Expression where
  raw : String
  position : Nat
  letter : Letter
  transformers : Transformers
  deriving DecidableEq, Repr

/-- How much a macro gives away about the mail that is checked, or lets a sender choose. -/
def Letter.risk : Letter → Risk
  | .sender | .validated => .high
  | .helo | .clientIp | .timestamp => .medium
  | _ => .low

def Expression.risk (e : Expression) : Risk := e.letter.risk

end SenderPolicy.MacroString
