/-
  SenderPolicy.MacroString.Reading — the expressions and the faults of a macro-string.

  Faults do not end the reading: it goes on behind the part that is at fault, unless nothing can follow
  it. Each fault names the character of the text it lies at.
  - `read_nil`: the empty text has neither.
-/

import SenderPolicy.MacroString.Expression
import SenderPolicy.MacroString.Lexeme
import SenderPolicy.Term.Grammar

namespace SenderPolicy.MacroString

inductive Reason where
  | incomplete
  | stray
  | unterminated
  | body (fault : BodyFault) (raw : String)
  deriving DecidableEq, Repr

def Reason.message : Reason → String
  | .incomplete => "Incomplete SPF macro"
  | .stray => "Invalid SPF macro syntax"
  | .unterminated => "Unterminated SPF macro"
  | .body .empty _ => "Empty SPF macro"
  | .body (.unknownLetter c) raw =>
    let letter := Text.quoted c.toString
    s!"Unknown SPF macro letter {letter} in {raw}"
  | .body .digits raw => s!"SPF macro digits must be between 1 and {maxDigits} in {raw}"
  | .body (.delimiter _) raw => s!"Invalid SPF macro delimiter in {raw}"

structure Fault where
  text : String
  position : Nat
  reason : Reason
  deriving DecidableEq, Repr

def Fault.message (f : Fault) : String :=
  s!"{f.reason.message} at position {f.position} (marked with {Grammar.marker}) in value: {Grammar.marked f.text f.position}"

/-- A part of a macro-string without fault. -/
inductive Piece where
  | plain (c : Char)
  | escape (e : Escape)
  | expression (e : Expression)
  deriving DecidableEq, Repr

structure Reading where
  pieces : List Piece
  faults : List Fault
  deriving DecidableEq, Repr

namespace Reading

def addPiece (p : Piece) (r : Reading) : Reading := { r with pieces := p :: r.pieces }

def addFault (f : Fault) (r : Reading) : Reading := { r with faults := f :: r.faults }

def expressions (r : Reading) : List Expression :=
  r.pieces.filterMap fun
    | .expression e => some e
    | _ => none

end Reading

/-- Reads the parts of `text` from `position` on. -/
def readFrom (text : String) (position : Nat) : List Lexeme → Except Text.NumeralError Reading
  | [] => .ok ⟨[], []⟩
  | l :: ls =>
    let after := readFrom text (position + l.spelled.length) ls
    match l with
    | .plain c => after.map (·.addPiece (.plain c))
    | .escape e => after.map (·.addPiece (.escape e))
    | .stray => after.map (·.addFault ⟨text, position, .stray⟩)
    | .cut => after.map (·.addFault ⟨text, position, .incomplete⟩)
    | .unclosed _ => after.map (·.addFault ⟨text, position, .unterminated⟩)
    | .braced body =>
      let raw := String.ofList l.spelled
      match readBody body with
      | .error e => .error e
      | .ok (.error f) => after.map (·.addFault ⟨text, position + f.offset, .body f raw⟩)
      | .ok (.ok b) => after.map (·.addPiece (.expression ⟨raw, position, b.letter, b.transformers⟩))

def read (text : String) : Except Text.NumeralError Reading := readFrom text 0 (lex text.toList)

theorem read_nil : (read "").toOption = some ⟨[], []⟩ := by decide

end SenderPolicy.MacroString
