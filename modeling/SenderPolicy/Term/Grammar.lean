/-
  SenderPolicy.Term.Grammar — the syntax of a single term.

  A term is a mechanism, with or without a qualifier, or a modifier. Each of the two is read as far as
  it goes, and the longer reading counts; the term is well formed when that reading is all of it. The
  fault of any other term names the place where the reading stopped and what could have stood there.
  - `check_none_iff`: no fault is found exactly in the terms that one of the readings uses up.
-/

import SenderPolicy.Term.Basic
import SenderPolicy.Text.Fold
import SenderPolicy.Text.Word

namespace SenderPolicy

namespace Grammar

/-- What can stand at a place of a term. -/
inductive Expectation where
  | mechanism
  | modifier
  | qualifier
  | endOfStatement
  deriving DecidableEq, Repr

def Expectation.name : Expectation → String
  | .mechanism => "mechanism"
  | .modifier => "modifier"
  | .qualifier => "qualifier"
  | .endOfStatement => "end_of_statement"

/-- Where the reading of a term stops. -/
inductive Stop where
  | atStart
  | behindQualifier
  /-- Behind a mechanism or a modifier that is not all of the term. -/
  | behindReading
  deriving DecidableEq, Repr

end Grammar

/-- What could have stood where the reading of a term stopped, in the words of a parser that is kept up elsewhere. -/
class Expectations where
  expected : Grammar.Stop → List Grammar.Expectation

namespace Grammar

open Text

structure Fault where
  term : String
  position : Nat
  expected : List Expectation
  deriving DecidableEq, Repr

/-- The mark that messages put at the place of a fault. -/
def marker : Char := '➞'

/-- The text with the mark before the character at `position`. -/
def marked (text : String) (position : Nat) : String :=
  String.ofList (text.toList.take position ++ marker :: text.toList.drop position)

def Fault.message (f : Fault) : String :=
  let expected := " or ".intercalate (f.expected.map Expectation.name)
  s!"Expected {expected} at position {f.position} (marked with {marker}) in: {marked f.term f.position}"

/-- The characters of a domain specification, macros and all. -/
def isDomainChar (c : Char) : Bool :=
  isWord c || ['+', '/', '.', ':', '-', '\x7b', '\x7d', '%', '=', ','].contains c

def isV4Char (c : Char) : Bool := c.isDigit || c == '.'

def isV6Char (c : Char) : Bool := c.isDigit || ('a' ≤ c.toLower && c.toLower ≤ 'f') || c == ':' || c == '.'

def isNameChar (c : Char) : Bool := isLetter c || c.isDigit || c == '-' || c == '_' || c == '.'

/-- What follows one or more characters of `p`. -/
def some? (p : Char → Bool) (cs : List Char) : Option (List Char) :=
  match cs with
  | [] => none
  | c :: rest => if p c then some (rest.dropWhile p) else none

/-- What follows the character `k`. -/
def char? (k : Char) : List Char → Option (List Char)
  | [] => none
  | c :: cs => if c == k then some cs else none

/-- What follows a slash and digits. -/
def length? (cs : List Char) : Option (List Char) := (char? '/' cs).bind (some? Char.isDigit)

/-- What follows two slashes and digits. -/
def secondLength? (cs : List Char) : Option (List Char) :=
  ((char? '/' cs).bind (char? '/')).bind (some? Char.isDigit)

/-- What follows a colon and a domain specification. -/
def domain? (cs : List Char) : Option (List Char) := (char? ':' cs).bind (some? isDomainChar)

def optional (read : List Char → Option (List Char)) (cs : List Char) : List Char := (read cs).getD cs

def words? (names : List String) (cs : List Char) : Option (List Char) :=
  names.findSome? fun name => afterWord? name.toList cs

/-- What follows a mechanism without its qualifier: `all`, then the mechanisms that need a domain, those
that need an address, and those that can do without either. -/
def mechanism? (cs : List Char) : Option (List Char) :=
  (words? ["all"] cs)
  <|> ((words? ["include", "exists"] cs).bind domain?)
  <|> (((words? ["ip4"] cs).bind (char? ':')).bind (some? isV4Char)).map (optional length?)
  <|> (((words? ["ip6"] cs).bind (char? ':')).bind (some? isV6Char)).map (optional length?)
  <|> (words? ["a", "mx", "ptr"] cs).map fun r => optional secondLength? (optional length? (optional domain? r))

/-- What follows a modifier: a name, an equals sign and a value that may be empty. -/
def modifier? (cs : List Char) : Option (List Char) :=
  match cs with
  | [] => none
  | c :: rest =>
    if isLetter c then (char? '=' (rest.dropWhile isNameChar)).map (·.dropWhile isDomainChar) else none

/-- The qualifier at the start of a term, and what follows it. -/
def qualifier? : List Char → Option (Qualifier × List Char)
  | [] => none
  | c :: cs => (Qualifier.ofSymbol? c).map fun q => (q, cs)

def unqualified (cs : List Char) : List Char := ((qualifier? cs).map (·.2)).getD cs

/-- What the longer of the two readings leaves of a term. -/
def rest? (cs : List Char) : Option (List Char) :=
  match mechanism? (unqualified cs), modifier? cs with
  | some r, some s => some (if s.length < r.length then s else r)
  | some r, none => some r
  | none, s => s

def check [Expectations] (term : String) : Option Fault :=
  let cs := term.toList
  match rest? cs with
  | some [] => none
  | some r => some ⟨term, cs.length - r.length, Expectations.expected .behindReading⟩
  | none =>
    if (qualifier? cs).isSome then some ⟨term, 1, Expectations.expected .behindQualifier⟩
    else some ⟨term, 0, Expectations.expected .atStart⟩

theorem check_none_iff [Expectations] (term : String) : check term = none ↔ rest? term.toList = some [] := by
  simp only [check]
  split
  · simp_all
  · rename_i h hr
    constructor
    · simp
    · intro h'; rw [hr] at h'; exact absurd (Option.some.inj h') (by simpa using h)
  · split <;> simp_all

example [Expectations] : (check "include:_spf.example.com").isNone = true := rfl
example [Expectations] : (check "ip4:1.2.3.4x").map Fault.position = some 11 := rfl

end Grammar

end SenderPolicy
