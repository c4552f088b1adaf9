/-
  SenderPolicy.Term.Value — the values that each mechanism can take, and why a term is rejected.

  `all` takes no value, `include` and `exists` need one, `ip4` and `ip6` need a network of their own
  family without macros, and the lengths of `a` and `mx` must fit the family they are for.
  - `checkValue_all`: for `all` nothing but the presence of a value counts.
-/

import SenderPolicy.Address.Reader
import SenderPolicy.Term.Cidr
import SenderPolicy.Term.Grammar

namespace SenderPolicy

inductive TermError where
  | syntaxFault (fault : Grammar.Fault)
  | unknownTerm (token : String)
  | invalidModifier (token : String)
  | takesNoValue
  | missingValue (name : String)
  | addressMacro (name value : String)
  | notAddress (name value : String)
  | wrongFamily (expected : Family) (value : String)
  | badLength (family : Family) (value : String)
  | secondRedirect
  | secondExp
  | emptyModifier (name : String)
  deriving DecidableEq, Repr

def Family.other : Family → Family
  | .v4 => .v6
  | .v6 => .v4

def TermError.message : TermError → String
  | .syntaxFault f => f.message
  | .unknownTerm t => s!"Unknown term: {t}"
  | .invalidModifier t => s!"Invalid modifier: {t}"
  | .takesNoValue => "The all mechanism does not take a value"
  | .missingValue name => s!"{name} must have a value"
  | .addressMacro name value => s!"SPF macros are not allowed in {name} mechanisms: {value}"
  | .notAddress name value => s!"{value} is not a valid {name} value."
  | .wrongFamily f value => s!"{value} is not a valid ipv{f.version} value. Looks like ipv{f.other.version}."
  | .badLength f value => s!"{value} has an invalid IPv{f.version} prefix length"
  | .secondRedirect => "Multiple redirect modifiers"
  | .secondExp => "Multiple exp values are not permitted"
  | .emptyModifier name => s!"The {name} modifier is missing a value"

namespace Mechanism

/-- The network of an `ip4` or `ip6` mechanism has to be one of the mechanism's own family. -/
def checkNetwork (k : Kind) (family : Family) (value : String) : Option TermError :=
  if value.toList.contains '%' then some (.addressMacro k.name value)
  else match Network.ofText? value with
    | none => some (.notAddress k.name value)
    | some n => if n.family = family then none else some (.wrongFamily family value)

/-- Whether a length is given and exceeds the width of its family. -/
def exceeds (family : Family) (length : Option String) : Bool :=
  length.any fun l => Text.number l.toList > family.width

def checkLengths (value : Option String) : Option TermError :=
  let parts := Cidr.split value
  if exceeds .v4 parts.v4 then some (.badLength .v4 (value.getD ""))
  else if exceeds .v6 parts.v6 then some (.badLength .v6 (value.getD ""))
  else none

/-- What keeps a mechanism from taking this value. -/
def checkValue (k : Kind) (value : Option String) : Option TermError :=
  let text := value.getD ""
  match k with
  | .all => if value.isSome then some .takesNoValue else none
  | .incl | .exist => if text.isEmpty then some (.missingValue k.name) else none
  | .ip4 => if text.isEmpty then some (.missingValue k.name) else checkNetwork k .v4 text
  | .ip6 => if text.isEmpty then some (.missingValue k.name) else checkNetwork k .v6 text
  | .a | .mx => checkLengths value
  | .ptr | .other _ => none

/-- Whether the value of `a` or `mx` cannot be split, because of a line end in it. -/
def isUnsplittable (k : Kind) (value : Option String) : Bool :=
  (k == .a || k == .mx) && (Cidr.split? value).isNone

/-- The domain that a mechanism looks at. -/
def target? (k : Kind) (value : Option String) : Option String :=
  match k with
  | .a | .mx => (Cidr.split value).domain
  | _ => value

theorem checkValue_all (value : Option String) : checkValue .all value = none ↔ value = none := by
  cases value <;> simp [checkValue]

end Mechanism

end SenderPolicy
