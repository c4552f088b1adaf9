/-
  SenderPolicy.Record.Basic — a record taken apart, and what is said about it.

  A record holds its mechanisms and its modifiers in the order they were written, every problem that was
  found, and warnings about what works but should not be relied on. Problems and warnings are kept as
  causes; those of a record that was edited elsewhere come as texts, and are kept as `noted`.
-/

import SenderPolicy.MacroString.Reading
import SenderPolicy.Term.Value

namespace SenderPolicy

/-- The lookups that the standard allows for one check, and from where on a record comes close. -/
def Budget.limit : Int := 10

def Budget.warning : Int := 8

/-- The version that a record begins with. -/
def Record.versionTag : String := "v=spf1"

inductive Problem where
  | emptyRecord
  | badVersion (version : String)
  | rejected (token : String) (reason : TermError)
  | macroFault (fault : MacroString.Fault)
  | noted (text : String)
  deriving DecidableEq, Repr

def Problem.message : Problem → String
  | .emptyRecord => "Empty SPF record"
  | .badVersion version => s!"SPF record must start with \"{Record.versionTag}\", not \"{version}\""
  | .rejected token reason => s!"{token}: {reason.message}"
  | .macroFault f => f.message
  | .noted text => text

inductive Warning where
  | pointer
  | publicSuffix (token target : String)
  | unknownModifier (name : String)
  | unreachable (tokens : List String)
  | redirectIgnored
  | noPolicy
  | overLimit (lookups : Int)
  | nearLimit (lookups : Int)
  | noted (text : String)
  deriving DecidableEq, Repr

def Warning.message : Warning → String
  | .pointer => "The ptr mechanism should not be used - (RFC 7208 § 5.5)"
  | .publicSuffix token target => s!"{token}: {target} is a public suffix, not a domain"
  | .unknownModifier name => s!"Unknown modifier {name} is ignored"
  | .unreachable tokens =>
    "Mechanisms after the all mechanism are unreachable and are ignored: " ++ " ".intercalate tokens
  | .redirectIgnored => "The redirect modifier is ignored because the record contains an all mechanism (RFC 7208 § 6.1)"
  | .noPolicy =>
    "The SPF record does not contain an \"all\" mechanism or a redirect modifier. This may allow unauthorized senders."
  | .overLimit n =>
    s!"Parsing the SPF record requires {n}/{Budget.limit} maximum DNS lookups - (RFC 7208 § 4.6.4)"
  | .nearLimit n => s!"The SPF record is close to the {Budget.limit} DNS lookup limit ({n}). Consider flattening."
  | .noted text => text

structure Record where
  version : String
  mechanisms : List Mechanism
  modifiers : List Modifier
  totalLookups : Int
  raw : String
  problems : List Problem
  warnings : List Warning
  /-- Whether it begins with the version tag; it may have problems all the same. -/
  isValid : Bool
  deriving DecidableEq, Repr

/-- Whether the record begins as it should and has no problem. -/
def Record.isSound (r : Record) : Bool := r.isValid && r.problems.isEmpty

end SenderPolicy
