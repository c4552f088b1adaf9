/-
  SenderPolicy.Dns.Question — questions to the DNS, and everything that can come back.

  A question names a domain and a record type. It is answered by a list of texts, maybe an empty one,
  or by a failure. Failures of the network are transient and worth another try; a failure that says
  something about the domain is final. Apart from that, the transport itself may break down, which is
  no statement about the domain at all, or it may keep silent for longer than anybody waits.
-/

import SenderPolicy.Domain.Name
import SenderPolicy.Text.Quoted

namespace SenderPolicy.Dns

structure Question where
  name : String
  type : String
  deriving DecidableEq, Repr

/-- Names are compared in their normal form, types in upper case. -/
def Question.normalize (q : Question) : Question := ⟨Domain.normalize q.name, Text.upper q.type⟩

/-- The key under which answers are kept. -/
def Question.key (q : Question) : String := q.name ++ "_" ++ q.type

inductive FailureKind where
  | timeout
  | servFail
  /-- A failure about which nothing more is known. -/
  | general
  | nxDomain
  | noAnswer
  | malformed
  deriving DecidableEq, Repr

def FailureKind.isTransient : FailureKind → Bool
  | .timeout | .servFail | .general => true
  | .nxDomain | .noAnswer | .malformed => false

structure Failure where
  kind : FailureKind
  text : String
  deriving DecidableEq, Repr

namespace Failure

def isTransient (f : Failure) : Bool := f.kind.isTransient

/-- The name is unknown. -/
def noDomain (name : String) : Failure := ⟨.nxDomain, s!"The domain {name} does not exist."⟩

/-- The name is known, but has no records of this type. -/
def noRecords (q : Question) : Failure := ⟨.noAnswer, s!"The domain {q.name} does not have any {q.type} records."⟩

end Failure

/-- How a client or its transport breaks down. -/
inductive Crash where
  | broken (text : String)
  | unknownType (type : String)
  | notIterable (kind : String)
  /-- It is not known how often to ask again. -/
  | noRetryLimit
  /-- It starts over more often than there is room for. -/
  | tooManyRetries
  /-- It waited longer than a float can say. -/
  | endless
  deriving DecidableEq, Repr

def Crash.message : Crash → String
  | .broken text => text
  | .unknownType type => Text.quoted type
  | .notIterable kind => s!"'{kind}' object is not iterable"
  | .noRetryLimit => "'>' not supported between instances of 'int' and 'list'"
  | .tooManyRetries => "maximum recursion depth exceeded"
  | .endless => "int too large to convert to float"

inductive Outcome where
  | answers (texts : List String)
  | failed (f : Failure)
  | crashed (c : Crash)
  | silent
  deriving DecidableEq, Repr

/-- Whether another try may fare better. -/
def Outcome.isTransient : Outcome → Bool
  | .failed f => f.isTransient
  | _ => false

end SenderPolicy.Dns
