/-
  SenderPolicy.Record.Published — the record that a domain publishes.

  A domain publishes its record among its TXT records. It is unavailable if the question fails, or if
  not exactly one of the answers is a record.
-/

import SenderPolicy.Dns.Lookup
import SenderPolicy.Record.Tokens

namespace SenderPolicy.Record

inductive Unavailable where
  | dns (f : Dns.Failure)
  | selection (e : SelectionError)
  deriving DecidableEq, Repr

def Unavailable.message : Unavailable → String
  | .dns f => f.text
  | .selection e => e.message

def ofAnswers (domain : String) : Except Dns.Failure (List String) → Except Unavailable String
  | .error f => .error (.dns f)
  | .ok texts =>
    match select texts domain with
    | .error e => .error (.selection e)
    | .ok record => .ok record

variable {m : Type → Type} [Monad m]

def published (ask : Dns.Ask m) (domain : String) : Dns.Lookup m (Except Unavailable String) := do
  return ofAnswers domain (← Dns.texts ask domain "TXT")

end SenderPolicy.Record
