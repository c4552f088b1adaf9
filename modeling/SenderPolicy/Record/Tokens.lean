/-
  SenderPolicy.Record.Tokens — the tokens of a record, and which TXT record of a domain is the one.

  The first token is the version; the others are its terms. Of the TXT records of a domain exactly one
  has to begin with the version tag, on its own or with a space behind it, in any case.
  - `select_ok_iff`: a record is selected exactly when it is the only candidate.
-/

import SenderPolicy.Record.Basic
import SenderPolicy.Record.Unquote
import SenderPolicy.Term.Token

namespace SenderPolicy.Record

/-- The version and the terms of a record. -/
def tokens (record : String) : List String := Text.words (unquote record)

/-- The terms of a record, unchecked; tokens that have the shape of no term are skipped. -/
def tokenize (record : String) : List Term := ((tokens record).drop 1).filterMap Token.term?

def isVersion (token : String) : Bool := Text.lower token == versionTag

/-- Whether an unquoted TXT record is meant as a policy. -/
def isCandidate (text : String) : Bool :=
  let cs := Text.lowerChars text.toList
  cs == versionTag.toList || (versionTag ++ " ").toList.isPrefixOf cs

inductive SelectionError where
  | none (domain : String)
  | several (domain : String)
  deriving DecidableEq, Repr

def SelectionError.message : SelectionError → String
  | .none domain => s!"An SPF record does not exist for {domain}."
  | .several domain => s!"{domain} has multiple SPF TXT records"

def candidates (texts : List String) : List String := (texts.map unquote).filter isCandidate

/-- The policy among the TXT records of a domain. -/
def select (texts : List String) (domain : String) : Except SelectionError String :=
  match candidates texts with
  | [] => .error (.none domain)
  | [record] => .ok record
  | _ => .error (.several domain)

theorem select_ok_iff {texts : List String} {domain record : String} :
    select texts domain = .ok record ↔ candidates texts = [record] := by
  unfold select
  split <;> simp_all

example : (select ["v=spf1 -all", "other"] "a.example").toOption = some "v=spf1 -all" := by decide

end SenderPolicy.Record
