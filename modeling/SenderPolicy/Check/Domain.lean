/-
  SenderPolicy.Check.Domain — the policy that a domain publishes, analysed and flattened.

  If the domain has no record the check says why and is over. Otherwise the record is analysed, its
  includes are flattened one level down, and all includes that can be replaced safely are replaced.
  Several domains are checked in the order of their names, each name once.
  - `listed_sorted`: the names are in order.
-/

import SenderPolicy.Advice.Includes
import SenderPolicy.Advice.Publishing
import SenderPolicy.Check.Analysis
import SenderPolicy.Domain.PublicSuffix

namespace SenderPolicy.Check

open Advice MacroString Dns Flatten

/-- What is made of a record that was found. -/
structure Details where
  analysis : Analysis
  flattening : Flattening
  suggestions : List Suggestion
  /-- The record with its safe includes replaced, if it has any. -/
  rebuilt : Option (String × Validation)

structure DomainCheck where
  domain : String
  base : String
  result : Except Record.Unavailable Details

/-- Why there can be no pause between two domains. -/
inductive PauseError where
  /-- It was asked for without a value. -/
  | missing
  | endless
  deriving DecidableEq, Repr

inductive CheckError where
  | interrupted (i : Interruption)
  | analysis (e : AnalysisError)
  | limits (e : LimitError)
  | pause (e : PauseError)
  | suggestion (e : SuggestionError)
  /-- A suggestion for an include that is written without a colon. -/
  | noColon (mechanism : String)
  | network (e : Network.NotNetwork)
  | validation (e : Record.ReadError)
  deriving DecidableEq, Repr

structure Options where
  limits : Except LimitError Limits
  /-- The seconds to wait after each of several domains. -/
  pause : Option Number
  /-- The percentage of the mail that the record is for. -/
  share : Option Number
  /-- The context for samples of macros. -/
  context : Context

variable {m : Type → Type} [Monad m]

/-- The domains of the includes that name one without macros. -/
def includeTargets (r : Record) : List String :=
  (r.mechanisms.filter fun m => m.kind == .incl && !m.hasMacros).map fun m => m.value.getD ""

/-- What follows the first colon of a mechanism. -/
def afterColon? (mechanism : String) : Option String :=
  match mechanism.toList.dropWhile (· != ':') with
  | [] => none
  | _ :: rest => some (String.ofList rest)

/-- The includes that can be replaced safely, with their addresses. -/
def replacements : List Suggestion → Except CheckError (List (String × List String))
  | [] => .ok []
  | s :: ss =>
    if s.isSafe then
      match afterColon? s.mechanism.text with
      | none => .error (.noColon s.mechanism.text)
      | some name => (replacements ss).map ((name, s.ips) :: ·)
    else replacements ss

/-- The record with its safe includes replaced. -/
def rebuilt [Packages] (r : Record) (ss : List Suggestion) : Except CheckError (Option (String × Validation)) :=
  match replacements ss with
  | .error e => .error e
  | .ok [] => .ok none
  | .ok names =>
    match rebuild r (.ofNames names) with
    | .error e => .error (.network e)
    | .ok text =>
      match validate text with
      | .error e => .error (.validation e)
      | .ok v => .ok (some (text, v))

def detailsOf [Packages] (o : Options) (ask : Ask m) (record : String) : m (Except CheckError Details) := do
  match analyze o.context record with
  | .error e => return .error (.analysis e)
  | .ok a =>
    match o.limits with
    | .error e => return .error (.limits e)
    | .ok limits =>
      match ← flattenWithin limits ask 1 (includeTargets a.record) with
      | .error e => return .error (.limits e)
      | .ok flattening =>
        match suggestions a.record flattening o.share with
        | .error e => return .error (.suggestion e)
        | .ok ss => return (rebuilt a.record ss).map fun r => ⟨a, flattening, ss, r⟩

def checkDomain [Packages] (o : Options) (ask : Ask m) (name : String) : m (Except CheckError DomainCheck) := do
  let domain := Domain.key name
  let check := DomainCheck.mk domain (Domain.base domain)
  match ← (Record.published ask domain).run with
  | .error i => return .error (.interrupted i)
  | .ok (.error u) => return .ok (check (.error u))
  | .ok (.ok record) =>
    match ← detailsOf o ask record with
    | .error e => return .error e
    | .ok d => return .ok (check (.ok d))

/-- The domain in a line of a list: its first column. -/
def nameOf (line : String) : String :=
  let cs := Text.trimEnd (fun c => c == '.' || c == '\r' || c == '\n') line.toList
  Domain.normalize (String.ofList ((Text.trim Text.isBlank cs).takeWhile (· != ',')))

/-- The domains in the lines of a list, in order and without repetitions; names without a dot are none. -/
def listed (lines : List String) : List String :=
  (Sequence.sort textLe (lines.map nameOf).eraseDups).filter fun name => name.toList.contains '.'

/-- Whether there can be a pause of so many seconds: its nanoseconds have to fit 64 bits with a sign. -/
def checkPause : Option Number → Except PauseError Unit
  | none => .error .missing
  | some (.int i) => if i * 1000000000 < 9223372036854775808 then .ok () else .error .endless
  | some (.real x) => if x > 0 && x * 1e9 ≥ 9223372036854775808 then .error .endless else .ok ()

def checkAll [Packages] (o : Options) (ask : Ask m) : List String → m (Except CheckError (List DomainCheck))
  | [] => return .ok []
  | name :: names => do
    match ← checkDomain o ask name with
    | .error e => return .error e
    | .ok c =>
      match checkPause o.pause with
      | .error e => return .error (.pause e)
      | .ok () =>
        match ← checkAll o ask names with
        | .error e => return .error e
        | .ok cs => return .ok (c :: cs)

def checkDomains [Packages] (o : Options) (ask : Ask m) (lines : List String) : m (Except CheckError (List DomainCheck)) :=
  checkAll o ask (listed lines)

theorem listed_sorted (lines : List String) : (listed lines).Pairwise (textLe · ·) :=
  (Sequence.sort_pairwise textLe_trans textLe_total _).filter _

end SenderPolicy.Check
