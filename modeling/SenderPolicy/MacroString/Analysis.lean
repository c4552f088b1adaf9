/-
  SenderPolicy.MacroString.Analysis — what the macros of one value cost and give away.

  Every macro scores ten points and more for each transformer and for a letter that is sensitive. The
  concerns about letters are listed once each, in the order the letters come up.
-/

import SenderPolicy.MacroString.Reading
import SenderPolicy.Sequence.Total

namespace SenderPolicy.MacroString

namespace Letter

def isSensitive (l : Letter) : Bool := [sender, validated, clientIp, timestamp].contains l

/-- Fields that can be long, where cutting labels at unusual places is costly to follow. -/
def isLongField (l : Letter) : Bool := [sender, localPart, senderDomain, helo, validated].contains l

/-- What there is to say against using a letter at all. -/
def concern? : Letter → Option String
  | .sender => some "Sender macro (%\x7bs\x7d) is taken from the envelope sender and can be spoofed by attackers"
  | .validated => some "Validated domain macro (%\x7bp\x7d) adds a PTR lookup and relies on forward-confirmed reverse DNS, which is weak"
  | .clientIp => some "Client IP macro (%\x7bc\x7d) discloses the connecting client's address"
  | .timestamp => some "Timestamp macro (%\x7bt\x7d) discloses message timing details"
  | .helo => some "HELO macro (%\x7bh\x7d) is chosen by the connecting client"
  | _ => none

end Letter

namespace Transformers

def hasDigits (t : Transformers) : Bool := t.digits.isSome

def hasDelimiters (t : Transformers) : Bool := t.delimiters != ['.']

/-- How many of the three transformers are used. -/
def count (t : Transformers) : Nat := t.hasDigits.toNat + t.reversed.toNat + t.hasDelimiters.toNat

end Transformers

def Expression.complexity (e : Expression) : Nat :=
  10 + 5 * e.transformers.count + if e.letter.isSensitive then 15 else 0

inductive Warning where
  | many (count : Nat)
  | reverseLookup
  | truncation (raw : String)
  deriving DecidableEq, Repr

def Warning.message : Warning → String
  | .many n => s!"{n} macros in single mechanism may impact DNS resolution performance"
  | .reverseLookup => "PTR macros (%\x7bp\x7d) cause additional DNS lookups per email"
  | .truncation raw => s!"{raw} combines label truncation with custom delimiters on a long field"

inductive Advice where
  | dropReverseLookup
  | mergeSenders
  | fixSyntax
  deriving DecidableEq, Repr

def Advice.message : Advice → String
  | .dropReverseLookup => "Consider replacing %\x7bp\x7d macros with static IP ranges for better performance"
  | .mergeSenders => "Multiple %\x7bs\x7d macros may be redundant - consider consolidation"
  | .fixSyntax => "Fix malformed macro syntax to ensure proper SPF evaluation"

def maxPerValue : Nat := 5

structure Analysis where
  expressions : List Expression
  complexity : Nat
  concerns : List String
  warnings : List Warning
  advice : List Advice
  faults : List Fault
  deriving DecidableEq, Repr

def warningsFor (es : List Expression) : List Warning :=
  (if es.length > maxPerValue then [.many es.length] else [])
  ++ (if es.any (·.letter == .validated) then [.reverseLookup] else [])
  ++ (es.filter fun e => e.letter.isLongField && e.transformers.hasDigits && e.transformers.hasDelimiters).map
      (.truncation ·.raw)

def adviceFor (r : Reading) : List Advice :=
  (if r.expressions.any (·.letter == .validated) then [.dropReverseLookup] else [])
  ++ (if (r.expressions.filter (·.letter == .sender)).length > 2 then [.mergeSenders] else [])
  ++ (if r.faults.isEmpty then [] else [.fixSyntax])

def Reading.analysis (r : Reading) : Analysis :=
  { expressions := r.expressions
    complexity := Sequence.tally (·.complexity) r.expressions
    concerns := (r.expressions.filterMap (·.letter.concern?)).eraseDups
    warnings := warningsFor r.expressions
    advice := adviceFor r
    faults := r.faults }

def analyze (text : String) : Except Text.NumeralError Analysis := (read text).map (·.analysis)

end SenderPolicy.MacroString
