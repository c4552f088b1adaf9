/-
  SenderPolicy.Dns.Stub — the replies of a stub resolver.

  TXT records are lists of byte strings, which together spell one text; records of other types come in
  their written form, from which dots at the end are dropped. What a resolver reports instead of records
  is a failure with a text of its own, or with the usual one.
  - `textOf_strings`: strings that spell texts are read as these texts, one after the other.
-/

import SenderPolicy.Decimal.Text
import SenderPolicy.Dns.Question
import SenderPolicy.Text.Blank

namespace SenderPolicy.Dns.Stub

inductive Problem where
  | timedOut
  /-- Timed out after so many seconds. -/
  | timedOutAfter (seconds : Float)
  | noNameserver
  | badMessage
  | badSyntax
  | nameTooLong
  | other
  deriving Repr

def Problem.kind : Problem → FailureKind
  | .timedOut | .timedOutAfter _ => .timeout
  | .noNameserver => .servFail
  | .badMessage | .badSyntax | .nameTooLong => .malformed
  | .other => .general

/-- The seconds of a timeout are rounded to one decimal place, but written with three. -/
def Problem.usualText : Problem → String
  | .timedOut => "The DNS operation timed out."
  | .timedOutAfter seconds =>
    let shown := Decimal.fixed (Decimal.roundPlaces seconds 1) 3
    s!"The DNS operation timed out after {shown} seconds"
  | .noNameserver => "All nameservers failed to answer the query."
  | .badMessage => "DNS message is malformed."
  | .badSyntax => "Text input is malformed."
  | .nameTooLong => "A DNS name is > 255 octets long."
  | .other => ""

inductive Reply where
  /-- TXT records, each with its byte strings. -/
  | strings (records : List (List ByteArray))
  | written (records : List String)
  | noDomain
  | noRecords
  | problem (p : Problem) (text : Option String)
  | crash (c : Crash)

/-- The bytes one after the other. -/
def concat (bytes : List ByteArray) : ByteArray := bytes.foldr (· ++ ·) ByteArray.empty

/-- The text that byte strings spell together. -/
def textOf (strings : List ByteArray) : String := (String.fromUTF8? (concat strings)).getD "Undecodable characters"

def interpret (q : Question) : Reply → Outcome
  | .strings records => .answers ((records.filter (!·.isEmpty)).map textOf)
  | .written records => .answers (records.map Text.dropDots)
  | .noDomain => .failed (.noDomain q.name)
  | .noRecords => .failed (.noRecords q)
  | .problem p text => .failed ⟨p.kind, text.getD p.usualText⟩
  | .crash c => .crashed c

theorem concat_strings (texts : List String) :
    concat (texts.map String.toByteArray) = (String.join texts).toByteArray := by
  induction texts with
  | nil => rfl
  | cons t ts ih =>
    have : concat ((t :: ts).map String.toByteArray) = t.toByteArray ++ concat (ts.map String.toByteArray) := rfl
    rw [this, ih, String.join_cons, String.toByteArray_append]

theorem textOf_strings (texts : List String) : textOf (texts.map String.toByteArray) = String.join texts := by
  rw [textOf, concat_strings, String.fromUTF8?, dif_pos (String.join texts).isValidUTF8]
  rfl

end SenderPolicy.Dns.Stub
