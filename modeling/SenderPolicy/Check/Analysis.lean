/-
  SenderPolicy.Check.Analysis — everything that can be said about a record without the DNS.
  - `analyze_record`: the analysis is one of the record that was read.
-/

import SenderPolicy.Advice.Findings
import SenderPolicy.Advice.Macros
import SenderPolicy.Advice.Outlook
import SenderPolicy.Record.Reader

namespace SenderPolicy.Check

open Advice MacroString

structure Analysis where
  record : Record
  breakdown : Budget.Breakdown
  outlook : Outlook
  findings : List Finding
  macros : Summary

inductive AnalysisError where
  | read (e : Record.ReadError)
  | lookups (e : TooManyLookups)
  | missingValue
  | expansion (e : ExpansionError)
  deriving DecidableEq, Repr

/-- Analyses a record that has been read; macros are expanded in the given context. -/
def analyzeRecord (ctx : Context) (r : Record) : Except AnalysisError Analysis :=
  match outlook r, findings r, assessMacros ctx r with
  | .error e, _, _ => .error (.lookups e)
  | .ok _, .error _, _ => .error .missingValue
  | .ok _, .ok _, .error e => .error (.expansion e)
  | .ok o, .ok fs, .ok macros => .ok ⟨r, Budget.breakdown r, o, fs, macros⟩

def analyze [Packages] (ctx : Context) (text : String) : Except AnalysisError Analysis :=
  match Record.read text with
  | .error e => .error (.read e)
  | .ok r => analyzeRecord ctx r

theorem analyzeRecord_record {ctx : Context} {r : Record} {a : Analysis} (h : analyzeRecord ctx r = .ok a) :
    a.record = r := by
  unfold analyzeRecord at h
  split at h <;> cases h
  rfl

theorem analyze_record [Packages] {ctx : Context} {text : String} {a : Analysis} (h : analyze ctx text = .ok a) :
    (Record.read text).toOption = some a.record := by
  unfold analyze at h
  generalize Record.read text = x at h ⊢
  cases x with
  | error => cases h
  | ok r => rw [analyzeRecord_record h]; rfl

end SenderPolicy.Check
