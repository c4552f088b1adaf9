/-
  SenderPolicy.Record.Budget — what a record costs in DNS lookups, against what the standard allows.

  One check may cost ten lookups. A record complies if it stays well below that and has no problem; the
  risk grades the cost alone. The breakdown lists the terms that cost anything, mechanisms first.
  - `compliance_eq_fail`: a record fails exactly when it costs too much or has a problem.
-/

import SenderPolicy.Record.Basic
import SenderPolicy.Risk
import SenderPolicy.Sequence.Total

namespace SenderPolicy

inductive Compliance where
  | compliant
  | warning
  | fail
  deriving DecidableEq, Repr

def Compliance.name : Compliance → String
  | .compliant => "compliant"
  | .warning => "warning"
  | .fail => "fail"

namespace Budget

open Sequence (total)

def compliance (total : Int) (hasProblems : Bool) : Compliance :=
  if total > limit || hasProblems then .fail
  else if total ≥ warning then .warning
  else .compliant

def risk (total : Int) : Risk :=
  if total > limit then .critical
  else if total ≥ warning then .high
  else if total ≥ limit / 2 then .medium
  else .low

/-- A term that costs lookups. -/
structure Entry where
  term : String
  lookups : Int
  isModifier : Bool
  deriving DecidableEq, Repr

structure Breakdown where
  includes : Int
  a : Int
  mx : Int
  ptr : Int
  existence : Int
  redirect : Int
  total : Int
  compliance : Compliance
  entries : List Entry
  deriving DecidableEq, Repr

/-- The terms of a record that cost lookups. -/
def entries (r : Record) : List Entry :=
  (r.mechanisms.filter (·.lookups ≠ 0)).map (fun m => ⟨m.text, m.lookups, false⟩)
  ++ (r.modifiers.filter (·.lookups ≠ 0)).map (fun m => ⟨m.text, m.lookups, true⟩)

/-- The lookups of the terms of one kind. -/
def spentOn (r : Record) (kind : String) : Int :=
  total (·.lookups) (r.mechanisms.filter (·.kind.name == kind))
  + total (·.lookups) (r.modifiers.filter (·.kind.name == kind))

def breakdown (r : Record) : Breakdown :=
  let sum := total (·.lookups) (entries r)
  { includes := spentOn r "include"
    a := spentOn r "a"
    mx := spentOn r "mx"
    ptr := spentOn r "ptr"
    existence := spentOn r "exists"
    redirect := spentOn r "redirect"
    total := sum
    compliance := compliance sum (!r.problems.isEmpty)
    entries := entries r }

theorem compliance_eq_fail (total : Int) (hasProblems : Bool) :
    compliance total hasProblems = .fail ↔ total > limit ∨ hasProblems = true := by
  unfold compliance
  split
  · rename_i h
    simpa using h
  · rename_i h
    have hn : ¬(total > limit ∨ hasProblems = true) := by simpa using h
    simp only [hn, iff_false]
    split <;> simp

end Budget

end SenderPolicy
