/-
  SenderPolicy.Advice.Macros — what the macros of a whole record cost and give away.

  Every term with macros is assessed on its own: which of its macros can be abused, and how many lookups
  they add to the check of one message, counted in halves. The record is as risky as its riskiest term,
  and critical if it can be abused gravely more than once.
  - `risk_le_summary`: no term is riskier than the record.
-/

import SenderPolicy.MacroString.Expansion
import SenderPolicy.Record.Reader
import SenderPolicy.Sequence.Total

namespace SenderPolicy.Advice

open MacroString
open Sequence (tally)

inductive Abuse where
  | amplification
  | disclosure
  | enumeration
  deriving DecidableEq, Repr

namespace Abuse

def name : Abuse → String
  | .amplification => "dns_amplification"
  | .disclosure => "information_disclosure"
  | .enumeration => "enumeration"

def isGrave : Abuse → Bool
  | .amplification => true
  | _ => false

def description : Abuse → String
  | .amplification => "The PTR macro in a DNS lookup mechanism multiplies the queries made for each message"
  | .disclosure => "The macro exposes client details in DNS queries"
  | .enumeration => "The sender macro in an exists mechanism allows probing for valid email addresses"

end Abuse

/-- Whether a term of this kind looks up the name that its macros spell. -/
def looksUp (kind : String) : Bool := kind == "exists" || kind == "a" || kind == "mx"

/-- How a macro in a term of the given kind can be abused. -/
def abusesOf (kind : String) (e : Expression) : List Abuse :=
  (if e.letter = .validated && looksUp kind then [.amplification] else [])
  ++ (if e.letter = .clientIp || e.letter = .timestamp then [.disclosure] else [])
  ++ (if e.letter = .sender && kind = "exists" then [.enumeration] else [])

/-- The lookups that a macro adds, in halves. -/
def halfLookups (kind : String) (e : Expression) : Nat :=
  (if e.letter = .validated then if looksUp kind then 4 else 2 else 0)
  + if e.letter = .ip && e.transformers.reversed then 1 else 0

structure TermReport where
  text : String
  isModifier : Bool
  kind : String
  expressions : List Expression
  sample : Option String
  faults : List Fault
  deriving DecidableEq, Repr

namespace TermReport

def abuses (t : TermReport) : List (Abuse × Expression) :=
  t.expressions.flatMap fun e => (abusesOf t.kind e).map (·, e)

def graveAbuses (t : TermReport) : Nat := (t.abuses.filter (·.1.isGrave)).length

def risk (t : TermReport) : Risk :=
  if t.graveAbuses > 0 then .high else Risk.highest (t.expressions.map (·.risk))

def halves (t : TermReport) : Nat := tally (halfLookups t.kind) t.expressions

/-- The kind, marked as one of a modifier. -/
def kindName (t : TermReport) : String := if t.isModifier then "modifier:" ++ t.kind else t.kind

end TermReport

inductive Overhead where
  | minimal
  | moderate
  | significant
  | severe
  deriving DecidableEq, Repr

def Overhead.name : Overhead → String
  | .minimal => "minimal"
  | .moderate => "moderate"
  | .significant => "significant"
  | .severe => "severe"

/-- The cost of so many macros, which take so many half lookups. -/
def overheadOf (halves count : Nat) : Overhead :=
  if halves > 10 || count > 8 then .severe
  else if halves > 6 || count > 5 then .significant
  else if halves > 2 || count > 2 then .moderate
  else .minimal

/-- A score of at most a hundred. -/
def complexityOf (es : List Expression) : Nat :=
  min 100 (8 * es.length + 3 * tally (·.transformers.count) es + 2 * (es.map (·.letter)).eraseDups.length
    + 10 * (es.filter (·.risk == .high)).length)

inductive Recommendation where
  | replaceRisky
  | replacePointers
  | audit
  | fewer
  | simplify
  deriving DecidableEq, Repr

def Recommendation.message : Recommendation → String
  | .replaceRisky => "Replace high risk macros with static mechanisms where possible"
  | .replacePointers => "Replace PTR based macros with ip4/ip6 mechanisms"
  | .audit => "Audit the record for information leaked by %\x7bc\x7d and %\x7bt\x7d macros"
  | .fewer => "Reduce the number of macros to lower processing cost"
  | .simplify => "Simplify macros to make the record easier to maintain"

structure Summary where
  terms : List TermReport
  deriving DecidableEq, Repr

namespace Summary

def expressions (s : Summary) : List Expression := s.terms.flatMap (·.expressions)

def risk (s : Summary) : Risk :=
  if tally (·.graveAbuses) s.terms > 1 then .critical else Risk.highest (s.terms.map (·.risk))

def complexity (s : Summary) : Nat := complexityOf s.expressions

def overhead (s : Summary) : Overhead := overheadOf (tally (·.halves) s.terms) s.expressions.length

def uses (s : Summary) (ls : List Letter) : Bool := s.expressions.any fun e => ls.contains e.letter

def recommendations (s : Summary) : List Recommendation :=
  (if s.risk = .high || s.risk = .critical then [.replaceRisky] else [])
  ++ (if s.uses [.validated] then [.replacePointers] else [])
  ++ (if s.uses [.clientIp, .timestamp] then [.audit] else [])
  ++ (if s.overhead = .significant || s.overhead = .severe then [.fewer] else [])
  ++ (if s.complexity > 60 then [.simplify] else [])

end Summary

/-- The terms of a record with their values, mechanisms first. -/
def valuedTerms (r : Record) : List (Bool × String × String × String) :=
  (r.mechanisms.filterMap fun m => m.value.map fun v => (false, m.kind.name, m.text, v))
  ++ r.modifiers.map fun m => (true, m.kind.name, m.text, m.value)

/-- An expansion, unless the context lacks what the macros need. -/
def sampleOf (ctx : Context) (value : String) : Except ExpansionError (Option String) :=
  match expandText ctx value with
  | .ok s => .ok (some s)
  | .error e => if e.isExpected then .ok none else .error e

/-- The report on a term, if it has macros. -/
def termReport (ctx : Context) (isModifier : Bool) (kind text value : String) : Except ExpansionError (Option TermReport) :=
  if !value.toList.contains '%' then .ok none
  else match read value with
    | .error e => .error (.numeral e)
    | .ok r =>
      if r.expressions.isEmpty then .ok none
      else (sampleOf ctx value).map fun sample => some ⟨text, isModifier, kind, r.expressions, sample, r.faults⟩

def termReports (ctx : Context) : List (Bool × String × String × String) → Except ExpansionError (List TermReport)
  | [] => .ok []
  | (isModifier, kind, text, value) :: rest => do
    let t ← termReport ctx isModifier kind text value
    let ts ← termReports ctx rest
    .ok (t.toList ++ ts)

/-- Assesses the macros of a record, with samples of what they expand to in the given context. -/
def assessMacros (ctx : Context) (r : Record) : Except ExpansionError Summary :=
  (termReports ctx (valuedTerms r)).map fun terms => ⟨terms⟩

theorem rank_le_highest {risks : List Risk} {x : Risk} (h : x ∈ risks) : x.rank ≤ (Risk.highest risks).rank := by
  have key : ∀ (rs : List Risk) (a : Risk), a.rank ≤ (rs.foldl Risk.max a).rank
      ∧ ∀ y ∈ rs, y.rank ≤ (rs.foldl Risk.max a).rank := by
    intro rs
    induction rs with
    | nil => intro a; exact ⟨Nat.le_refl _, by simp⟩
    | cons b bs ih =>
      intro a
      obtain ⟨h1, h2⟩ := ih (a.max b)
      have hm := Risk.le_max a b
      refine ⟨Nat.le_trans hm.1 h1, fun y hy => ?_⟩
      rcases List.mem_cons.1 hy with rfl | hy
      · exact Nat.le_trans hm.2 h1
      · exact h2 y hy
  exact (key risks .low).2 x h

theorem risk_le_summary {s : Summary} {t : TermReport} (h : t ∈ s.terms) : t.risk.rank ≤ s.risk.rank := by
  unfold Summary.risk
  split
  · cases t.risk <;> decide
  · exact rank_le_highest (List.mem_map_of_mem h)

end SenderPolicy.Advice
