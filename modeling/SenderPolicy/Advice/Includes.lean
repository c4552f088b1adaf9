/-
  SenderPolicy.Advice.Includes — replacing includes by the addresses they resolve to.

  A record is rebuilt with some of its includes spelled out: each becomes the networks it stands for, with
  the qualifier of the include and in its place, and everything else stays. A suggestion says what
  replacing one include would save; it is safe only if the include resolved without an error and
  nothing in it is left that no address stands for.
  - `rebuild_nil`: without replacements the record keeps all its terms.
-/

import SenderPolicy.Address.Lists
import SenderPolicy.Advice.Impact
import SenderPolicy.Flatten.Result
import SenderPolicy.Record.Basic

namespace SenderPolicy.Advice

/-- The addresses that domains stand for, by the key of the domain. -/
structure Resolved where
  domains : List (String × List String)

/-- Of two names with one key the later one counts. -/
def Resolved.ofNames (names : List (String × List String)) : Resolved :=
  ⟨(names.map fun (name, ips) => (Domain.key name, ips)).reverse⟩

def Resolved.find? (r : Resolved) (domain : String) : Option (List String) :=
  (r.domains.find? (·.1 == domain)).map (·.2)

/-- The key of the domain that an include names. -/
def target? (m : Mechanism) : Option String :=
  match m.kind, m.value with
  | .incl, some v => if v = "" then none else some (Domain.key v)
  | _, _ => none

/-- The term for one network. -/
def networkTerm (qualifier : Qualifier) (ip : String) : Except Network.NotNetwork String :=
  (Network.read ip).map fun n => s!"{qualifier.mark}ip{n.family.version}:{ip}"

def networkTerms (qualifier : Qualifier) : List String → Except Network.NotNetwork (List String)
  | [] => .ok []
  | ip :: ips => do
    let t ← networkTerm qualifier ip
    let ts ← networkTerms qualifier ips
    .ok (t :: ts)

/-- The terms that stand in the place of a mechanism. -/
def termsFor (resolved : Resolved) (m : Mechanism) : Except Network.NotNetwork (List String) :=
  match (target? m).bind resolved.find? with
  | none => .ok [m.text]
  | some ips => do networkTerms m.qualifier (← Network.sortTexts ips)

def allTerms (resolved : Resolved) : List Mechanism → Except Network.NotNetwork (List String)
  | [] => .ok []
  | m :: ms => do
    let ts ← termsFor resolved m
    let rest ← allTerms resolved ms
    .ok (ts ++ rest)

/-- The record with each include that is resolved replaced by its addresses. -/
def rebuild (r : Record) (resolved : Resolved) : Except Network.NotNetwork String :=
  (allTerms resolved r.mechanisms).map fun terms =>
    " ".intercalate (Record.versionTag :: terms ++ r.modifiers.map (·.text))

structure Suggestion where
  mechanism : Mechanism
  currentLookups : Int
  flattenedLookups : Int
  ips : List String
  isSafe : Bool
  impact : Option Impact
  /-- The record with this include replaced. -/
  implementation : String
  deriving DecidableEq, Repr

/-- The lookups that are saved: all that the include causes, itself included. -/
def Suggestion.savings (s : Suggestion) : Int := s.currentLookups

inductive SuggestionError where
  | impact (e : NoPercentage)
  | network (e : Network.NotNetwork)
  deriving DecidableEq, Repr

def SuggestionError.message : SuggestionError → String
  | .impact e => e.message
  | .network e => e.message

/-- The suggestion for one mechanism, if it is an include that is worth replacing. -/
def suggest (r : Record) (f : Flatten.Flattening) (impact : Option Impact) (m : Mechanism) :
    Except SuggestionError (Option Suggestion) :=
  match (target? m).bind fun domain => (f.find? domain).map fun result => (domain, result) with
  | none => .ok none
  | some (domain, result) =>
    let current := m.lookups + result.lookups
    let flattened := result.unflattened.length
    if result.ips.isEmpty || flattened ≥ current then .ok none
    else match rebuild r (.ofNames [(domain, result.ips)]) with
      | .error e => .error (.network e)
      | .ok implementation =>
        .ok (some ⟨m, current, flattened, result.ips, result.errors.isEmpty && result.unflattened.isEmpty, impact, implementation⟩)

def suggestAll (r : Record) (f : Flatten.Flattening) (impact : Option Impact) :
    List Mechanism → Except SuggestionError (List Suggestion)
  | [] => .ok []
  | m :: ms => do
    let s ← suggest r f impact m
    let rest ← suggestAll r f impact ms
    .ok (s.toList ++ rest)

def gradeShare (share : Option Number) : Except SuggestionError (Option Impact) :=
  match share with
  | none => .ok none
  | some p =>
    match grade p with
    | .ok i => .ok (some i)
    | .error e => .error (.impact e)

/-- What replacing includes would save, the largest savings first; `share` is the percentage of the
mail that the record is for. -/
def suggestions (r : Record) (f : Flatten.Flattening) (share : Option Number) : Except SuggestionError (List Suggestion) := do
  let impact ← gradeShare share
  let all ← suggestAll r f impact r.mechanisms
  .ok (Sequence.sort (fun a b => a.savings ≥ b.savings) all)

theorem rebuild_nil (r : Record) :
    (rebuild r (.ofNames [])).toOption
      = some (" ".intercalate (Record.versionTag :: r.mechanisms.map (·.text) ++ r.modifiers.map (·.text))) := by
  have h : ∀ ms : List Mechanism, allTerms (.ofNames []) ms = .ok (ms.map (·.text)) := by
    intro ms
    induction ms with
    | nil => rfl
    | cons m ms ih =>
      have ht : termsFor (.ofNames []) m = .ok [m.text] := by
        unfold termsFor
        cases target? m <;> rfl
      simp [allTerms, ht, ih, bind, Except.bind]
  simp [rebuild, h, Except.map, Except.toOption]

end SenderPolicy.Advice
