/-
  SenderPolicy.Record.Reader — records read from text.

  Every term is read on its own: it yields a mechanism or a modifier, or the reason why it was rejected,
  and then the next term is read. Only two things carry over from one term to the next: that there has
  been a redirect, and that there has been an explanation. What a term is rejected for is looked for in
  a fixed order, the syntax before the value and the value before the macros in it.
  Two things end the reading of the whole record, as `ReadError`: a keyword that is spelled with
  characters that only fold to its letters, and digits in a macro that spell no number.
  - `length_readTerms`: each term yields exactly one outcome.
-/

import SenderPolicy.MacroString.Analysis
import SenderPolicy.Packages
import SenderPolicy.Record.Tokens
import SenderPolicy.Sequence.Total

namespace SenderPolicy.Record

inductive ReadError where
  /-- No number of lookups is known for a mechanism of this name. -/
  | unknownCost (name : String)
  | numeral (cause : Text.NumeralError)
  deriving DecidableEq, Repr

/-- What a term yields. -/
inductive Outcome where
  | mechanism (m : Mechanism) (faults : List MacroString.Fault) (warnings : List Warning)
  | modifier (m : Modifier) (faults : List MacroString.Fault) (warnings : List Warning)
  | rejected (token : String) (reason : TermError)
  deriving DecidableEq, Repr

namespace Outcome

def mechanism? : Outcome → Option Mechanism
  | .mechanism m _ _ => some m
  | _ => none

def modifier? : Outcome → Option Modifier
  | .modifier m _ _ => some m
  | _ => none

def problems : Outcome → List Problem
  | .mechanism _ faults _ => faults.map .macroFault
  | .modifier _ faults _ => faults.map .macroFault
  | .rejected token reason => [.rejected token reason]

def warnings : Outcome → List Warning
  | .mechanism _ _ ws => ws
  | .modifier _ _ ws => ws
  | .rejected _ _ => []

end Outcome

/-! ## Mechanisms -/

/-- Whether the text holds the beginning of an expression. -/
def opensExpression : List Char → Bool
  | '%' :: cs => cs.head? == some '\x7b' || opensExpression cs
  | _ :: cs => opensExpression cs
  | [] => false

/-- The macros of a text; one without a `%` has none. -/
def macrosOf (text : String) : Except Text.NumeralError MacroString.Analysis :=
  if text.toList.contains '%' then MacroString.analyze text else .ok ⟨[], 0, [], [], [], []⟩

def looksAtDomain (k : Mechanism.Kind) : Bool := k == .incl || k == .a || k == .mx || k == .exist

def mechanismWarnings [SuffixRules] (token : String) (k : Mechanism.Kind) (target : String) : List Warning :=
  (if k = .ptr then [.pointer] else [])
  ++ if looksAtDomain k && target != "" && !target.toList.contains '%' && Domain.isPublicSuffix target then
      [.publicSuffix token target] else []

def readMechanism [Packages] (token : String) (w : Token.Written) : Except ReadError Outcome :=
  let t := w.term
  let kind := Mechanism.Kind.ofName t.name
  match Grammar.check token, Mechanism.checkValue kind t.value with
  | some fault, _ => .ok (.rejected token (.syntaxFault fault))
  | none, some reason => .ok (.rejected token reason)
  | none, none =>
    let target := (Mechanism.target? kind t.value).getD ""
    match macrosOf target, kind.lookups? with
    | .error e, _ => .error (.numeral e)
    | .ok _, none => .error (.unknownCost t.name)
    | .ok analysis, some lookups =>
      let m : Mechanism :=
        { kind, qualifier := t.qualifier, value := t.value, lookups
          hasMacros := opensExpression (t.value.getD "").toList
          macroCount := analysis.expressions.length
          resolvedIps := []
          errors := analysis.faults.map (·.message) }
      .ok (.mechanism m analysis.faults (mechanismWarnings token kind target))

/-! ## Modifiers -/

/-- Which of the modifiers that may stand only once have been read. -/
structure Seen where
  redirect : Bool
  exp : Bool
  deriving DecidableEq, Repr

/-- The modifiers with a meaning; any other name is unknown. -/
def modifierKind (name : String) : Modifier.Kind :=
  if Text.lower name = "redirect" then .redirect
  else if Text.lower name = "exp" then .exp
  else .unknown

/-- The kind of the modifier that a token has the shape of, if its name is well formed. -/
def modifierKind? (token : String) : Option Modifier.Kind :=
  match Token.mechanism? token.toList, Token.modifier? token.toList with
  | none, some (name, _) => if Token.isModifierName name.toList then some (modifierKind name) else none
  | _, _ => none

/-- A modifier counts as read even if it is rejected for another reason. -/
def Seen.after (seen : Seen) (token : String) : Seen :=
  ⟨seen.redirect || modifierKind? token == some .redirect, seen.exp || modifierKind? token == some .exp⟩

/-- Why a modifier with a meaning is rejected. -/
def modifierError? [Expectations] (seen : Seen) (token : String) (kind : Modifier.Kind) (value : String) : Option TermError :=
  if kind = .redirect && seen.redirect then some .secondRedirect
  else if kind = .exp && seen.exp then some .secondExp
  else if kind = .unknown then none
  else if value = "" then some (.emptyModifier kind.name)
  else (Grammar.check token).map .syntaxFault

def readModifier [Expectations] (seen : Seen) (token name value : String) : Except ReadError Outcome :=
  if !Token.isModifierName name.toList then
    .ok (.rejected token (((Grammar.check token).map .syntaxFault).getD (.invalidModifier token)))
  else
    let kind := modifierKind name
    match modifierError? seen token kind value with
    | some reason => .ok (.rejected token reason)
    | none =>
      match macrosOf (if kind = .unknown then "" else value) with
      | .error e => .error (.numeral e)
      | .ok analysis =>
        let m : Modifier := ⟨kind, name, value, kind.lookups, opensExpression value.toList⟩
        .ok (.modifier m analysis.faults (if kind = .unknown then [.unknownModifier name] else []))

/-! ## Records -/

def readTerm [Packages] (seen : Seen) (token : String) : Except ReadError Outcome :=
  match Token.mechanism? token.toList, Token.modifier? token.toList with
  | some w, _ => readMechanism token w
  | none, some (name, value) => readModifier seen token name value
  | none, none => .ok (.rejected token (((Grammar.check token).map .syntaxFault).getD (.unknownTerm token)))

def readTerms [Packages] : Seen → List String → Except ReadError (List Outcome)
  | _, [] => .ok []
  | seen, t :: ts => do
    let o ← readTerm seen t
    let os ← readTerms (seen.after t) ts
    .ok (o :: os)

def isAll (o : Outcome) : Bool := o.mechanism?.any (·.kind == .all)

/-- The place of the first `all` among the terms. -/
def allPosition? (os : List Outcome) : Option Nat := os.findIdx? isAll

/-- The mechanisms behind the first `all`. -/
def unreachable (terms : List String) (os : List Outcome) : List String :=
  match allPosition? os with
  | some i => (terms.drop (i + 1)).filter fun t => (Token.mechanism? t.toList).isSome
  | none => []

def policyWarnings (isValid : Bool) (terms : List String) (os : List Outcome) : List Warning :=
  let hasAll := os.any isAll
  let hasRedirect := terms.any fun t => modifierKind? t == some .redirect
  (if unreachable terms os = [] then [] else [.unreachable (unreachable terms os)])
  ++ (if hasRedirect && hasAll then [.redirectIgnored] else [])
  ++ (if isValid && !hasAll && !hasRedirect then [.noPolicy] else [])

def lookupWarnings (total : Int) : List Warning :=
  if total > Budget.limit then [.overLimit total]
  else if total ≥ Budget.warning then [.nearLimit total]
  else []

def versionProblems : List String → List Problem
  | [] => [.emptyRecord]
  | version :: _ => if isVersion version then [] else [.badVersion version]

/-- The sum of the lookups of all terms. -/
def lookupsOf (mechanisms : List Mechanism) (modifiers : List Modifier) : Int :=
  Sequence.total (·.lookups) mechanisms + Sequence.total (·.lookups) modifiers

/-- The record that the outcomes of its terms make up. -/
def assemble (raw : String) (tokens : List String) (os : List Outcome) : Record :=
  let version := tokens.headD ""
  let mechanisms := os.filterMap (·.mechanism?)
  let modifiers := os.filterMap (·.modifier?)
  let total := lookupsOf mechanisms modifiers
  { version, mechanisms, modifiers, raw
    totalLookups := total
    problems := versionProblems tokens ++ os.flatMap (·.problems)
    warnings := os.flatMap (·.warnings) ++ policyWarnings (isVersion version) (tokens.drop 1) os ++ lookupWarnings total
    isValid := isVersion version }

def read [Packages] (record : String) : Except ReadError Record :=
  (readTerms ⟨false, false⟩ ((tokens record).drop 1)).map (assemble (unquote record) (tokens record))

theorem length_readTerms [Packages] {seen : Seen} {terms : List String} {os : List Outcome}
    (h : readTerms seen terms = .ok os) : os.length = terms.length := by
  induction terms generalizing seen os with
  | nil => simp [readTerms] at h; simp [← h]
  | cons t ts ih =>
    unfold readTerms at h
    cases ho : readTerm seen t with
    | error e => simp [ho, bind, Except.bind] at h
    | ok o =>
      cases hs : readTerms (seen.after t) ts with
      | error e => simp [ho, hs, bind, Except.bind] at h
      | ok os' =>
        simp only [ho, hs, bind, Except.bind, Except.ok.injEq] at h
        simp [← h, ih hs]

end SenderPolicy.Record
