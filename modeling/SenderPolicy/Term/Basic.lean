/-
  SenderPolicy.Term.Basic — qualifiers, mechanisms and modifiers.

  A term of a record is a mechanism, which says who may send and with which result, or a modifier,
  `name=value`. The eight mechanisms and the four qualifiers of the standard have constructors of their
  own; `other` keeps the name of one that a record edited by hand may hold.
  - `Qualifier.ofText_text`, `Kind.ofName_name`: written forms read back.
-/

namespace SenderPolicy

inductive Qualifier where
  | pass
  | fail
  | softFail
  | neutral
  | other (text : String)
  deriving DecidableEq, Repr

namespace Qualifier

def text : Qualifier → String
  | .pass => "+"
  | .fail => "-"
  | .softFail => "~"
  | .neutral => "?"
  | .other text => text

/-- The qualifiers of the standard. -/
def standard : List Qualifier := [.pass, .fail, .softFail, .neutral]

def ofText (text : String) : Qualifier := (standard.find? (·.text == text)).getD (.other text)

def ofSymbol? : Char → Option Qualifier
  | '+' => some .pass
  | '-' => some .fail
  | '~' => some .softFail
  | '?' => some .neutral
  | _ => none

/-- The written form: `pass` is the default and is left out. -/
def mark : Qualifier → String
  | .pass => ""
  | q => q.text

theorem ofText_text {q : Qualifier} (h : q ∈ standard) : ofText q.text = q := by
  revert h; cases q <;> intro h <;> first | rfl | simp [standard] at h

theorem ofSymbol?_eq_some {c : Char} {q : Qualifier} (h : ofSymbol? c = some q) : q.text = c.toString := by
  unfold ofSymbol? at h
  split at h <;> cases h <;> rfl

end Qualifier

namespace Mechanism

inductive Kind where
  | all
  | incl
  | a
  | mx
  | ptr
  | ip4
  | ip6
  | exist
  | other (name : String)
  deriving DecidableEq, Repr

namespace Kind

def name : Kind → String
  | .all => "all"
  | .incl => "include"
  | .a => "a"
  | .mx => "mx"
  | .ptr => "ptr"
  | .ip4 => "ip4"
  | .ip6 => "ip6"
  | .exist => "exists"
  | .other name => name

/-- The mechanisms of the standard. -/
def standard : List Kind := [.all, .incl, .a, .mx, .ptr, .ip4, .ip6, .exist]

def ofName (name : String) : Kind := (standard.find? (·.name == name)).getD (.other name)

/-- The DNS lookups that evaluating the mechanism costs, those for the exchanges of `mx` aside. -/
def lookups? : Kind → Option Nat
  | .all | .ip4 | .ip6 => some 0
  | .incl | .a | .mx | .ptr | .exist => some 1
  | .other _ => none

theorem ofName_name {k : Kind} (h : k ∈ standard) : ofName k.name = k := by
  revert h; cases k <;> intro h <;> first | rfl | simp [standard] at h

end Kind

end Mechanism

structure Mechanism where
  kind : Mechanism.Kind
  qualifier : Qualifier
  value : Option String
  /-- The DNS lookups it costs. -/
  lookups : Int
  hasMacros : Bool
  macroCount : Int
  resolvedIps : List String
  errors : List String
  deriving DecidableEq, Repr

namespace Modifier

inductive Kind where
  | redirect
  | exp
  | unknown
  | other (name : String)
  deriving DecidableEq, Repr

def Kind.name : Kind → String
  | .redirect => "redirect"
  | .exp => "exp"
  | .unknown => "unknown"
  | .other name => name

def Kind.ofName (name : String) : Kind :=
  (([.redirect, .exp, .unknown] : List Kind).find? (·.name == name)).getD (.other name)

/-- The DNS lookups that following the modifier costs. -/
def Kind.lookups : Kind → Nat
  | .redirect => 1
  | _ => 0

end Modifier

structure Modifier where
  kind : Modifier.Kind
  name : String
  value : String
  lookups : Int
  hasMacros : Bool
  deriving DecidableEq, Repr

/-- A term as it is split off a record, before anything is checked; a modifier goes by its name. -/
structure Term where
  name : String
  qualifier : Qualifier
  value : Option String
  deriving DecidableEq, Repr

/-- A qualifier, a name and a value: a value that begins with a slash follows the name directly, any
other one follows a colon. -/
def Term.text (t : Term) : String :=
  match t.value with
  | none => t.qualifier.mark ++ t.name
  | some v => if v.toList.head? == some '/' then t.qualifier.mark ++ t.name ++ v else t.qualifier.mark ++ t.name ++ ":" ++ v

def Mechanism.term (m : Mechanism) : Term := ⟨m.kind.name, m.qualifier, m.value⟩

def Mechanism.text (m : Mechanism) : String := m.term.text

def Modifier.text (m : Modifier) : String := m.name ++ "=" ++ m.value

example : (⟨"a", .fail, some "/24"⟩ : Term).text = "-a/24" := by decide
example : (⟨"include", .pass, some "_spf.example.com"⟩ : Term).text = "include:_spf.example.com" := by decide

end SenderPolicy
