/-
  SenderPolicy.Domain.PublicSuffix — the part of a name under which anyone can register.

  A rule names a suffix of labels. A plain rule makes that suffix public, a wildcard rule the suffix
  and one label before it, and an exception takes one label off. The longest suffix with a rule
  decides, an exception before a wildcard before a plain rule; without a rule the last label is
  public. A name with an empty label, one dot at its end aside, is no domain and has no such part.
-/

import SenderPolicy.Domain.Name

namespace SenderPolicy

namespace Domain

inductive RuleKind where
  | plain
  | wildcard
  | exception
  deriving DecidableEq, Repr

end Domain

/-- The rules, which are kept up elsewhere, each with the labels of its suffix. -/
class SuffixRules where
  rules : List (Domain.RuleKind × List String)

namespace Domain

/-- A rule as it is written. -/
def ruleOf (text : String) : RuleKind × List String :=
  match text.toList with
  | '!' :: cs => (.exception, labels (String.ofList cs))
  | '*' :: '.' :: cs => (.wildcard, labels (String.ofList cs))
  | cs => (.plain, labels (String.ofList cs))

variable [SuffixRules]

/-- How many labels of a name with `total` labels its suffix `ls` makes public. -/
def ruled? (total : Nat) (ls : List String) : Option Nat :=
  if SuffixRules.rules.contains (.exception, ls) then some (ls.length - 1)
  else if SuffixRules.rules.contains (.wildcard, ls) then some (min total (ls.length + 1))
  else if SuffixRules.rules.contains (.plain, ls) then some ls.length
  else none

/-- Tries the suffixes, the longest one first. -/
def publicLabels (total : Nat) : List String → Nat
  | [] => 1
  | l :: ls => (ruled? total (l :: ls)).getD (publicLabels total ls)

/-- The labels of a domain. -/
def domainLabels? (name : String) : Option (List String) :=
  let cs := name.toList
  let ls := labels (Text.lower (String.ofList (if cs.getLast? == some '.' then cs.dropLast else cs)))
  if ls.contains "" then none else some ls

/-- How many labels of the domain are public, and all of its labels. -/
def split? (name : String) : Option (Nat × List String) :=
  (domainLabels? name).map fun ls => (if ls.length == 1 then 1 else publicLabels ls.length ls, ls)

/-- Whether all labels of the name are public. -/
def isPublic (name : String) : Bool :=
  match split? name with
  | some (n, ls) => n == ls.length
  | none => false

/-- The public part with one label before it. -/
def registrable? (name : String) : Option String :=
  match split? name with
  | some (n, ls) => if n < ls.length then some (".".intercalate (ls.drop (ls.length - (n + 1)))) else none
  | none => none

/-- The registrable part of a name, or the whole normal form of one that has none. -/
def base (name : String) : String :=
  let name := normalize name
  (registrable? name).getD name

/-- Whether a name, dots at its end aside, is itself a public suffix. -/
def isPublicSuffix (name : String) : Bool := isPublic (key name)

end Domain

end SenderPolicy
