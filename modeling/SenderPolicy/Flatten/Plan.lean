/-
  SenderPolicy.Flatten.Plan — what the terms of a record ask for, before anything is looked up.

  Each term gives one step. The steps up to the first `all` count; of several redirects the last one,
  and only in a record without `all`. What a step gives without further questions is its `branch`: the
  networks that the record spells, the lookups that its terms take and the domains that it goes on to.
  - `steps_nil`: a record without terms asks for nothing.
-/

import SenderPolicy.Address.Reader
import SenderPolicy.Flatten.Branch
import SenderPolicy.Term.Cidr

namespace SenderPolicy.Flatten

/-- An `a` or `mx` term whose addresses have to be looked up. -/
structure Hosts where
  isMx : Bool
  /-- The domain itself if no other one is named. -/
  target : Option String
  v4 : Option String
  v6 : Option String
  deriving DecidableEq, Repr

inductive Step where
  | stop
  | skip
  | redirect (target : String)
  | network (n : Network)
  | badNetwork (kind : Mechanism.Kind) (value : Option String)
  | unflattened (term : Term)
  | missingInclude
  | incl (target : String)
  | hosts (h : Hosts)
  deriving DecidableEq, Repr

namespace Step

/-- The network of an `ip4` or `ip6` term has to be one of the term's own family. -/
def ofNetwork (kind : Mechanism.Kind) (family : Family) (value : Option String) : Step :=
  match Network.ofText? (Text.strip (value.getD "")) with
  | some n => if n.family = family then .network n else .badNetwork kind value
  | none => .badNetwork kind value

def hasMacro (target : Option String) : Bool := target.any fun t => t.toList.contains '%'

def ofHosts (isMx : Bool) (t : Term) : Step :=
  let parts := Cidr.split t.value
  if hasMacro parts.domain then .unflattened t else .hosts ⟨isMx, parts.domain, parts.v4, parts.v6⟩

def ofTerm (t : Term) : Step :=
  match Mechanism.Kind.ofName t.name with
  | .all => .stop
  | .ip4 => ofNetwork .ip4 .v4 t.value
  | .ip6 => ofNetwork .ip6 .v6 t.value
  | .ptr | .exist => .unflattened t
  | .incl =>
    if hasMacro t.value then .unflattened t
    else match t.value with
      | none | some "" => .missingInclude
      | some v => .incl (Domain.key v)
  | .a => ofHosts false t
  | .mx => ofHosts true t
  | .other name => if name = "redirect" then .redirect (t.value.getD "") else .skip

/-- What the step gives without further questions. -/
def branch (domain : String) : Step → Branch
  | .stop | .skip | .redirect _ => .empty
  | .network n => .found [n]
  | .badNetwork kind value => .failure domain (.badNetwork kind value)
  | .unflattened t => { Branch.lookup with unflattened := [t.text] }
  | .missingInclude => { Branch.lookup with troubles := [⟨domain, .missingInclude⟩] }
  | .incl target => { Branch.lookup with nested := [target] }
  | .hosts _ => .lookup

def redirect? : Step → Option String
  | .redirect target => some target
  | _ => none

def hosts? : Step → Option Hosts
  | .hosts h => some h
  | _ => none

end Step

/-- The steps that count. -/
structure Plan where
  steps : List Step
  redirect : Option String
  deriving DecidableEq, Repr

namespace Plan

def ofTerms (terms : List Term) : Plan :=
  let all := terms.map Step.ofTerm
  let steps := all.takeWhile (· ≠ .stop)
  ⟨steps, if all.contains .stop then none else (steps.filterMap Step.redirect?).getLast?⟩

/-- What the redirect gives without further questions. -/
def redirectBranch : Option String → Branch
  | none => .empty
  | some target =>
    if target.toList.contains '%' then { Branch.lookup with unflattened := [s!"redirect={target}"] }
    else { Branch.lookup with nested := [Domain.key target] }

def branch (p : Plan) (domain : String) : Branch :=
  Branch.join (p.steps.map (·.branch domain)) ++ redirectBranch p.redirect

def hosts (p : Plan) : List Hosts := p.steps.filterMap Step.hosts?

theorem steps_nil : ofTerms [] = ⟨[], none⟩ := rfl

end Plan

example : Plan.ofTerms (Record.tokenize "v=spf1 include:A.example redirect=b.example ?all mx")
    = ⟨[.incl "a.example", .redirect "b.example"], none⟩ := by decide

end SenderPolicy.Flatten
