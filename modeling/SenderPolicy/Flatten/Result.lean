/-
  SenderPolicy.Flatten.Result — the addresses of several domains.

  A branch is reported with its networks sorted and without repetitions. The flattening of several
  domains resolves each of them once, counts the distinct addresses of all, and collects the errors of
  all; it is safe if there is none. Nothing is reported if nobody can wait for as long as it may take.
  - `status_eq_safe`: safe means that no domain reports an error.
-/

import SenderPolicy.Address.Text
import SenderPolicy.Flatten.Workers
import SenderPolicy.Sequence.Sort

namespace SenderPolicy.Flatten

structure DomainResult where
  ips : List String
  nested : List String
  errors : List String
  lookups : Int
  unflattened : List String
  deriving DecidableEq, Repr

def Branch.report (b : Branch) : DomainResult where
  ips := (Sequence.sort Network.le b.networks.eraseDups).map Network.normal
  nested := b.nested
  errors := b.troubles.map (·.message)
  lookups := b.lookups
  unflattened := b.unflattened

inductive Status where
  | safe
  | incomplete
  deriving DecidableEq, Repr

def Status.name : Status → String
  | .safe => "safe"
  | .incomplete => "partial"

structure Flattening where
  /-- In the order in which the domains were given. -/
  resolved : List (String × DomainResult)
  totalIps : Int
  errors : List String
  status : Status
  deriving DecidableEq, Repr

def Flattening.ofResults (resolved : List (String × DomainResult)) : Flattening :=
  let errors := (resolved.flatMap (·.2.errors)).eraseDups
  { resolved := resolved
    totalIps := (resolved.flatMap (·.2.ips)).eraseDups.length
    errors := errors
    status := if errors.isEmpty then .safe else .incomplete }

def Flattening.find? (f : Flattening) (domain : String) : Option DomainResult :=
  (f.resolved.find? (·.1 == domain)).map (·.2)

open Dns

variable {m : Type → Type} [Monad m]

/-- The flattening of the domains, for those who can wait for it. -/
def flatten (limits : Limits) (ask : Ask m) (depth : Int) (domains : List String) : m Flattening := do
  let branches ← share limits ask depth (requested domains)
  return .ofResults (branches.map fun (d, b) => (d, b.report))

/-- What is made of the branches of the domains. They are waited for until all are done or the time is up, which
breaks down if one of them is never done and the time is more than a clock can count. -/
def delivered (limits : Limits) (branches : List (String × Branch)) : Except LimitError Flattening :=
  if branches.any (·.2.silent) && limits.endless then .error .endless
  else .ok (.ofResults (branches.map fun (d, b) => (d, b.report)))

/-- The flattening of the domains, or why it cannot be waited for. One after the other, each is done at once or never. -/
def flattenWithin (limits : Limits) (ask : Ask m) (depth : Int) (domains : List String) :
    m (Except LimitError Flattening) := do
  return delivered limits (← share limits ask depth (requested domains))

theorem delivered_ok {limits : Limits} {branches : List (String × Branch)} {f : Flattening}
    (h : delivered limits branches = .ok f) : f = .ofResults (branches.map fun (d, b) => (d, b.report)) := by
  unfold delivered at h
  split at h
  · cases h
  · exact (Except.ok.inj h).symm

/-- What is delivered at all is the flattening. -/
theorem flattenWithin_ok {limits : Limits} {ask : Ask Id} {depth : Int} {domains : List String} {f : Flattening}
    (h : (flattenWithin limits ask depth domains).run = .ok f) : f = (flatten limits ask depth domains).run :=
  delivered_ok h

theorem status_eq_safe {resolved : List (String × DomainResult)} :
    (Flattening.ofResults resolved).status = .safe ↔ ∀ r ∈ resolved, r.2.errors = [] := by
  have h : ∀ l : List String, l.eraseDups.isEmpty = l.isEmpty := fun l => by
    cases l <;> simp [List.eraseDups_cons]
  rw [← List.flatMap_eq_nil_iff, ← List.isEmpty_iff, ← h]
  simp only [Flattening.ofResults]
  generalize (resolved.flatMap (·.2.errors)).eraseDups.isEmpty = e
  cases e <;> simp

end SenderPolicy.Flatten
