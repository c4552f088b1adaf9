/-
  SenderPolicy.Flatten.Branch — what resolving a domain has gathered, and what went wrong.

  Resolving the policy of a domain into addresses branches at every include. Each branch gathers the
  networks it found, the domains it went on to, the lookups it took, the terms that no address can stand
  for, and its errors, each with the domain it belongs to. Branches are put together in order.
  - `append_assoc`, `empty_append`: in which groups they are put together makes no difference.
-/

import SenderPolicy.Address.Basic
import SenderPolicy.Decimal.Text
import SenderPolicy.Record.Published

namespace SenderPolicy.Flatten

/-- The standard allows so many exchanges of one domain. -/
def maxExchanges : Nat := 10

/-- Why the addresses of a term cannot be widened to networks. -/
inductive MaskError where
  | notAddress (text : String)
  | badLength (length address : String)
  deriving DecidableEq, Repr

def MaskError.message : MaskError → String
  | .notAddress text => s!"{Text.quoted text} is not an IP address"
  | .badLength length address => s!"/{length} is not a valid prefix length for {address}"

inductive Cause where
  | tooDeep (depth : Int) (limit : Nat)
  /-- The domains of the path, the repeated one at the end. -/
  | loop (path : List String)
  | timedOut (seconds : Float)
  /-- Something had to be waited for, for longer than a clock can count. -/
  | endless
  | dns (f : Dns.Failure)
  | unavailable (u : Record.Unavailable)
  | badNetwork (kind : Mechanism.Kind) (value : Option String)
  | missingInclude
  | tooManyExchanges (target : String)
  | mask (e : MaskError)
  | crash (c : Dns.Crash)

def Cause.message : Cause → String
  | .tooDeep depth limit => s!"Include depth {depth} exceeds the maximum of {limit}"
  | .loop path => "Include loop detected: " ++ " -> ".intercalate path
  | .timedOut seconds =>
    let shown := Decimal.brief seconds
    s!"Timed out after {shown} seconds before resolving"
  | .endless => "timestamp out of range for platform time_t"
  | .dns f => f.text
  | .unavailable u => u.message
  | .badNetwork kind value => value.getD "None" ++ s!" is not a valid {kind.name} value"
  | .missingInclude => "include must have a value"
  | .tooManyExchanges target => s!"{target} has more than {maxExchanges} MX records - (RFC 7208 § 4.6.4)"
  | .mask e => e.message
  | .crash c => c.message

/-- An error of a branch, and the domain it belongs to. -/
structure Trouble where
  domain : String
  cause : Cause

def Trouble.message (t : Trouble) : String := s!"{t.domain}: {t.cause.message}"

/-- A domain to resolve: how deep it is, and the domains on the way to it. -/
structure Visit where
  depth : Int
  path : List String
  name : String
  deriving DecidableEq, Repr

/-- The visit of a domain that the record of this one goes on to. -/
def Visit.next (v : Visit) (name : String) : Visit := ⟨v.depth + 1, v.path ++ [Domain.key v.name], name⟩

structure Branch where
  networks : List Network
  nested : List String
  troubles : List Trouble
  lookups : Nat
  unflattened : List String
  /-- Whether a question in it was never answered. -/
  silent : Bool
  /-- The visits that nobody in it waits for any more. -/
  pending : List Visit

namespace Branch

def empty : Branch := ⟨[], [], [], 0, [], false, []⟩

protected def append (a b : Branch) : Branch :=
  ⟨a.networks ++ b.networks, a.nested ++ b.nested, a.troubles ++ b.troubles, a.lookups + b.lookups,
   a.unflattened ++ b.unflattened, a.silent || b.silent, a.pending ++ b.pending⟩

instance : Append Branch := ⟨Branch.append⟩

/-- The branches one after the other. -/
def join : List Branch → Branch
  | [] => empty
  | b :: bs => b ++ join bs

/-- A branch in which nothing was found. -/
def failure (domain : String) (cause : Cause) : Branch := { empty with troubles := [⟨domain, cause⟩] }

/-- Networks and nothing else. -/
def found (networks : List Network) : Branch := { empty with networks := networks }

/-- One lookup and nothing else. -/
def lookup : Branch := { empty with lookups := 1 }

theorem empty_append (b : Branch) : empty ++ b = b := by
  show Branch.append empty b = b
  simp [Branch.append, empty]

theorem append_empty (b : Branch) : b ++ empty = b := by
  show Branch.append b empty = b
  simp [Branch.append, empty]

theorem append_assoc (a b c : Branch) : a ++ b ++ c = a ++ (b ++ c) := by
  show Branch.append (Branch.append a b) c = Branch.append a (Branch.append b c)
  simp [Branch.append, Nat.add_assoc, Bool.or_assoc]

theorem join_append (as bs : List Branch) : join (as ++ bs) = join as ++ join bs := by
  induction as with
  | nil => exact (empty_append _).symm
  | cons a as ih => simp only [List.cons_append, join, ih, append_assoc]

end Branch

end SenderPolicy.Flatten
