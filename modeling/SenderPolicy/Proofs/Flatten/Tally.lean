/-
  SenderPolicy.Proofs.Flatten.Tally — what a visit finds and costs, term by term.

  A visit first goes through all terms, then looks up all hosts, and then makes all visits below it. Its
  lookups are a sum and its networks are a collection, so for these the order does not matter: they can be
  told apart into what each term before the first `all` contributes by itself, with its addresses and the
  visit that it leads to, and what the redirect contributes. Terms that do not go as mechanisms contribute
  nothing.
  - `tally_followed`: a visit is the sum of the contributions of its terms and its redirect.
  - `contribution_congr`: below a domain a contribution does not depend on what the domain publishes.
-/

import Mathlib.Algebra.Group.Prod
import Mathlib.Algebra.Order.Group.Multiset
import Mathlib.Tactic.Abel
import SenderPolicy.Proofs.Flatten.Paths
import SenderPolicy.Proofs.Flatten.Prompt

namespace SenderPolicy.Flatten

open Dns Policy
open Mechanism (Kind)

variable {limits : Limits} {ask ask' : Ask Id} {room : Nat} {v : Visit} {d record : String} {hosts : List Branch}

/-! ## Tallies -/

/-- The lookups and the networks of a branch. -/
def tally (b : Branch) : Nat × Multiset Network := (b.lookups, b.networks)

theorem tally_append (a b : Branch) : tally (a ++ b) = tally a + tally b := rfl

/-! ## Contributions -/

/-- The branch of an `a` or `mx` term. -/
def hostsOr (ask : Ask Id) (domain : String) (h : Hosts) : Branch :=
  match (hostsBranch ask domain h).run with
  | .ok b => b
  | .error _ => .empty

/-- What the visits to these domains come to. -/
def visited (limits : Limits) (ask : Ask Id) (room : Nat) (v : Visit) (names : List String) : Branch :=
  Branch.join (names.map fun name => awaited limits name (walk limits ask room (v.next name)))

/-- Everything that comes of a step: what it gives by itself, its addresses, and the visits it leads to. -/
def contribution (limits : Limits) (ask : Ask Id) (room : Nat) (v : Visit) (s : Step) : Branch :=
  s.branch v.domain ++ Branch.join (s.hosts?.toList.map (hostsOr ask v.domain))
    ++ visited limits ask room v (s.branch v.domain).nested

def redirected (limits : Limits) (ask : Ask Id) (room : Nat) (v : Visit) (target : Option String) : Branch :=
  Plan.redirectBranch target ++ visited limits ask room v (Plan.redirectBranch target).nested

theorem visited_append (names names' : List String) :
    visited limits ask room v (names ++ names') = visited limits ask room v names ++ visited limits ask room v names' := by
  unfold visited
  rw [List.map_append, Branch.join_append]

/-- Steps one after the other, and step by step. -/
theorem tally_contributions (steps : List Step) :
    tally (Branch.join (steps.map (contribution limits ask room v)))
      = tally (Branch.join (steps.map (·.branch v.domain)))
        + tally (Branch.join ((steps.filterMap Step.hosts?).map (hostsOr ask v.domain)))
        + tally (visited limits ask room v (steps.flatMap fun s => (s.branch v.domain).nested)) := by
  induction steps with
  | nil => rfl
  | cons s ss ih =>
    have hhosts : tally (Branch.join (((s :: ss).filterMap Step.hosts?).map (hostsOr ask v.domain)))
        = tally (Branch.join (s.hosts?.toList.map (hostsOr ask v.domain)))
          + tally (Branch.join ((ss.filterMap Step.hosts?).map (hostsOr ask v.domain))) := by
      rw [← tally_append, ← Branch.join_append, ← List.map_append, List.filterMap_cons]
      cases s.hosts? <;> rfl
    rw [hhosts, List.flatMap_cons, visited_append]
    simp only [List.map_cons, Branch.join_cons, tally_append, ih, contribution]
    abel

theorem hosts_of_run {hs : List Hosts} (h : (hs.mapM (hostsBranch ask d)).run = .ok hosts) :
    hosts = hs.map (hostsOr ask d) := by
  have hall := run_mapM_ok h
  clear h
  induction hall with
  | nil => rfl
  | cons hb _ ih => rw [List.map_cons, ← ih, hostsOr, hb]

/-- A visit is the sum of what its steps contribute and what its redirect contributes. -/
theorem tally_followed (hask : Prompt ask) (hrec : limits.recursive = true)
    (hlooked : ((planOf record).hosts.mapM (hostsBranch ask v.domain)).run = .ok hosts) :
    tally (followed limits ask room v record hosts)
      = tally (Branch.join ((planOf record).steps.map (contribution limits ask room v)))
        + tally (redirected limits ask room v (planOf record).redirect) := by
  have hchildren :
      Branch.join ((children limits v record).map (walk limits ask room))
      = visited limits ask room v ((planOf record).steps.flatMap fun s => (s.branch v.domain).nested)
        ++ visited limits ask room v (Plan.redirectBranch (planOf record).redirect).nested := by
    have hbelow : ∀ w, Branch.silent (walk limits ask room w) = false := walk_not_silent hask limits room
    rw [← map_awaited limits hbelow, ← visited_append, children, if_pos hrec, List.map_map]
    unfold own Plan.branch visited
    rw [Branch.nested_append, Branch.nested_join, List.flatMap_map]
    rfl
  rw [followed_eq hask, hchildren, hosts_of_run hlooked, tally_contributions]
  unfold own Plan.branch Plan.hosts redirected
  simp only [tally_append]
  abel

/-! ## Terms -/

variable {t : Term} {n : Network}

/-- What does not go as a mechanism contributes nothing. -/
theorem tally_contribution_other (h : Record.goesAsMechanism t = false) :
    tally (contribution limits ask room v (Step.ofTerm t)) = 0 := by
  have hother : ∃ name, Kind.ofName t.name = .other name := by
    have hk : Kind.ofName t.name ∉ Kind.standard := fun hk => by
      rw [Record.goesAsMechanism_iff.mpr hk] at h
      cases h
    cases hk' : Kind.ofName t.name with
    | other name => exact ⟨name, rfl⟩
    | _ => rw [hk'] at hk; exact absurd (by decide) hk
  obtain ⟨name, hname⟩ := hother
  unfold Step.ofTerm
  simp only [hname]
  split <;> rfl

theorem tally_contribution_network : tally (contribution limits ask room v (.network n)) = (0, {n}) := rfl

theorem tally_contribution_incl (target : String) :
    tally (contribution limits ask room v (.incl target))
      = (1, 0) + tally (awaited limits target (walk limits ask room (v.next target))) := by
  have h : visited limits ask room v [target] = awaited limits target (walk limits ask room (v.next target)) :=
    Branch.append_empty _
  rw [← h]
  rfl

/-- Only the terms that go as mechanisms count. -/
theorem tally_goingAsMechanisms (ts : List Term) :
    tally (Branch.join (ts.map fun t => contribution limits ask room v (Step.ofTerm t)))
      = tally (Branch.join
          ((ts.filter Record.goesAsMechanism).map fun t => contribution limits ask room v (Step.ofTerm t))) := by
  induction ts with
  | nil => rfl
  | cons t ts ih =>
    rw [List.map_cons, Branch.join_cons, tally_append, ih, List.filter_cons]
    cases ht : Record.goesAsMechanism t with
    | true => rfl
    | false => rw [tally_contribution_other ht, zero_add]; rfl

/-! ## Contributions and what a domain publishes -/

theorem visited_congr (h : AgreeBut d ask ask') (hascii : ∀ c ∈ d.toList, c.toNat < 128) (hd : v.domain = d)
    {names : List String} (hnames : ∀ name ∈ names, NoBlank name) :
    visited limits ask room v names = visited limits ask' room v names := by
  unfold visited
  refine congrArg Branch.join (List.map_congr_left fun name hname => ?_)
  have hpath : d ∈ (v.next name).path := List.mem_append_right _ (hd ▸ List.mem_singleton_self _)
  rw [walk_congr h hascii hpath (hnames name hname)]

/-- Below a domain a term contributes the same, whatever the domain publishes. -/
theorem contribution_congr (h : AgreeBut d ask ask') (hascii : ∀ c ∈ d.toList, c.toNat < 128) (hd : v.domain = d)
    (hvalue : ∀ w ∈ t.value, NoBlank w) :
    contribution limits ask room v (Step.ofTerm t) = contribution limits ask' room v (Step.ofTerm t) := by
  have hnames : ∀ name ∈ ((Step.ofTerm t).branch v.domain).nested, NoBlank name := by
    intro name hname
    obtain ⟨w, hw, -, rfl⟩ := mem_nested_term hname
    exact noBlank_key (hvalue w hw)
  have hhosts : hostsOr ask v.domain = hostsOr ask' v.domain := by
    funext hosts
    unfold hostsOr
    rw [hostsBranch_congr h]
  unfold contribution
  rw [hhosts, visited_congr h hascii hd hnames]

theorem redirected_congr (h : AgreeBut d ask ask') (hascii : ∀ c ∈ d.toList, c.toNat < 128) (hd : v.domain = d)
    {target : Option String} (htarget : ∀ w ∈ target, NoBlank w) :
    redirected limits ask room v target = redirected limits ask' room v target := by
  unfold redirected
  rw [visited_congr h hascii hd fun name hname => ?_]
  obtain ⟨w, hw, -, rfl⟩ := mem_nested_redirectBranch hname
  exact noBlank_key (htarget w hw)

end SenderPolicy.Flatten
