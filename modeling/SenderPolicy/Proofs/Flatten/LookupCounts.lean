/-
  SenderPolicy.Proofs.Flatten.LookupCounts — the lookups that a record is read to cost, and those that are made.

  A reader gives each mechanism the lookups of its kind. A flattening counts one lookup for each term that it comes
  to, one for the redirect, and one for each exchange, as it goes along. It stops at the first `all`, it puts off the
  terms whose addresses have to be looked up, and a question that fails does not take its lookup back. So on a
  record that is read without problems the two counts are the same up to what only the answers can tell: the
  exchanges.
  - `termLookups_other`, `termLookups_mechanism`: what is counted for one term.
  - `hostsBranch_lookups`: addresses cost no lookup of their own, exchanges do.
  - `followed_lookups`: what is counted for a record, term by term.
  - `resolved_lookups`: the count of a flattening from the mechanisms that were read.
-/

import Mathlib.Algebra.BigOperators.Group.List.Basic
import SenderPolicy.Installed
import SenderPolicy.Proofs.Advice.RebuiltPlan
import SenderPolicy.Proofs.Flatten.Tally
import SenderPolicy.Proofs.Flatten.Zones
import SenderPolicy.Proofs.Record.Returning

namespace SenderPolicy.Flatten

open Dns Policy
open Advice (beforeAll)
open Mechanism (Kind)
open Record (goesAsMechanism namedLikeMechanism)

variable {z : Question → Outcome} {ask : Ask Id} {limits : Limits} {domain record : String} {t : Term} {m : Mechanism}

/-! ## Exchanges -/

/-- The exchanges that are answered for a name; none if the question fails. -/
def exchangesAt (ask : Ask Id) (name : String) : List Exchange :=
  match (exchanges ask name).run with
  | .ok (.ok es) => es
  | _ => []

/-- The lookups for the exchanges of a mechanism in the record of a domain: one each, but not more than ten. -/
def exchangeLookups (ask : Ask Id) (domain : String) (m : Mechanism) : Nat :=
  let target := (Cidr.split m.value).domain
  if m.kind = .mx ∧ Step.hasMacro target = false then min 10 (exchangesAt ask (target.getD domain)).length else 0

theorem lookups_join (bs : List Branch) : (Branch.join bs).lookups = (bs.map (·.lookups)).sum := by
  induction bs with
  | nil => rfl
  | cons b bs ih => rw [Branch.join_cons, Branch.lookups_append, ih, List.map_cons, List.sum_cons]

theorem addressBranch_lookups {name : String} {v4 v6 : Option String} {b : Branch}
    (h : (addressBranch ask name v4 v6).run = .ok b) : b.lookups = 0 := by
  unfold addressBranch at h
  obtain ⟨r, _, h⟩ := run_bind_ok h
  cases r with
  | error f => cases h; rfl
  | ok texts =>
    dsimp only at h
    split at h <;> cases h <;> rfl

theorem exchangeBranch_lookups {v4 v6 : Option String} {e : Exchange} {b : Branch}
    (h : (exchangeBranch ask v4 v6 e).run = .ok b) : b.lookups = 1 := by
  unfold exchangeBranch at h
  obtain ⟨c, hc, h⟩ := run_bind_ok h
  cases h
  rw [Branch.lookups_append, addressBranch_lookups hc]
  rfl

theorem mxBranch_lookups {target : String} {v4 v6 : Option String} {b : Branch}
    (h : (mxBranch ask target v4 v6).run = .ok b) : b.lookups = min 10 (exchangesAt ask target).length := by
  unfold mxBranch at h
  obtain ⟨r, hr, h⟩ := run_bind_ok h
  unfold exchangesAt
  rw [hr]
  cases r with
  | error f => cases h; rfl
  | ok es =>
    obtain ⟨bs, hbs, h⟩ := run_bind_ok h
    cases h
    have hall := run_mapM_ok hbs
    have hone : bs.map (·.lookups) = List.replicate bs.length 1 := by
      refine List.eq_replicate_iff.mpr ⟨List.length_map _, fun n hn => ?_⟩
      obtain ⟨b, hb, rfl⟩ := List.mem_map.mp hn
      obtain ⟨e, _, he⟩ := mem_forall₂_right hall hb
      exact exchangeBranch_lookups he
    have hsurplus : ∀ many : Prop, [Decidable many] →
        (if many then Branch.failure target (.tooManyExchanges target) else .empty).lookups = 0 := by
      intro many _
      split <;> rfl
    rw [Branch.lookups_append, hsurplus, lookups_join, hone, List.sum_replicate_nat, ← hall.length_eq, List.length_take,
      Nat.zero_add, Nat.mul_one]
    rfl

/-- Addresses cost no lookup of their own, exchanges do. -/
theorem hostsBranch_lookups {h : Hosts} {b : Branch} (hrun : (hostsBranch ask domain h).run = .ok b) :
    b.lookups = if h.isMx then min 10 (exchangesAt ask (h.target.getD domain)).length else 0 := by
  unfold hostsBranch at hrun
  dsimp only at hrun
  split at hrun
  · rename_i hmx
    rw [if_pos hmx]
    exact mxBranch_lookups hrun
  · rename_i ha
    rw [if_neg ha]
    exact addressBranch_lookups hrun

/-! ## Terms -/

/-- All lookups that are counted for a term in the record of a domain. -/
def termLookups (ask : Ask Id) (domain : String) (t : Term) : Nat :=
  ((Step.ofTerm t).branch domain).lookups + ((Step.ofTerm t).hosts?.map (hostsOr ask domain · |>.lookups)).getD 0

theorem other_of_not_goesAsMechanism (h : goesAsMechanism t = false) : ∃ name, Kind.ofName t.name = .other name := by
  have hk : Kind.ofName t.name ∉ Kind.standard := fun hk => by
    rw [Record.goesAsMechanism_iff.mpr hk] at h
    cases h
  cases hk' : Kind.ofName t.name with
  | other name => exact ⟨name, rfl⟩
  | _ => rw [hk'] at hk; exact absurd (by decide) hk

/-- What does not go as a mechanism costs nothing where it stands. -/
theorem termLookups_other (h : goesAsMechanism t = false) : termLookups ask domain t = 0 := by
  obtain ⟨name, hname⟩ := other_of_not_goesAsMechanism h
  unfold termLookups Step.ofTerm
  simp only [hname]
  split <;> rfl

theorem hostsOr_lookups (hz : Steady z) (h : Hosts) :
    (hostsOr (asking z) domain h).lookups = if h.isMx then min 10 (exchangesAt (asking z) (h.target.getD domain)).length else 0 := by
  obtain ⟨b, hb⟩ := hostsBranch_answered hz domain h
  unfold hostsOr
  rw [hb]
  exact hostsBranch_lookups hb

/-- An `a` or `mx` term costs its lookup whether or not it has a macro, and exchanges only if it has none. -/
theorem ofHosts_lookups (hz : Steady z) (isMx : Bool) (t : Term) :
    ((Step.ofHosts isMx t).branch domain).lookups
        + ((Step.ofHosts isMx t).hosts?.map (hostsOr (asking z) domain · |>.lookups)).getD 0
      = 1 + if isMx = true ∧ Step.hasMacro (Cidr.split t.value).domain = false
          then min 10 (exchangesAt (asking z) ((Cidr.split t.value).domain.getD domain)).length else 0 := by
  unfold Step.ofHosts
  dsimp only
  cases hmacro : Step.hasMacro (Cidr.split t.value).domain with
  | true => cases isMx <;> rfl
  | false =>
    show 1 + (hostsOr (asking z) domain _).lookups = _
    rw [hostsOr_lookups hz]
    cases isMx <;> rfl

theorem ofNetwork_lookups {kind : Kind} {family : Family} {value : Option String} :
    ((Step.ofNetwork kind family value).branch domain).lookups
      + ((Step.ofNetwork kind family value).hosts?.map (hostsOr ask domain · |>.lookups)).getD 0 = 0 := by
  unfold Step.ofNetwork
  split
  · split <;> rfl
  · rfl

theorem termLookups_mechanism (hz : Steady z) (hk : m.kind ∈ Kind.standard) :
    termLookups (asking z) domain m.term = m.kind.lookups?.getD 0 + exchangeLookups (asking z) domain m := by
  have hname : Kind.ofName m.term.name = m.kind := Kind.ofName_name hk
  unfold termLookups Step.ofTerm exchangeLookups
  rw [hname]
  cases hkind : m.kind with
  | all => rfl
  | ip4 => exact ofNetwork_lookups
  | ip6 => exact ofNetwork_lookups
  | ptr => rfl
  | exist => rfl
  | incl =>
    dsimp only
    split
    · rfl
    · split <;> rfl
  | a => exact ofHosts_lookups hz false m.term
  | mx =>
    refine (ofHosts_lookups hz true m.term).trans ?_
    simp only [true_and]
    rfl
  | other name => rw [hkind] at hk; exact absurd hk (by simp [Kind.standard])

/-! ## Records -/

theorem sum_filterMap {α β : Type} (f : α → Option β) (g : β → Nat) (as : List α) :
    ((as.filterMap f).map g).sum = (as.map fun a => ((f a).map g).getD 0).sum := by
  induction as with
  | nil => rfl
  | cons a as ih =>
    rw [List.filterMap_cons, List.map_cons, List.sum_cons, ← ih]
    cases f a with
    | none => exact (Nat.zero_add _).symm
    | some b => rfl

/-- What comes to nothing can be left out. -/
theorem sum_filter {α : Type} {p : α → Bool} {f : α → Nat} (h : ∀ a, p a = false → f a = 0) (as : List α) :
    ((as.filter p).map f).sum = (as.map f).sum := by
  induction as with
  | nil => rfl
  | cons a as ih =>
    rw [List.filter_cons, List.map_cons, List.sum_cons, ← ih]
    cases hp : p a with
    | true => rfl
    | false => rw [h a hp, Nat.zero_add]; rfl

theorem redirectBranch_lookups (target : Option String) :
    (Plan.redirectBranch target).lookups = if target.isSome then 1 else 0 := by
  cases target with
  | none => rfl
  | some target => unfold Plan.redirectBranch; dsimp only; split <;> rfl

/-- A record whose includes are not followed costs what its terms before the first `all` cost, and its redirect. -/
theorem followed_lookups {v : Visit} {room : Nat} {hosts : List Branch} (hrec : limits.recursive = false)
    (hlooked : ((planOf record).hosts.mapM (hostsBranch ask v.domain)).run = .ok hosts) :
    (followed limits ask room v record hosts).lookups
      = ((live record).map (termLookups ask v.domain)).sum + if (planOf record).redirect.isSome then 1 else 0 := by
  have hnone : children limits v record = [] := by
    unfold children
    rw [hrec]
    rfl
  have hown : (own v record).lookups
      = ((live record).map fun t => ((Step.ofTerm t).branch v.domain).lookups).sum
        + if (planOf record).redirect.isSome then 1 else 0 := by
    rw [own, planOf, branch_ofTerms, Branch.lookups_append, redirectBranch_lookups, lookups_join, List.map_map]
    rfl
  have hhosts : (Branch.join hosts).lookups
      = ((live record).map fun t => ((Step.ofTerm t).hosts?.map (hostsOr ask v.domain · |>.lookups)).getD 0).sum := by
    rw [hosts_of_run hlooked, lookups_join, List.map_map, planOf, hosts_ofTerms]
    exact sum_filterMap _ _ _
  unfold followed
  rw [hnone, List.map_nil, collected_of_not_silent limits v _ rfl, Branch.join_nil, Branch.append_empty,
    Branch.lookups_append, hown, hhosts]
  unfold termLookups
  rw [List.sum_map_add]
  omega

/-! ## Records as they are read -/

variable {r : Record}

/-- Whether a record has a redirect and no `all`. -/
def redirects (r : Record) : Bool := r.modifiers.any (·.kind == .redirect) && !r.mechanisms.any (·.kind == .all)

theorem modifier_kind_of_readTerm [Packages] {seen : Record.Seen} {token : String} {mo : Modifier}
    {faults : List MacroString.Fault} {ws : List Warning} (h : Record.readTerm seen token = .ok (.modifier mo faults ws)) :
    mo.kind = Record.modifierKind mo.name := by
  unfold Record.readTerm at h
  cases hm : Token.mechanism? token.toList with
  | some w =>
    rw [hm] at h
    unfold Record.readMechanism at h
    dsimp only at h
    (repeat' split at h) <;> cases h
  | none =>
    rw [hm] at h
    cases hv : Token.modifier? token.toList with
    | none => rw [hv] at h; cases h
    | some nv =>
      rw [hv] at h
      dsimp only at h
      unfold Record.readModifier at h
      dsimp only at h
      (repeat' split at h) <;> cases h <;> rfl

theorem modifier_kind [Packages] (hread : Record.read record = .ok r) {mo : Modifier} (hm : mo ∈ r.modifiers) :
    mo.kind = Record.modifierKind mo.name := by
  obtain ⟨os, hos, rfl⟩ := Record.read_ok hread
  obtain ⟨o, ho, hmo⟩ := List.mem_filterMap.mp hm
  obtain ⟨seen, token, hterm⟩ := Record.exists_readTerm_of_mem hos ho
  cases o with
  | modifier mo' faults ws =>
    cases hmo
    exact modifier_kind_of_readTerm hterm
  | mechanism m faults ws => cases hmo
  | rejected token reason => cases hmo

theorem kind_eq_redirect_iff [Packages] (hread : Record.read record = .ok r) {mo : Modifier} (hm : mo ∈ r.modifiers) :
    (mo.kind == .redirect) = (Text.lower mo.name == "redirect") := by
  rw [modifier_kind hread hm, Record.modifierKind, Bool.eq_iff_iff, beq_iff_eq, beq_iff_eq]
  split
  · rename_i hname
    exact iff_of_true rfl hname
  · rename_i hname
    refine iff_of_false ?_ hname
    split <;> exact Modifier.Kind.noConfusion

section

variable [Packages] (hread : Record.read record = .ok r) (hsound : r.problems = [])
  (hnames : ∀ m ∈ r.modifiers, namedLikeMechanism m = false)
include hread hsound

theorem standard_of_read : ∀ m ∈ r.mechanisms, m.kind ∈ Kind.standard := by
  intro m hm
  obtain ⟨_, _, _, hk, _⟩ := Record.mechanism_reads hread hsound hm
  exact hk

include hnames

theorem redirect_isSome : (planOf record).redirect.isSome = redirects r := by
  obtain ⟨hgoes, hother⟩ := Record.tokenize_parts hread hsound hnames
  have hall : (Record.tokenize record).any isAll = r.mechanisms.any (·.kind == .all) := by
    rw [← Advice.any_isAll_filter, hgoes, List.any_map]
    rw [Bool.eq_iff_iff, List.any_eq_true, List.any_eq_true]
    refine exists_congr fun m => and_congr_right fun hm => ?_
    rw [Function.comp_apply, Advice.isAll_term (standard_of_read hread hsound m hm)]
  have hredirect : ((Record.tokenize record).filter (·.name == "redirect")).isEmpty = !r.modifiers.any (·.kind == .redirect) := by
    rw [← Advice.filter_redirect, hother, Bool.eq_iff_iff, List.isEmpty_iff, List.filter_eq_nil_iff, Bool.not_eq_true',
      List.any_eq_false, List.forall_mem_map]
    refine forall₂_congr fun mo hmo => ?_
    rw [kind_eq_redirect_iff hread hmo]
    rfl
  unfold redirects
  rw [planOf, redirect_ofTerms, hall]
  cases r.mechanisms.any (·.kind == .all) with
  | true => simp
  | false =>
    rw [if_neg Bool.false_ne_true, Option.isSome_map, Bool.not_false, Bool.and_true, ← Bool.not_not (r.modifiers.any _), ← hredirect,
      Bool.eq_iff_iff, List.getLast?_isSome, Bool.not_eq_true', List.isEmpty_eq_false_iff]

/-- The terms that count cost what the mechanisms before the first `all` are read to cost, and their exchanges. -/
theorem live_lookups (hz : Steady z) :
    (((live record).map (termLookups (asking z) domain)).sum : Int)
      = ((beforeAll r.mechanisms).map (·.lookups)).sum
        + (((beforeAll r.mechanisms).map (exchangeLookups (asking z) domain)).sum : Nat) := by
  have hstandard := standard_of_read hread hsound
  have hlive : (live record).filter goesAsMechanism = (beforeAll r.mechanisms).map Mechanism.term := by
    rw [live, Advice.filter_live, (Record.tokenize_parts hread hsound hnames).1, Advice.takeWhile_terms hstandard]
  have hcost : ∀ m ∈ beforeAll r.mechanisms,
      (termLookups (asking z) domain m.term : Int) = m.lookups + exchangeLookups (asking z) domain m := by
    intro m hm
    have hmem := (List.takeWhile_sublist _).subset hm
    obtain ⟨_, _, _, _, _, hlookups⟩ := Record.mechanism_reads hread hsound hmem
    rw [termLookups_mechanism hz (hstandard m hmem), hlookups, Record.costOf, Nat.cast_add]
  rw [← sum_filter (fun t ht => termLookups_other ht), hlive, List.map_map]
  clear hlive
  generalize beforeAll r.mechanisms = ms at hcost
  induction ms with
  | nil => rfl
  | cons m ms ih =>
    obtain ⟨hm, hms⟩ := List.forall_mem_cons.mp hcost
    simp only [List.map_cons, List.sum_cons, Function.comp_apply, Nat.cast_add, hm, ih hms]
    omega

/-- In a zone that answers or fails, resolving a domain whose includes are not followed counts what the mechanisms of
its record before the first `all` are read to cost, one lookup for a redirect that is not ignored, and one for each of
at most ten exchanges of each `mx` mechanism without a macro in its domain. -/
theorem resolved_lookups {d : String} (hz : Steady z) (hrec : limits.recursive = false) (htime : limits.expired = false)
    (hpublished : (Record.published (asking z) (Domain.key d)).run = .ok (.ok record)) :
    (resolve limits (asking z) ⟨0, [], d⟩).run.report.lookups
      = ((beforeAll r.mechanisms).map (·.lookups)).sum + (if redirects r then 1 else 0)
        + (((beforeAll r.mechanisms).map (exchangeLookups (asking z) (Domain.key d))).sum : Nat) := by
  have hlookups : ∀ b : Branch, b.report.lookups = b.lookups := fun _ => rfl
  have hroom : roomAt limits 0 = limits.maxDepth + 1 := by
    unfold roomAt
    omega
  obtain ⟨v, hv⟩ : ∃ v : Visit, v = ⟨0, [], d⟩ := ⟨_, rfl⟩
  have hdomain : v.domain = Domain.key d := by rw [hv]; rfl
  have hpath : v.path = [] := by rw [hv]
  obtain ⟨hosts, hlooked⟩ := answered_mapM (hostsBranch_answered hz v.domain) (planOf record).hosts
  rw [← hdomain] at hpublished ⊢
  have hresolved : resolve limits (asking z) v = followed limits (asking z) limits.maxDepth v record hosts := by
    unfold resolve
    rw [show v.depth = 0 by rw [hv], hroom]
    exact walk_followed (by rw [hpath]; exact List.not_mem_nil) htime hpublished hlooked
  rw [← hv, hlookups, hresolved]
  show ((followed limits (asking z) limits.maxDepth v record hosts).lookups : Int) = _
  rw [followed_lookups hrec hlooked, redirect_isSome hread hsound hnames, Nat.cast_add, live_lookups hread hsound hnames hz]
  cases redirects r with
  | true => simp only [if_true, Nat.cast_one]; omega
  | false => simp only [Bool.false_eq_true, if_false, Nat.cast_zero]; omega

end

/-- A record with an include, exchanges and a redirect. -/
def mailed : String := "v=spf1 include:b.example mx ip4:192.0.2.1 redirect=c.example"

def mailing : List (Question × List String) :=
  [(⟨"a.example", "TXT"⟩, [mailed]),
   (⟨"a.example", "MX"⟩, ["10 m.example.", "20 n.example."])]

theorem resolved_lookups_mailing :
    ∃ r, Record.read mailed = .ok r ∧ r.problems = [] ∧
      (∀ m ∈ r.modifiers, namedLikeMechanism m = false) ∧ Steady (zone mailing) ∧ Limits.expired ⟨false, 3, 30, 8⟩ = false ∧
      (Record.published (asking (zone mailing)) (Domain.key "A.example")).run = .ok (.ok mailed) ∧
      (resolve ⟨false, 3, 30, 8⟩ (asking (zone mailing)) ⟨0, [], "A.example"⟩).run.report.lookups
        = ((beforeAll r.mechanisms).map (·.lookups)).sum + (if redirects r then 1 else 0)
          + (((beforeAll r.mechanisms).map (exchangeLookups (asking (zone mailing)) (Domain.key "A.example"))).sum : Nat) := by
  have hall : ∃ r ∈ (Record.read mailed).toOption,
      r.problems = [] ∧ ∀ m ∈ r.modifiers, namedLikeMechanism m = false := by
    decide +kernel
  obtain ⟨r, hr, hsound, hnames⟩ := hall
  have hread := eq_ok_of_toOption hr
  have htime : Limits.expired ⟨false, 3, 30, 8⟩ = false := by decide +kernel
  have hpublished : (Record.published (asking (zone mailing)) (Domain.key "A.example")).run = .ok (.ok mailed) := by
    have hkey : Domain.key "A.example" = "a.example" := by decide
    rw [hkey]
    exact (published_asking (by decide +kernel)).mpr ⟨[mailed], by decide +kernel, by decide +kernel⟩
  exact ⟨r, hread, hsound, hnames, steady_zone _, htime, hpublished,
    resolved_lookups hread hsound hnames (steady_zone _) rfl htime hpublished⟩

example : (resolve ⟨false, 3, 30, 8⟩ (asking (zone mailing)) ⟨0, [], "A.example"⟩).run.report.lookups = 5 := by decide +kernel

end SenderPolicy.Flatten
