/-
  SenderPolicy.Proofs.Flatten.PlanTerms — what the plan of a record asks for, term by term.

  The plan goes by the terms that the tokenizer sees before its first `all`. If it and the branches of its
  `a` and `mx` terms are clean, then together they hold the networks that these terms stand for, and the
  domains to go on to are those of the includes among them and of the redirect.
  - `mem_networks_iff`: the networks of a clean plan are those of its terms.
  - `nested_planOf`: the domains it goes on to are those of its includes and of its redirect.
-/

import Mathlib.Data.List.TakeWhile
import SenderPolicy.Proofs.Flatten.Branches
import SenderPolicy.Proofs.Term.Written
import SenderPolicy.Proofs.Text.Words

namespace SenderPolicy.Flatten

open Policy
open Branch (Clean)
open Mechanism (Kind)

variable {ask : Dns.Ask Id} {domain record : String} {t : Term} {n : Network}

/-! ## One term -/

theorem ofTerm_stop_iff : Step.ofTerm t = .stop ↔ isAll t = true := by
  unfold Step.ofTerm isAll Step.ofHosts Step.ofNetwork
  cases hk : Kind.ofName t.name <;> simp only [beq_iff_eq, reduceCtorEq, iff_false]
  all_goals (repeat' split) <;> simp

theorem redirect?_ofTerm : (Step.ofTerm t).redirect? = if t.name == "redirect" then some (t.value.getD "") else none := by
  unfold Step.ofTerm
  cases hk : Kind.ofName t.name
  case other name =>
    obtain rfl := Kind.ofName_other hk
    by_cases hn : t.name = "redirect" <;> simp [hn, Step.redirect?]
  all_goals
    have hn : (t.name == "redirect") = false := beq_eq_false_iff_ne.mpr fun e => by
      rw [e] at hk
      exact absurd hk (by decide)
    simp only [hn, Bool.false_eq_true, if_false, Step.ofHosts, Step.ofNetwork]
    (repeat' split) <;> rfl

theorem ofNetwork_clean {kind : Kind} {family : Family} {value : Option String}
    (hc : Clean ((Step.ofNetwork kind family value).branch domain)) :
    ∃ m, Network.ofText? (Text.strip (value.getD "")) = some m ∧ Step.ofNetwork kind family value = .network m := by
  unfold Step.ofNetwork at hc ⊢
  cases hn : Network.ofText? (Text.strip (value.getD "")) with
  | none => rw [hn] at hc; exact absurd hc (Branch.not_clean_failure _ _)
  | some m =>
    rw [hn] at hc
    dsimp only at hc ⊢
    split at hc
    · rename_i hf
      exact ⟨m, rfl, if_pos hf⟩
    · exact absurd hc (Branch.not_clean_failure _ _)

theorem unflattened_not_clean : ¬ Clean ((Step.unflattened t).branch domain) := by
  intro h; cases h.2

theorem ofHosts_clean {isMx : Bool} (hc : Clean ((Step.ofHosts isMx t).branch domain)) :
    (Step.ofHosts isMx t).hosts?.isSome = true := by
  unfold Step.ofHosts at hc ⊢
  dsimp only at hc ⊢
  split at hc
  · exact absurd hc unflattened_not_clean
  · rename_i hm
    rw [if_neg hm]
    rfl

theorem strip_getD (hv : ∀ v ∈ t.value, Text.strip v = v) : Text.strip (t.value.getD "") = t.value.getD "" := by
  cases hval : t.value with
  | none => decide
  | some v => exact hv v hval

/-- What a term gives without further questions, if nothing is wrong with it. -/
theorem mem_branch_networks (hc : Clean ((Step.ofTerm t).branch domain)) (hv : ∀ v ∈ t.value, Text.strip v = v)
    (hh : (Step.ofTerm t).hosts? = none) : n ∈ ((Step.ofTerm t).branch domain).networks ↔ n ∈ networksOf ask domain t := by
  have hnetwork : ∀ {kind family}, Clean ((Step.ofNetwork kind family t.value).branch domain) →
      (n ∈ ((Step.ofNetwork kind family t.value).branch domain).networks ↔
        n ∈ (Network.ofText? (t.value.getD "")).toList) := by
    intro kind family hc
    obtain ⟨m, hm, hs⟩ := ofNetwork_clean hc
    rw [strip_getD hv] at hm
    rw [hs, hm]
    simp [Step.branch, Branch.found]
  unfold Step.ofTerm at hc hh ⊢
  unfold networksOf
  cases hk : Kind.ofName t.name <;> simp only [hk] at hc hh ⊢
  case ip4 => exact hnetwork hc
  case ip6 => exact hnetwork hc
  case a => exact absurd hh (Option.isSome_iff_ne_none.mp (ofHosts_clean hc))
  case mx => exact absurd hh (Option.isSome_iff_ne_none.mp (ofHosts_clean hc))
  all_goals
    simp only [addressesOf, hostsOf, hk, List.flatMap_nil, List.filterMap_nil, List.not_mem_nil, iff_false]
    (repeat' split) <;> exact List.not_mem_nil

/-! ## The terms of a plan -/

theorem noBlank_of_mem_tokenize (h : t ∈ Record.tokenize record) :
    ∀ v ∈ t.value, ∀ c ∈ v.toList, Text.isBlank c = false := by
  obtain ⟨token, hmem, ht⟩ := List.mem_filterMap.mp h
  have hword := (Text.mem_words (List.mem_of_mem_drop hmem)).1.noBlank
  exact fun v hv c hc => hword c (Token.mem_value_of_term? ht hv hc)

theorem strip_of_mem_tokenize (h : t ∈ Record.tokenize record) : ∀ v ∈ t.value, Text.strip v = v :=
  fun v hv => Text.strip_of_noBlank (noBlank_of_mem_tokenize h v hv)

theorem ofTerm_of_hosts? {h : Hosts} (hh : (Step.ofTerm t).hosts? = some h) : Step.ofTerm t = .hosts h := by
  cases hs : Step.ofTerm t with
  | hosts h' => rw [hs] at hh; exact congrArg Step.hosts (Option.some.inj hh)
  | _ => rw [hs] at hh; cases hh

theorem networksOf_hosts {h : Hosts} (ht : Step.ofTerm t = .hosts h) :
    networksOf ask domain t
      = (addressesOf ask domain t).filterMap (widen? (Cidr.split t.value).v4 (Cidr.split t.value).v6) := by
  unfold networksOf
  rcases ofTerm_hosts ht with ⟨hk, _⟩ | ⟨hk, _⟩ <;> rw [hk]

/-- A clean branch of an `a` or `mx` term holds the networks around all its addresses. -/
theorem mem_hosts_networks {h : Hosts} {b : Branch} (ht : Step.ofTerm t = .hosts h)
    (hrun : (hostsBranch ask domain h).run = .ok b) (hb : Clean b) : n ∈ b.networks ↔ n ∈ networksOf ask domain t := by
  rw [(hostsBranch_clean ht hrun hb).1 n, networksOf_hosts ht, List.mem_filterMap]
  simp only [addressesOf, List.mem_flatMap]
  constructor
  · rintro ⟨name, hname, a, ha, hw⟩
    exact ⟨a, ⟨name, hname, ha⟩, hw⟩
  · rintro ⟨a, ⟨name, hname, ha⟩, hw⟩
    exact ⟨name, hname, a, ha, hw⟩

variable {ts : List Term} {hosts : List Branch}

/-- The branches of the `a` and `mx` terms among the terms of a plan. -/
def HostsOf (ask : Dns.Ask Id) (domain : String) (ts : List Term) (hosts : List Branch) : Prop :=
  List.Forall₂ (fun h b => (hostsBranch ask domain h).run = .ok b) (ts.filterMap fun t => (Step.ofTerm t).hosts?) hosts

theorem mem_networks_terms (hv : ∀ t ∈ ts, ∀ v ∈ t.value, Text.strip v = v)
    (hown : ∀ t ∈ ts, Clean ((Step.ofTerm t).branch domain)) (hh : HostsOf ask domain ts hosts) (hc : ∀ b ∈ hosts, Clean b) :
    (n ∈ ts.flatMap fun t => ((Step.ofTerm t).branch domain).networks) ∨ n ∈ hosts.flatMap (·.networks) ↔
      ∃ t ∈ ts, n ∈ networksOf ask domain t := by
  induction ts generalizing hosts with
  | nil =>
    cases hh
    simp
  | cons t ts ih =>
    have hvt := hv t List.mem_cons_self
    have hownt := hown t List.mem_cons_self
    have ih := fun {bs : List Branch} => @ih bs (fun u hu => hv u (List.mem_cons_of_mem _ hu))
      fun u hu => hown u (List.mem_cons_of_mem _ hu)
    unfold HostsOf at hh
    rw [List.filterMap_cons] at hh
    simp only [List.flatMap_cons, List.mem_append, List.mem_cons, exists_eq_or_imp]
    cases ht : (Step.ofTerm t).hosts? with
    | none =>
      rw [ht] at hh
      have hbranch : n ∈ ((Step.ofTerm t).branch domain).networks ↔ n ∈ networksOf ask domain t :=
        mem_branch_networks hownt hvt ht
      rw [← ih hh hc, hbranch]
      exact or_assoc
    | some h =>
      rw [ht] at hh
      obtain ⟨b, hosts, rfl, hrun, hrest⟩ : ∃ b bs, hosts = b :: bs ∧ (hostsBranch ask domain h).run = .ok b ∧
          HostsOf ask domain ts bs := by
        cases hh with
        | cons hrun hrest => exact ⟨_, _, rfl, hrun, hrest⟩
      have hs := ofTerm_of_hosts? ht
      have hnone : ((Step.ofTerm t).branch domain).networks = [] := by rw [hs]; rfl
      rw [List.flatMap_cons, List.mem_append, ← ih hrest fun c hm => hc c (List.mem_cons_of_mem _ hm),
        mem_hosts_networks hs hrun (hc b List.mem_cons_self), hnone]
      simp only [List.not_mem_nil, false_or]
      exact or_left_comm

/-- Every address of a term stands in one of its networks. -/
theorem addressesOf_covered (hown : ∀ t ∈ ts, Clean ((Step.ofTerm t).branch domain)) (hh : HostsOf ask domain ts hosts)
    (hc : ∀ b ∈ hosts, Clean b) (hmem : t ∈ ts) {a : Address} (ha : a ∈ addressesOf ask domain t) :
    ∃ n ∈ networksOf ask domain t, n.Covers a.family a.value := by
  obtain ⟨host, hhost, haddr⟩ := List.mem_flatMap.mp ha
  obtain ⟨h, ht⟩ : ∃ h, (Step.ofTerm t).hosts? = some h := by
    have hclean := hown t hmem
    unfold hostsOf at hhost
    unfold Step.ofTerm at hclean ⊢
    cases hk : Kind.ofName t.name <;> simp only [hk, List.not_mem_nil] at hhost hclean ⊢
    case a => exact Option.isSome_iff_exists.mp (ofHosts_clean hclean)
    case mx => exact Option.isSome_iff_exists.mp (ofHosts_clean hclean)
  obtain ⟨b, hb, hrun⟩ := mem_forall₂_left hh (List.mem_filterMap.mpr ⟨t, hmem, ht⟩)
  have hs := ofTerm_of_hosts? ht
  obtain ⟨n, hw⟩ := (hostsBranch_clean hs hrun (hc b hb)).2 host hhost a haddr
  refine ⟨n, ?_, widen?_covers hw⟩
  rw [networksOf_hosts hs]
  exact List.mem_filterMap.mpr ⟨a, ha, hw⟩

/-! ## The plan of a record -/

theorem steps_ofTerms (terms : List Term) :
    (Plan.ofTerms terms).steps = (terms.takeWhile (!isAll ·)).map Step.ofTerm := by
  have hp : ((fun s => decide (s ≠ .stop)) ∘ Step.ofTerm : Term → Bool) = fun t => !isAll t := by
    funext t
    show decide (Step.ofTerm t ≠ .stop) = !isAll t
    cases hall : isAll t with
    | true => simpa using ofTerm_stop_iff.mpr hall
    | false =>
      have : Step.ofTerm t ≠ .stop := fun e => by rw [ofTerm_stop_iff.mp e] at hall; cases hall
      simpa using this
  show ((terms.map Step.ofTerm).takeWhile _) = _
  rw [List.takeWhile_map, hp]

theorem hosts_ofTerms (terms : List Term) :
    (Plan.ofTerms terms).hosts = (terms.takeWhile (!isAll ·)).filterMap fun t => (Step.ofTerm t).hosts? := by
  rw [Plan.hosts, steps_ofTerms, List.filterMap_map]
  rfl

theorem networks_redirectBranch (target : Option String) : (Plan.redirectBranch target).networks = [] := by
  unfold Plan.redirectBranch
  split
  · rfl
  · split <;> rfl

theorem branch_ofTerms (terms : List Term) :
    (Plan.ofTerms terms).branch domain
      = Branch.join ((terms.takeWhile (!isAll ·)).map fun t => (Step.ofTerm t).branch domain)
        ++ Plan.redirectBranch (Plan.ofTerms terms).redirect := by
  rw [Plan.branch, steps_ofTerms, List.map_map]
  rfl

theorem networks_ofTerms (terms : List Term) :
    ((Plan.ofTerms terms).branch domain).networks
      = (terms.takeWhile (!isAll ·)).flatMap fun t => ((Step.ofTerm t).branch domain).networks := by
  rw [branch_ofTerms, Branch.networks_append, networks_redirectBranch, List.append_nil, Branch.networks_join,
    List.flatMap_map]

/-- The plan of a record. -/
def planOf (record : String) : Plan := Plan.ofTerms (Record.tokenize record)

theorem clean_terms (hc : Clean ((planOf record).branch domain)) :
    ∀ t ∈ live record, Clean ((Step.ofTerm t).branch domain) := by
  rw [planOf, branch_ofTerms, Branch.clean_append, Branch.clean_join] at hc
  exact fun t ht => hc.1 _ (List.mem_map_of_mem ht)

theorem hostsOf_live (hh : List.Forall₂ (fun h b => (hostsBranch ask domain h).run = .ok b) (planOf record).hosts hosts) :
    HostsOf ask domain (live record) hosts := by
  rw [planOf, hosts_ofTerms] at hh
  exact hh

theorem mem_tokenize_of_mem_live (h : t ∈ live record) : t ∈ Record.tokenize record := by
  unfold live at h
  exact (List.takeWhile_sublist _).subset h

/-- The networks of a clean plan are those of its terms. -/
theorem mem_networks_iff (hc : Clean ((planOf record).branch domain)) (hh : HostsOf ask domain (live record) hosts)
    (hhc : ∀ b ∈ hosts, Clean b) :
    n ∈ ((planOf record).branch domain).networks ∨ n ∈ (Branch.join hosts).networks ↔
      ∃ t ∈ live record, n ∈ networksOf ask domain t := by
  have hv : ∀ t ∈ live record, ∀ v ∈ t.value, Text.strip v = v :=
    fun t ht => strip_of_mem_tokenize (mem_tokenize_of_mem_live ht)
  rw [← mem_networks_terms hv (clean_terms hc) hh hhc, planOf, networks_ofTerms, Branch.networks_join]
  exact Iff.rfl

/-! ## The domains to go on to -/

/-- A term goes on to the key of its value, if to anything, and only of one without a percent sign. -/
theorem mem_nested_term {name : String} (h : name ∈ ((Step.ofTerm t).branch domain).nested) :
    ∃ v ∈ t.value, '%' ∉ v.toList ∧ name = Domain.key v := by
  unfold Step.ofTerm at h
  cases hk : Kind.ofName t.name <;> simp only [hk] at h
  case incl =>
    split at h
    · cases h
    · rename_i hmacro
      split at h
      · cases h
      · cases h
      · rename_i v _ hv
        rw [hv, Step.hasMacro, Option.any_some, List.contains_iff_mem] at hmacro
        exact ⟨v, hv, hmacro, List.mem_singleton.mp h⟩
  all_goals
    try simp only [Step.ofNetwork, Step.ofHosts] at h
    (repeat' split at h) <;> cases h

theorem mem_nested_redirectBranch {target : Option String} {name : String} (h : name ∈ (Plan.redirectBranch target).nested) :
    ∃ v ∈ target, '%' ∉ v.toList ∧ name = Domain.key v := by
  unfold Plan.redirectBranch at h
  cases target with
  | none => cases h
  | some v =>
    dsimp only at h
    split at h
    · cases h
    · rename_i hmacro
      rw [List.contains_iff_mem] at hmacro
      exact ⟨v, rfl, hmacro, List.mem_singleton.mp h⟩

theorem nested_term (hc : Clean ((Step.ofTerm t).branch domain)) :
    ((Step.ofTerm t).branch domain).nested = (include? t).toList := by
  unfold include?
  unfold Step.ofTerm at hc ⊢
  cases hk : Kind.ofName t.name <;> simp only [hk, reduceCtorEq, if_false, if_true, Option.toList_none] at hc ⊢
  case incl =>
    split at hc
    · exact absurd hc unflattened_not_clean
    · rename_i hm
      rw [if_neg hm]
      split at hc
      · cases hc.1
      · cases hc.1
      · rename_i v hne hv
        rw [hv]
        rfl
  all_goals
    try simp only [Step.ofNetwork, Step.ofHosts]
    (repeat' split) <;> rfl

theorem nested_redirectBranch {target : Option String} (hc : Clean (Plan.redirectBranch target)) :
    (Plan.redirectBranch target).nested = target.toList.map Domain.key := by
  unfold Plan.redirectBranch at hc ⊢
  cases target with
  | none => rfl
  | some target =>
    dsimp only at hc ⊢
    split at hc
    · cases hc.2
    · rename_i hm
      rw [if_neg hm]
      rfl

theorem nested_terms {ts : List Term} (hc : ∀ t ∈ ts, Clean ((Step.ofTerm t).branch domain)) :
    (Branch.join (ts.map fun t => (Step.ofTerm t).branch domain)).nested = ts.filterMap include? := by
  induction ts with
  | nil => rfl
  | cons t ts ih =>
    rw [List.map_cons, Branch.join_cons, Branch.nested_append, List.filterMap_cons, nested_term (hc t List.mem_cons_self),
      ih fun u hu => hc u (List.mem_cons_of_mem _ hu)]
    cases include? t <;> rfl

/-- A clean plan goes on to the domains of its includes and of its redirect. -/
theorem nested_planOf (hc : Clean ((planOf record).branch domain)) :
    ((planOf record).branch domain).nested
      = (live record).filterMap include? ++ (planOf record).redirect.toList.map Domain.key := by
  have hterms := nested_terms (clean_terms hc)
  unfold planOf at hc ⊢
  rw [branch_ofTerms, Branch.clean_append] at hc
  rw [branch_ofTerms, Branch.nested_append, nested_redirectBranch hc.2]
  unfold live at hterms ⊢
  rw [hterms]

theorem filterMap_redirect? (terms : List Term) :
    (terms.map Step.ofTerm).filterMap Step.redirect?
      = (terms.filter (·.name == "redirect")).map fun t => t.value.getD "" := by
  induction terms with
  | nil => rfl
  | cons t ts ih =>
    rw [List.map_cons, List.filterMap_cons, redirect?_ofTerm, List.filter_cons, ih]
    cases t.name == "redirect" <;> rfl

theorem contains_stop (terms : List Term) : (terms.map Step.ofTerm).contains .stop = terms.any isAll := by
  rw [Bool.eq_iff_iff, List.contains_iff_mem, List.mem_map, List.any_eq_true]
  simp only [ofTerm_stop_iff]

theorem redirect_ofTerms (terms : List Term) :
    (Plan.ofTerms terms).redirect
      = if terms.any isAll then none else (terms.filter (·.name == "redirect")).getLast?.map fun t => t.value.getD "" := by
  show (if (terms.map Step.ofTerm).contains .stop then none
    else ((Plan.ofTerms terms).steps.filterMap Step.redirect?).getLast?) = _
  rw [contains_stop, steps_ofTerms]
  cases hany : terms.any isAll with
  | true => rfl
  | false =>
    have hwhole : terms.takeWhile (!isAll ·) = terms :=
      List.takeWhile_eq_self_iff.mpr fun t ht => by simpa using List.any_eq_false.mp hany t ht
    rw [hwhole, filterMap_redirect?, List.getLast?_map]

/-- The target of the redirect stands in a token. -/
theorem noBlank_of_redirect {target : String} (h : (planOf record).redirect = some target) :
    ∀ c ∈ target.toList, Text.isBlank c = false := by
  rw [planOf, redirect_ofTerms] at h
  split at h
  · cases h
  · obtain ⟨t, ht, rfl⟩ := Option.map_eq_some_iff.mp h
    have hmem := (List.mem_filter.mp (List.mem_of_getLast? ht)).1
    intro c hc
    cases hval : t.value with
    | none => rw [hval] at hc; cases hc
    | some w =>
      rw [hval] at hc
      exact noBlank_of_mem_tokenize hmem w hval c hc

/-- A domain that a term before the first `all` goes on to is one that the record goes on to. -/
theorem mem_nested_of_live (ht : t ∈ live record) {name : String} (h : name ∈ ((Step.ofTerm t).branch domain).nested) :
    name ∈ ((planOf record).branch domain).nested := by
  rw [planOf, branch_ofTerms, Branch.nested_append, List.mem_append, Branch.nested_join, List.flatMap_map]
  exact Or.inl (List.mem_flatMap.mpr ⟨t, ht, h⟩)

/-- The domains that a record goes on to are keys of texts without blanks and percent signs. -/
theorem mem_nested_planOf {name : String} (h : name ∈ ((planOf record).branch domain).nested) :
    ∃ v, (∀ c ∈ v.toList, Text.isBlank c = false) ∧ '%' ∉ v.toList ∧ name = Domain.key v := by
  rw [planOf, branch_ofTerms, Branch.nested_append, List.mem_append, Branch.nested_join, List.flatMap_map,
    List.mem_flatMap] at h
  rcases h with ⟨t, ht, h⟩ | h
  · obtain ⟨v, hv, hmacro, rfl⟩ := mem_nested_term h
    exact ⟨v, noBlank_of_mem_tokenize (mem_tokenize_of_mem_live ht) v hv, hmacro, rfl⟩
  · obtain ⟨v, hv, hmacro, rfl⟩ := mem_nested_redirectBranch h
    exact ⟨v, noBlank_of_redirect hv, hmacro, rfl⟩

theorem redirect_planOf (hall : "all" ∉ modifierNames record) : (planOf record).redirect = redirect? record := by
  unfold redirect? planOf
  rw [redirect_ofTerms, any_isAll_tokenize hall]

/-- A clean plan leaves out no domain that the record goes on to. -/
theorem mem_nested_of_mem_onward (hc : Clean ((planOf record).branch domain)) (hall : "all" ∉ modifierNames record)
    {name : String} (h : name ∈ onward record) : name ∈ ((planOf record).branch domain).nested := by
  rw [nested_planOf hc, redirect_planOf hall]
  rcases List.mem_append.mp h with h | h
  · obtain ⟨t, ht, hi⟩ := List.mem_filterMap.mp h
    exact List.mem_append_left _ (List.mem_filterMap.mpr ⟨t, mem_live_of_mem_counted hall ht, hi⟩)
  · exact List.mem_append_right _ h

end SenderPolicy.Flatten
