/-
  SenderPolicy.Proofs.Policy.Coverage — a safe suggestion holds every address behind its include.

  The networks and addresses that stand before the first `all` in the record of the include, or in a record
  reached from it, are all among the addresses of a safe suggestion. That takes a flattening which
  follows the includes it meets: with `recursive` switched off an include inside an include is dropped
  without a mark, and the suggestion is called safe although it has lost what stands there. It also takes
  records without a modifier that is named `all`, since the tokenizer stops at one.
  - `mem_walk_of_reaches`: a clean visit has found the networks of every record that is reached.
  - `safe_suggestion_covers`: so a safe suggestion covers them.
  - `dropped_include_is_safe`: without recursion a safe suggestion may lose an address.
-/

import SenderPolicy.Proofs.Address.ReadBack
import SenderPolicy.Proofs.Advice.Suggestions

namespace SenderPolicy.Policy

open Dns Flatten
open Branch (Clean)

variable {limits : Limits} {ask : Ask Id} {room : Nat} {v : Visit} {record : String} {hosts : List Branch}

/-! ## Networks as texts -/

theorem widen?_spellable {v4 v6 : Option String} {a : Address} {n : Network} (ha : ScopeFits a.family a.scope)
    (h : widen? v4 v6 a = some n) : n.Spellable := by
  unfold widen? maskAddress at h
  split at h
  · cases h; exact Address.cut_spellable ha _ _
  · split at h
    · rename_i hm
      cases h
      exact Network.make?_spellable ha hm
    · cases h

theorem networksOf_spellable {domain : String} {t : Term} {n : Network} (h : n ∈ networksOf ask domain t) : n.Spellable := by
  have haddr : ∀ {v4 v6}, n ∈ (addressesOf ask domain t).filterMap (widen? v4 v6) → n.Spellable := by
    intro v4 v6 h
    obtain ⟨a, ha, hw⟩ := List.mem_filterMap.mp h
    obtain ⟨host, _, hmem⟩ := List.mem_flatMap.mp ha
    obtain ⟨text, _, htext⟩ := List.mem_filterMap.mp hmem
    exact widen?_spellable (Address.ofText?_fits htext) hw
  unfold networksOf at h
  split at h
  · exact Network.ofText?_spellable (Option.mem_toList.mp h)
  · exact Network.ofText?_spellable (Option.mem_toList.mp h)
  · exact haddr h

/-- A clean visit finds networks whose texts read back. -/
theorem walk_spellable (h : Clean (walk limits ask room v)) : ∀ n ∈ (walk limits ask room v).networks, n.Spellable := by
  induction room generalizing v with
  | zero => exact absurd h (Branch.not_clean_failure _ _)
  | succ room ih =>
    obtain ⟨below, record, hosts, hroom, hvisit⟩ := walk_clean h
    obtain rfl := Nat.succ.inj hroom
    intro n hn
    rcases hvisit.mem_networks.mp hn with ⟨t, _, hn⟩ | ⟨child, hchild, hn⟩
    · exact networksOf_spellable hn
    · exact ih (hvisit.below child hchild) n hn

/-- What a clean visit has found is covered by the texts of its report, and nothing else is. -/
theorem covered_report (h : Clean (walk limits ask room v)) {family : Family} {value : Nat} :
    Covered (walk limits ask room v).report.ips family value ↔
      ∃ n ∈ (walk limits ask room v).networks, n.Covers family value := by
  constructor
  · rintro ⟨ip, hip, m, hm, hcovers⟩
    obtain ⟨n, hn, rfl⟩ := mem_report_ips.mp hip
    rw [Network.ofText?_normal (walk_spellable h n hn)] at hm
    exact ⟨n, hn, Option.some.inj hm ▸ hcovers⟩
  · rintro ⟨n, hn, hcovers⟩
    exact ⟨n.normal, mem_report_ips.mpr ⟨n, hn, rfl⟩, n, Network.ofText?_normal (walk_spellable h n hn), hcovers⟩

/-! ## Everything that is reached -/

/-- Whether the includes of a record are followed, as far as there are any. -/
def Follows (limits : Limits) (ask : Ask Id) (name : String) : Prop :=
  limits.recursive = true ∨ ∀ record, record? ask name = some record → onward record = []

/-- No record that is reached has a modifier that goes by the name of `all`. -/
def NoAllModifier (ask : Ask Id) (name : String) : Prop :=
  ∀ last record, Reaches ask name last → record? ask last = some record → "all" ∉ modifierNames record

/-- A domain that the record of a clean visit goes on to is visited, and its visit is clean. -/
theorem below_of_onward (hvisit : CleanVisit limits ask room v record hosts) (hfollow : Follows limits ask v.name)
    (hall : "all" ∉ modifierNames record) {next : String} (hnext : next ∈ onward record) :
    limits.recursive = true ∧ v.next next ∈ children limits v record := by
  rcases hfollow with hrec | hnone
  · refine ⟨hrec, ?_⟩
    unfold children
    rw [if_pos hrec]
    exact List.mem_map_of_mem (mem_nested_of_mem_onward hvisit.ownClean hall hnext)
  · rw [hnone record hvisit.record?] at hnext
    cases hnext

/-- A clean visit has made a clean visit of every record that is reached, and has kept its networks. -/
theorem visit_of_reaches {first last : String} (hreach : Reaches ask first last) (hname : v.name = first)
    (h : Clean (walk limits ask room v)) (hfollow : Follows limits ask first) (hall : NoAllModifier ask first) :
    ∃ below u record hosts, u.name = last ∧ CleanVisit limits ask below u record hosts ∧
      ∀ n ∈ (walk limits ask (below + 1) u).networks, n ∈ (walk limits ask room v).networks := by
  induction hreach generalizing room v with
  | here name =>
    obtain ⟨below, record, hosts, rfl, hvisit⟩ := walk_clean h
    exact ⟨below, v, record, hosts, hname, hvisit, fun n hn => hn⟩
  | onward hrecord hnext hrest ih =>
    rename_i name record next last
    subst hname
    obtain ⟨below, record', hosts, rfl, hvisit⟩ := walk_clean h
    have hsame := hvisit.record?
    rw [hrecord] at hsame
    obtain rfl := Option.some.inj hsame
    obtain ⟨hrec, hchild⟩ := below_of_onward hvisit hfollow (hall v.name record (.here _) hrecord) hnext
    obtain ⟨below', u, record', hosts', hu, hvisit', hsub⟩ := ih (v := v.next next) rfl (hvisit.below _ hchild) (Or.inl hrec)
      fun last record' hreach' => hall last record' (.onward hrecord hnext hreach')
    exact ⟨below', u, record', hosts', hu, hvisit', fun n hn => hvisit.mem_networks.mpr (Or.inr ⟨_, hchild, hsub n hn⟩)⟩

/-- A safe suggestion loses nothing: every record that is reached from its include is there, and what stands
before the first `all` in it is covered. -/
theorem safe_suggestion_covers {r : Record} {depth : Int} {domains : List String} {share : Option Number}
    {ss : List Advice.Suggestion} (h : Advice.suggestions r (flatten limits ask depth domains).run share = .ok ss)
    {s : Advice.Suggestion} (hs : s ∈ ss) (hsafe : s.isSafe = true) {name : String}
    (hname : Advice.target? s.mechanism = some name) (hfollow : Follows limits ask name) (hall : NoAllModifier ask name)
    {last : String} (hreach : Reaches ask name last) :
    ∃ record, record? ask last = some record ∧ ∀ t ∈ counted record,
      (∀ n ∈ networksOf ask (Domain.key last) t, ∀ value, n.Covers n.family value → Covered s.ips n.family value) ∧
        ∀ a ∈ addressesOf ask (Domain.key last) t, Covered s.ips a.family a.value := by
  obtain ⟨domain, hdomain, hclean, hips⟩ := Advice.safe_suggestion_clean h hs hsafe
  rw [hname] at hdomain
  cases hdomain
  change Clean (walk limits ask (roomAt limits depth) ⟨depth, [], name⟩) at hclean
  change s.ips = (walk limits ask (roomAt limits depth) ⟨depth, [], name⟩).report.ips at hips
  obtain ⟨below, u, record, hosts, rfl, hvisit, hsub⟩ := visit_of_reaches hreach rfl hclean hfollow hall
  have hlive : ∀ t ∈ counted record, t ∈ live record :=
    fun t ht => mem_live_of_mem_counted (hall u.name record hreach hvisit.record?) ht
  have hcovered : ∀ t ∈ counted record, ∀ n ∈ networksOf ask u.domain t, ∀ family value, n.Covers family value →
      Covered s.ips family value := by
    intro t ht n hn family value hcovers
    rw [hips, covered_report hclean]
    exact ⟨n, hsub n (hvisit.mem_networks.mpr (Or.inl ⟨t, hlive t ht, hn⟩)), hcovers⟩
  refine ⟨record, hvisit.record?, fun t ht => ⟨fun n hn value => hcovered t ht n hn n.family value, fun a ha => ?_⟩⟩
  obtain ⟨n, hn, hcovers⟩ :=
    addressesOf_covered (clean_terms hvisit.ownClean) hvisit.hostsOf hvisit.hostsClean (hlive t ht) ha
  exact hcovered t ht n hn _ _ hcovers

/-! ## With and without recursion -/

/-- A record with one include. -/
def includer : Record where
  version := "v=spf1"
  mechanisms := [⟨.incl, .pass, some "b.example", 1, false, 0, [], []⟩, ⟨.all, .fail, none, 0, false, 0, [], []⟩]
  modifiers := []
  totalLookups := 1
  raw := "v=spf1 include:b.example -all"
  problems := []
  warnings := []
  isValid := true

example : (Record.read "v=spf1 include:b.example -all").toOption = some includer := by decide +kernel

/-- The include has an include of its own. -/
def chain : List (Question × List String) :=
  [(⟨"b.example", "TXT"⟩, ["v=spf1 ip4:192.0.2.1 include:c.example -all"]),
   (⟨"c.example", "TXT"⟩, ["v=spf1 ip4:192.0.2.2 -all"])]

theorem noAllModifier_zone {table : List (Question × List String)} {name : String}
    (h : ∀ entry ∈ table, ∀ text ∈ entry.2, "all" ∉ modifierNames (Record.unquote text)) :
    NoAllModifier (zone table) name := by
  intro last record _ hrecord
  obtain ⟨entry, hentry, text, htext, rfl⟩ := record?_zone hrecord
  exact h entry hentry text htext

theorem reaches_chain : Reaches (zone chain) "b.example" "c.example" :=
  have hrecord : record? (zone chain) "b.example" = some "v=spf1 ip4:192.0.2.1 include:c.example -all" := by
    decide +kernel
  .onward hrecord (by decide +kernel) (.here _)

/-- What is suggested for the include, with its own include followed or not. -/
def chainSuggestion (lookups : Int) (ips : List String) (text : String) : Advice.Suggestion :=
  ⟨⟨.incl, .pass, some "b.example", 1, false, 0, [], []⟩, lookups, 0, ips, true, none, text⟩

theorem safe_suggestion_covers_chain :
    ∃ ss s, Advice.suggestions includer (flatten ⟨true, 3, 30, 8⟩ (zone chain) 1 ["b.example"]).run none = .ok ss ∧
      s ∈ ss ∧ s.isSafe = true ∧ Advice.target? s.mechanism = some "b.example" ∧
      Follows ⟨true, 3, 30, 8⟩ (zone chain) "b.example" ∧ NoAllModifier (zone chain) "b.example" ∧
      Reaches (zone chain) "b.example" "c.example" ∧
      ∃ record, record? (zone chain) "c.example" = some record ∧ ∀ t ∈ counted record,
        (∀ n ∈ networksOf (zone chain) (Domain.key "c.example") t, ∀ value, n.Covers n.family value →
          Covered s.ips n.family value) ∧
        ∀ a ∈ addressesOf (zone chain) (Domain.key "c.example") t, Covered s.ips a.family a.value := by
  have hss := eq_ok_of_toOption (show
      (Advice.suggestions includer (flatten ⟨true, 3, 30, 8⟩ (zone chain) 1 ["b.example"]).run none).toOption
        = some [chainSuggestion 2 ["192.0.2.1", "192.0.2.2"] "v=spf1 ip4:192.0.2.1 ip4:192.0.2.2 -all"] by decide +kernel)
  have hall : NoAllModifier (zone chain) "b.example" := noAllModifier_zone (by decide +kernel)
  refine ⟨_, _, hss, List.mem_singleton_self _, rfl, by decide +kernel, Or.inl rfl, hall, reaches_chain, ?_⟩
  exact safe_suggestion_covers hss (List.mem_singleton_self _) rfl (by decide +kernel) (Or.inl rfl) hall reaches_chain

/-- Without recursion the include behind the include is dropped, and the suggestion is safe all the same: it
does not cover 192.0.2.2. -/
theorem dropped_include_is_safe :
    ∃ ss s, Advice.suggestions includer (flatten ⟨false, 3, 30, 8⟩ (zone chain) 1 ["b.example"]).run none = .ok ss ∧
      s ∈ ss ∧ s.isSafe = true ∧ Advice.target? s.mechanism = some "b.example" ∧
      Reaches (zone chain) "b.example" "c.example" ∧
      ∃ record, record? (zone chain) "c.example" = some record ∧ ∃ t ∈ counted record,
        (∃ n ∈ networksOf (zone chain) (Domain.key "c.example") t, n.Covers .v4 0xc0000202) ∧
          ¬ Covered s.ips .v4 0xc0000202 := by
  have hss := eq_ok_of_toOption (show
      (Advice.suggestions includer (flatten ⟨false, 3, 30, 8⟩ (zone chain) 1 ["b.example"]).run none).toOption
        = some [chainSuggestion 2 ["192.0.2.1"] "v=spf1 ip4:192.0.2.1 -all"] by decide +kernel)
  exact ⟨_, _, hss, List.mem_singleton_self _, rfl, by decide +kernel, reaches_chain, "v=spf1 ip4:192.0.2.2 -all",
    by decide +kernel, ⟨"ip4", .pass, some "192.0.2.2"⟩, by decide +kernel, by decide +kernel, by decide +kernel⟩

end SenderPolicy.Policy
