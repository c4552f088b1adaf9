/-
  SenderPolicy.Proofs.Check.Replacement — which includes are replaced, and what that saves.

  The names of the safe suggestions are read off their mechanisms again, and an include is replaced if its
  domain is among them. So an include is replaced exactly if a safe suggestion is made for it: what makes
  a suggestion safe is the same for all includes of a domain.
  - `of_find?`, `find?_isSome`: the domains with addresses are those of the safe suggestions.
  - `kept_or_replaced`: a mechanism is kept, or replaced by the addresses of a result without errors.
-/

import SenderPolicy.Check.Domain
import SenderPolicy.Proofs.Advice.Rebuilding
import SenderPolicy.Proofs.Advice.Suggestions
import SenderPolicy.Proofs.Record.Agreement

namespace SenderPolicy.Check

open Advice Flatten
open Mechanism (Kind)

variable {r : Record} {f : Flattening} {impact : Option Impact} {ss : List Suggestion} {s : Suggestion}
variable {names : List (String × List String)} {m : Mechanism} {domain : String}

/-! ## Names of includes -/

theorem replacements_ok (h : replacements ss = .ok names) :
    List.Forall₂ (fun s p => afterColon? s.mechanism.text = some p.1 ∧ p.2 = s.ips) (ss.filter (·.isSafe)) names := by
  induction ss generalizing names with
  | nil => cases h; exact .nil
  | cons s ss ih =>
    unfold replacements at h
    cases hs : s.isSafe with
    | false =>
      rw [hs] at h
      rw [List.filter_cons_of_neg (by simp [hs])]
      exact ih h
    | true =>
      rw [if_pos hs] at h
      rw [List.filter_cons_of_pos hs]
      cases hc : afterColon? s.mechanism.text with
      | none => rw [hc] at h; cases h
      | some name =>
        rw [hc] at h
        cases hrest : replacements ss with
        | error e => rw [hrest] at h; cases h
        | ok rest =>
          rw [hrest] at h
          cases h
          exact .cons ⟨hc, rfl⟩ (ih hrest)

/-- An include that names a domain is written with a colon, and the domain follows the first one. -/
theorem afterColon?_include {v : String} (hk : m.kind = .incl) (hq : m.qualifier ∈ Qualifier.standard)
    (hv : m.value = some v) (hslash : v.toList.head? ≠ some '/') : afterColon? m.text = some v := by
  have hmark : ∀ q ∈ Qualifier.standard, (q.mark.toList ++ "include".toList).all (· != ':') = true := by decide
  have hrest : Token.restOf m.term.value = ':' :: v.toList := by
    unfold Token.restOf Mechanism.term
    rw [hv]
    exact if_neg fun he => hslash (beq_iff_eq.mp he)
  have htext : m.text.toList = (m.qualifier.mark.toList ++ "include".toList) ++ ':' :: v.toList := by
    have hname : m.term.name = "include" := congrArg Kind.name hk
    rw [Mechanism.text, Token.toList_text, hname, hrest, List.append_assoc]
    rfl
  unfold afterColon?
  rw [htext, List.dropWhile_append_of_pos (List.all_eq_true.mp (hmark _ hq))]
  exact congrArg some String.ofList_toList

/-- A record is rebuilt only if there is something to replace. -/
theorem rebuilt_ok [Packages] {text : String} {validation : Validation} (h : rebuilt r ss = .ok (some (text, validation))) :
    ∃ names, names ≠ [] ∧ replacements ss = .ok names ∧ rebuild r (.ofNames names) = .ok text := by
  unfold rebuilt at h
  cases hnames : replacements ss with
  | error e => rw [hnames] at h; cases h
  | ok names =>
    cases names with
    | nil => rw [hnames] at h; cases h
    | cons p names =>
      rw [hnames] at h
      dsimp only at h
      cases ht : rebuild r (.ofNames (p :: names)) with
      | error e => rw [ht] at h; cases h
      | ok text' =>
        rw [ht] at h
        dsimp only at h
        cases hv : validate text' with
        | error e => rw [hv] at h; cases h
        | ok v =>
          rw [hv] at h
          cases h
          exact ⟨_, List.cons_ne_nil _ _, rfl, ht⟩

/-! ## Domains with addresses -/

section

variable {key : String → String} {ips : List String}

theorem find?_keyed
    (h : ((names.map fun (name, ips) => (key name, ips)).reverse.find? (·.1 == domain)).map (·.2) = some ips) : ∃ p ∈ names, key p.1 = domain ∧ p.2 = ips := by
  obtain ⟨p, hp, rfl⟩ := Option.map_eq_some_iff.mp h
  have hkey := List.find?_some hp
  obtain ⟨⟨name, ips⟩, hq, rfl⟩ := List.mem_map.mp (List.mem_reverse.mp (List.mem_of_find?_eq_some hp))
  exact ⟨(name, ips), hq, beq_iff_eq.mp hkey, rfl⟩

theorem find?_keyed_isSome {p : String × List String} (h : p ∈ names) (hkey : key p.1 = domain) :
    (((names.map fun (name, ips) => (key name, ips)).reverse.find? (·.1 == domain)).map (·.2)).isSome = true := by
  rw [Option.isSome_map, List.find?_isSome]
  exact ⟨(key p.1, p.2), List.mem_reverse.mpr (List.mem_map.mpr ⟨p, h, rfl⟩), beq_iff_eq.mpr hkey⟩

end

/-- A record, the suggestions that are made for it, and the names of the includes that are replaced. -/
structure Replacing (r : Record) (f : Flattening) (impact : Option Impact) (all : List Suggestion)
    (names : List (String × List String)) : Prop where
  suggested : suggestAll r f impact r.mechanisms = .ok all
  named : ∃ ss, ss.Perm all ∧ replacements ss = .ok names
  qualifier : ∀ m ∈ r.mechanisms, m.qualifier ∈ Qualifier.standard
  cost : ∀ m ∈ r.mechanisms, m.lookups = Record.costOf m.kind
  noSlash : ∀ m ∈ r.mechanisms, m.kind = .incl → ∀ v ∈ m.value, v.toList.head? ≠ some '/'

namespace Replacing

variable {all : List Suggestion} {ips : List String}

/-- The mechanism of a suggestion gives its name back. -/
theorem afterColon (h : Replacing r f impact all names) (hs : s ∈ all) :
    s.mechanism ∈ r.mechanisms ∧ suggest r f impact s.mechanism = .ok (some s) ∧
      ∃ v, target? s.mechanism = some (Domain.key v) ∧ afterColon? s.mechanism.text = some v := by
  obtain ⟨m, hm, hsuggest⟩ := (mem_suggestAll h.suggested).mp hs
  obtain ⟨domain, _, htarget, _, rfl, _⟩ := suggest_some hsuggest
  obtain ⟨hk, v, hv, _, hkey⟩ := target?_some htarget
  refine ⟨hm, hsuggest, v, by rw [htarget, hkey], afterColon?_include hk (h.qualifier _ hm) hv (h.noSlash _ hm hk v hv)⟩

/-- The domains that have addresses are those of the safe suggestions. -/
theorem of_find? (h : Replacing r f impact all names) (hfind : (Resolved.ofNames names).find? domain = some ips) :
    ∃ s ∈ all, s.isSafe = true ∧ target? s.mechanism = some domain := by
  obtain ⟨ss, hperm, hnames⟩ := h.named
  obtain ⟨p, hp, hkey, _⟩ := find?_keyed hfind
  obtain ⟨s, hs, hcolon, _⟩ := mem_forall₂_right (replacements_ok hnames) hp
  obtain ⟨hs, hsafe⟩ := List.mem_filter.mp hs
  have hs := hperm.mem_iff.mp hs
  obtain ⟨_, _, v, htarget, hv⟩ := h.afterColon hs
  rw [hcolon] at hv
  obtain rfl := Option.some.inj hv
  exact ⟨s, hs, hsafe, by rw [htarget, hkey]⟩

theorem find?_isSome (h : Replacing r f impact all names) (hs : s ∈ all) (hsafe : s.isSafe = true)
    (htarget : target? s.mechanism = some domain) : ((Resolved.ofNames names).find? domain).isSome = true := by
  obtain ⟨ss, hperm, hnames⟩ := h.named
  have hmem := List.mem_filter.mpr ⟨hperm.mem_iff.mpr hs, hsafe⟩
  obtain ⟨p, hp, hcolon, _⟩ := mem_forall₂_left (replacements_ok hnames) hmem
  obtain ⟨_, _, v, htarget', hv⟩ := h.afterColon hs
  rw [hcolon] at hv
  obtain rfl := Option.some.inj hv
  rw [htarget] at htarget'
  exact find?_keyed_isSome hp (Option.some.inj htarget').symm

/-- The addresses that an include is replaced by are those of its result. -/
theorem ips_of_find? (h : Replacing r f impact all names) (hfind : (Resolved.ofNames names).find? domain = some ips) :
    ∃ result, f.find? domain = some result ∧ result.errors = [] ∧ result.unflattened = [] ∧ ips = result.ips := by
  obtain ⟨ss, hperm, hnames⟩ := h.named
  obtain ⟨p, hp, hkey, rfl⟩ := find?_keyed hfind
  obtain ⟨s, hs, hcolon, hips⟩ := mem_forall₂_right (replacements_ok hnames) hp
  obtain ⟨hs, hsafe⟩ := List.mem_filter.mp hs
  obtain ⟨_, hsuggest, v, htarget, hv⟩ := h.afterColon (hperm.mem_iff.mp hs)
  rw [hcolon] at hv
  obtain rfl := Option.some.inj hv
  obtain ⟨domain', result, htarget', hresult, _, hips', hflag, _⟩ := suggest_some hsuggest
  rw [htarget, hkey] at htarget'
  obtain rfl := Option.some.inj htarget'
  rw [hsafe, eq_comm, Bool.and_eq_true, List.isEmpty_iff, List.isEmpty_iff] at hflag
  exact ⟨result, hresult, hflag.1, hflag.2, by rw [hips, hips']⟩

/-- A mechanism is kept and has no safe suggestion, or it is replaced and has one. -/
theorem kept_or_replaced (h : Replacing r f impact all names) (hm : m ∈ r.mechanisms) {o : Option Suggestion}
    (ho : suggest r f impact m = .ok o) :
    ((target? m).bind (Resolved.ofNames names).find? = none ∧ ∀ s ∈ o, s.isSafe = false) ∨
      ∃ domain result s, target? m = some domain ∧ (Resolved.ofNames names).find? domain = some result.ips ∧
        f.find? domain = some result ∧ result.errors = [] ∧ result.unflattened = [] ∧
        o = some s ∧ s.isSafe = true ∧ s.savings = 1 + result.lookups := by
  cases hips : (target? m).bind (Resolved.ofNames names).find? with
  | none =>
    refine Or.inl ⟨rfl, fun s hs => ?_⟩
    by_contra hsafe
    rw [Option.mem_def.mp hs] at ho
    obtain ⟨domain, _, htarget, _, hmech, _⟩ := suggest_some ho
    have hall := (mem_suggestAll h.suggested).mpr ⟨m, hm, ho⟩
    have hsome := h.find?_isSome hall (eq_true_of_ne_false hsafe) (hmech ▸ htarget)
    rw [htarget, Option.bind_some] at hips
    rw [hips] at hsome
    cases hsome
  | some ips =>
    obtain ⟨domain, htarget, hfind⟩ := Option.bind_eq_some_iff.mp hips
    obtain ⟨result, hresult, herrors, hunflattened, rfl⟩ := h.ips_of_find? hfind
    obtain ⟨s, hs, hsafe, htarget'⟩ := h.of_find? hfind
    obtain ⟨hmem, hsuggest, _⟩ := h.afterColon hs
    have hlookups : ∀ m' ∈ r.mechanisms, target? m' = some domain → m'.lookups = 1 := by
      intro m' hm' ht
      rw [h.cost m' hm', (target?_some ht).1]
      rfl
    have hsame := suggest_other hsuggest (htarget.trans htarget'.symm)
      ((hlookups m hm htarget).trans (hlookups _ hmem htarget').symm)
    obtain ⟨domain', result', htarget'', hresult', _, _, _, hsavings⟩ := suggest_some hsame
    obtain rfl := Option.some.inj (htarget.symm.trans htarget'')
    obtain rfl := Option.some.inj (hresult.symm.trans hresult')
    refine Or.inr ⟨domain, result, _, htarget, hfind, hresult, herrors, hunflattened,
      Except.ok.inj (ho.symm.trans hsame), hsafe, ?_⟩
    rw [← hlookups m hm htarget]
    exact hsavings

end Replacing

end SenderPolicy.Check
