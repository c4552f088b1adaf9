/-
  SenderPolicy.Proofs.Advice.Proposals — which includes are suggested for a replacement.

  An include is suggested if its domain has been resolved to an address, and if the terms that cannot be flattened
  take fewer lookups than the include does now. Of a result that a flattening has come to, the second is always so:
  there are never more terms left out than lookups, and the include itself takes one more. The record can also be rebuilt,
  since every address of a result is read. So the suggestions are for the includes with an address, each of them once,
  and there is nothing else that decides.
  - `exists_rebuild`: with addresses that are read a record is rebuilt.
  - `exists_suggest`: what is suggested for one mechanism of a record.
  - `leftovers_within_lookups`: what is left over, and the suggestions.
-/

import SenderPolicy.Installed
import SenderPolicy.Proofs.Advice.Splicing
import SenderPolicy.Proofs.Flatten.Leftovers

namespace SenderPolicy.Advice

open Flatten Dns
open Record (IsRead)

variable {r : Record} {f : Flattening} {m : Mechanism} {resolved : Resolved}

/-! ## Rebuilding -/

def Readable (ips : List String) : Prop := ∀ ip ∈ ips, ∃ n, Network.read ip = .ok n

theorem exists_networkTerms {ips : List String} (h : Readable ips) (q : Qualifier) : ∃ ts, networkTerms q ips = .ok ts := by
  induction ips with
  | nil => exact ⟨[], rfl⟩
  | cons ip ips ih =>
    obtain ⟨⟨n, hn⟩, hips⟩ := List.forall_mem_cons.mp h
    obtain ⟨ts, hts⟩ := ih hips
    refine ⟨s!"{q.mark}ip{n.family.version}:{ip}" :: ts, ?_⟩
    rw [networkTerms, networkTerm, hn, hts]
    rfl

theorem exists_sortTexts {ips : List String} (h : Readable ips) : ∃ sorted, Network.sortTexts ips = .ok sorted := by
  obtain ⟨ns, hns⟩ := Network.exists_readAll fun ip hip => h ip (List.mem_eraseDups.mp hip)
  exact ⟨_, by rw [Network.sortTexts, hns]; rfl⟩

theorem exists_termsFor (h : ∀ domain ips, resolved.find? domain = some ips → Readable ips) (m : Mechanism) :
    ∃ ts, termsFor resolved m = .ok ts := by
  unfold termsFor
  cases hm : (target? m).bind resolved.find? with
  | none => exact ⟨_, rfl⟩
  | some ips =>
    obtain ⟨domain, -, hips⟩ := Option.bind_eq_some_iff.mp hm
    have hreadable := h domain ips hips
    obtain ⟨sorted, hsorted⟩ := exists_sortTexts hreadable
    obtain ⟨ts, hts⟩ := exists_networkTerms (fun ip hip => hreadable ip ((mem_sortTexts hsorted ip).mp hip)) m.qualifier
    exact ⟨ts, by dsimp only; rw [hsorted]; exact hts⟩

theorem exists_rebuild (h : ∀ domain ips, resolved.find? domain = some ips → Readable ips) (r : Record) :
    ∃ text, rebuild r resolved = .ok text := by
  have hall : ∀ ms, ∃ terms, allTerms resolved ms = .ok terms := by
    intro ms
    induction ms with
    | nil => exact ⟨[], rfl⟩
    | cons m ms ih =>
      obtain ⟨ts, hts⟩ := exists_termsFor h m
      obtain ⟨rest, hrest⟩ := ih
      exact ⟨ts ++ rest, by rw [allTerms, hts, hrest]; rfl⟩
  obtain ⟨terms, hterms⟩ := hall r.mechanisms
  exact ⟨_, by rw [rebuild, hterms]; rfl⟩

/-! ## Suggestions -/

/-- Whether the mechanism is an include whose domain is in the result with an address. -/
def resolves (f : Flattening) (m : Mechanism) : Bool := ((target? m).bind f.find?).any fun result => !result.ips.isEmpty

/-- Every result of the flattening is accounted for, so the comparison of lookups decides nothing. -/
theorem exists_suggest [Packages] (hf : f.Produced) (hm : IsRead m) (r : Record) (impact : Option Impact) :
    ∃ o, suggest r f impact m = .ok o ∧ o.map (·.mechanism) = if resolves f m then some m else none := by
  unfold suggest resolves
  cases ht : target? m with
  | none => exact ⟨none, rfl, rfl⟩
  | some domain =>
    rw [Option.bind_some, Option.bind_some]
    cases hresult : f.find? domain with
    | none => exact ⟨none, rfl, rfl⟩
    | some result =>
      rw [Option.map_some, Option.any_some]
      obtain ⟨e, he, rfl⟩ := Option.map_eq_some_iff.mp hresult
      have hmem := List.mem_of_find?_eq_some he
      have hfew := hf.accounted hmem
      have hone := lookups_of_incl hm (target?_some ht).1
      have hless : ¬ ((e.2.unflattened.length : Int) ≥ m.lookups + e.2.lookups) := by
        unfold DomainResult.Accounted at hfew
        omega
      dsimp only
      rw [decide_eq_false hless, Bool.or_false]
      cases hips : e.2.ips.isEmpty with
      | true => exact ⟨none, rfl, rfl⟩
      | false =>
        obtain ⟨text, htext⟩ : ∃ text, rebuild r (.ofNames [(domain, e.2.ips)]) = .ok text := by
          refine exists_rebuild (fun d ips hd => ?_) r
          obtain ⟨entry, hentry, rfl⟩ := Option.map_eq_some_iff.mp hd
          rw [List.mem_singleton.mp (List.mem_of_find?_eq_some hentry)]
          exact hf.reads hmem
        rw [htext]
        exact ⟨some _, rfl, rfl⟩

theorem exists_suggestAll [Packages] (hf : f.Produced) (r : Record) (impact : Option Impact) {ms : List Mechanism}
    (hms : ∀ m ∈ ms, IsRead m) : ∃ ss, suggestAll r f impact ms = .ok ss ∧ ss.map (·.mechanism) = ms.filter (resolves f) := by
  induction ms with
  | nil => exact ⟨[], rfl, rfl⟩
  | cons m ms ih =>
    obtain ⟨hm, hms⟩ := List.forall_mem_cons.mp hms
    obtain ⟨o, ho, hmechanism⟩ := exists_suggest hf hm r impact
    obtain ⟨rest, hrest, hrests⟩ := ih hms
    refine ⟨o.toList ++ rest, by rw [suggestAll, ho, hrest]; rfl, ?_⟩
    rw [List.map_append, hrests, ← Option.toList_map, hmechanism, List.filter_cons]
    split <;> rfl

/-- Whatever fails, breaks down or is late, no result of a flattening has more left over than lookups. Of a record
that has been read exactly the includes are suggested whose domain is in the result with an address. -/
theorem leftovers_within_lookups [Packages] :
    (∀ {σ : Type} (limits : Limits) (ask : Ask (StateM σ)) (v : Visit) (s : σ),
      ((resolve limits ask v).run s).1.report.Accounted) ∧
    (∀ f : Flattening, f.Produced → ∀ e ∈ f.resolved, e.2.Accounted) ∧
    ∀ (text : String) (r : Record) (f : Flattening) (share : Option Number) (impact : Option Impact),
      Record.read text = .ok r → f.Produced → gradeShare share = .ok impact →
      ∃ ss, suggestions r f share = .ok ss ∧ (ss.map (·.mechanism)).Perm (r.mechanisms.filter (resolves f)) := by
  refine ⟨fun limits ask v s => ((sound_invariant limits).resolve ask trivial s).1.report, fun f hf e he => hf.accounted he, ?_⟩
  intro text r f share impact hread hf hshare
  obtain ⟨ss, hss, hmechanisms⟩ := exists_suggestAll hf r impact (Record.isRead_of_read hread)
  refine ⟨Sequence.sort (fun a b => a.savings ≥ b.savings) ss, ?_, ?_⟩
  · simp only [suggestions, hshare, hss, bind, Except.bind]
  · rw [← hmechanisms]
    exact (Sequence.sort_perm _ ss).map _

/-- One include has an address and two terms without one; the other include has no record. -/
def leavingTwo : Ask (StateM Unit) := fun q =>
  pure (if q = ⟨"b.example", "TXT"⟩ then .answers ["v=spf1 ip4:192.0.2.2 exists:%\x7bi\x7d.b.example ptr -all"]
    else .failed (.noRecords q))

/-- Two lookups are left over of three, and the include is still suggested. -/
theorem leftovers_within_lookups_two :
    ∃ r ss, Record.read "v=spf1 include:b.example include:c.example -all" = .ok r ∧
      suggestions r ((flatten ⟨true, 10, 20, 8⟩ leavingTwo 1 ["b.example", "c.example"]).run ()).1 none = .ok ss ∧
      ss.map (·.mechanism.text) = ["include:b.example"] := by
  let f := ((flatten ⟨true, 10, 20, 8⟩ leavingTwo 1 ["b.example", "c.example"]).run ()).1
  obtain ⟨r, hr⟩ : ∃ r, Record.read "v=spf1 include:b.example include:c.example -all" = .ok r :=
    Record.exists_read (by decide +kernel)
  have hall : (Record.read "v=spf1 include:b.example include:c.example -all").toOption.all (fun r =>
      (r.mechanisms.filter (resolves f)).map (·.text) == ["include:b.example"]) = true := by decide +kernel
  rw [hr] at hall
  obtain ⟨ss, hss, hperm⟩ := leftovers_within_lookups.2.2 _ r f none none hr (.inTurn _ leavingTwo 1 _ ()) rfl
  have htexts := hperm.map Mechanism.text
  rw [List.map_map, beq_iff_eq.mp hall] at htexts
  exact ⟨r, ss, hr, hss, List.perm_singleton.mp htexts⟩

end SenderPolicy.Advice
