/-
  SenderPolicy.Proofs.Advice.Rebuilding — what a rebuilt record is read as.

  Each mechanism of the record stands in the rebuilt text as itself or as the networks that it has been
  replaced by, with its qualifier; the modifiers follow as they were written. Every term is written as a
  word without quotes, so the tokenizer finds the same terms again.
  - `networkTerm_normal`: the term of a network reads back.
  - `allTerms_standing`: the terms of the rebuilt record are those that stand for its mechanisms.
  - `tokenize_rebuild`: and the tokenizer finds them, with the modifiers behind them.
-/

import SenderPolicy.Advice.Includes
import SenderPolicy.Proofs.Address.ReadBack
import SenderPolicy.Proofs.Record.Agreement

namespace SenderPolicy.Advice

open Text
open Mechanism (Kind)

/-! ## Networks as terms -/

def kindOf : Family → Kind
  | .v4 => .ip4
  | .v6 => .ip6

theorem kindOf_name (family : Family) : (kindOf family).name = "ip" ++ toString family.version := by
  cases family <;> decide

/-- The term of a network. -/
def spelledOut (q : Qualifier) (n : Network) : Term := ⟨(kindOf n.family).name, q, some n.normal⟩

theorem writable_spelledOut {q : Qualifier} (hq : q ∈ Qualifier.standard) {n : Network} (h : n.scope = none) :
    Token.Writable (spelledOut q n) where
  standard := ⟨kindOf n.family, by cases n.family <;> decide, rfl⟩
  qualifier := hq
  value := by
    intro v hv c hc
    cases hv
    exact plain_normal h hc

theorem networkTerm_normal (q : Qualifier) {n : Network} (h : n.scope = none) :
    networkTerm q n.normal = .ok (spelledOut q n).text := by
  have hspell := spellable_of_unscoped h
  have htext : (spelledOut q n).text = q.mark ++ (kindOf n.family).name ++ ":" ++ n.normal := by
    unfold Term.text spelledOut
    exact if_neg fun he => head?_normal hspell (beq_iff_eq.mp he)
  unfold networkTerm Network.read
  rw [Network.ofText?_normal hspell, htext, kindOf_name]
  exact congrArg Except.ok (by simp only [String.append_assoc]; rfl)

theorem networkTerms_normal (q : Qualifier) {ns : List Network} (h : ∀ n ∈ ns, n.scope = none) :
    networkTerms q (ns.map Network.normal) = .ok (ns.map fun n => (spelledOut q n).text) := by
  induction ns with
  | nil => rfl
  | cons n ns ih =>
    obtain ⟨hn, hns⟩ := List.forall_mem_cons.mp h
    simp only [List.map_cons, networkTerms, networkTerm_normal q hn, ih hns, bind, Except.bind]

/-! ## Lists of addresses -/

/-- Texts of networks without scopes. -/
def Plainly (ips : List String) : Prop := ∀ ip ∈ ips, ∃ n : Network, n.scope = none ∧ n.normal = ip

/-- Every domain stands for such a list. -/
def Resolved.Plain (resolved : Resolved) : Prop := ∀ domain ips, resolved.find? domain = some ips → Plainly ips

theorem networks_of_plainly {ips : List String} (h : Plainly ips) :
    (∀ n ∈ ips.filterMap Network.ofText?, n.scope = none) ∧ (ips.filterMap Network.ofText?).map Network.normal = ips := by
  induction ips with
  | nil => exact ⟨List.forall_mem_nil _, rfl⟩
  | cons ip ips ih =>
    obtain ⟨⟨n, hn, rfl⟩, hrest⟩ := List.forall_mem_cons.mp h
    obtain ⟨hall, hmap⟩ := ih hrest
    rw [List.filterMap_cons, Network.ofText?_normal (spellable_of_unscoped hn)]
    exact ⟨List.forall_mem_cons.mpr ⟨hn, hall⟩, by rw [List.map_cons, hmap]⟩

theorem readAll_fst {texts : List String} {ns : List (String × Network)} (h : Network.readAll texts = .ok ns) :
    ns.map (·.1) = texts := (Network.readAll_iff.mp h).1.symm

theorem mem_sortTexts {texts sorted : List String} (h : Network.sortTexts texts = .ok sorted) (t : String) :
    t ∈ sorted ↔ t ∈ texts := by
  unfold Network.sortTexts at h
  cases hr : Network.readAll texts.eraseDups with
  | error e => rw [hr] at h; cases h
  | ok ns =>
    rw [hr] at h
    obtain rfl := Except.ok.inj h
    rw [← List.mem_eraseDups (l := texts), ← readAll_fst hr]
    simp only [List.mem_map, Sequence.mem_sort]

/-! ## Terms in place of mechanisms -/

theorem target?_some {m : Mechanism} {domain : String} (h : target? m = some domain) :
    m.kind = .incl ∧ ∃ v, m.value = some v ∧ v ≠ "" ∧ Domain.key v = domain := by
  unfold target? at h
  cases hk : m.kind <;> cases hv : m.value <;> simp only [hk, hv, reduceCtorEq] at h
  rename_i v
  rw [Option.ite_none_left_eq_some] at h
  exact ⟨rfl, v, rfl, h.1, Option.some.inj h.2⟩

/-- The terms that a mechanism is rebuilt as. -/
def standing (resolved : Resolved) (m : Mechanism) : List Term :=
  match (target? m).bind resolved.find? with
  | none => [m.term]
  | some ips => (((Network.sortTexts ips).toOption.getD []).filterMap Network.ofText?).map (spelledOut m.qualifier)

variable {resolved : Resolved} {m : Mechanism}

theorem standing_kept (h : (target? m).bind resolved.find? = none) : standing resolved m = [m.term] := by
  unfold standing
  rw [h]

theorem standing_replaced {ips ts : List String} (hips : (target? m).bind resolved.find? = some ips) (hplain : Plainly ips)
    (h : termsFor resolved m = .ok ts) :
    ∃ ns : List Network, standing resolved m = ns.map (spelledOut m.qualifier) ∧ (∀ n ∈ ns, n.scope = none) ∧
      (∀ ip, ip ∈ ips ↔ ∃ n ∈ ns, n.normal = ip) ∧ ts = ns.map fun n => (spelledOut m.qualifier n).text := by
  unfold termsFor at h
  rw [hips] at h
  dsimp only at h
  cases hs : Network.sortTexts ips with
  | error e => rw [hs] at h; cases h
  | ok sorted =>
    rw [hs] at h
    have hmem := mem_sortTexts hs
    have hsorted : Plainly sorted := fun ip hip => hplain ip ((hmem ip).mp hip)
    obtain ⟨hscope, hmap⟩ := networks_of_plainly hsorted
    refine ⟨sorted.filterMap Network.ofText?, ?_, hscope, fun ip => ?_, ?_⟩
    · unfold standing
      rw [hips]
      dsimp only
      rw [hs]
      rfl
    · rw [← hmem ip, ← hmap, List.mem_map, hmap]
    · have hterms : networkTerms m.qualifier sorted = .ok ts := h
      rw [← hmap, networkTerms_normal m.qualifier hscope] at hterms
      exact (Except.ok.inj hterms).symm

theorem mem_standing (hplain : resolved.Plain) {t : Term} (h : t ∈ standing resolved m) :
    t = m.term ∨ ∃ n : Network, n.scope = none ∧ t = spelledOut m.qualifier n := by
  unfold standing at h
  cases hips : (target? m).bind resolved.find? with
  | none =>
    rw [hips] at h
    exact Or.inl (List.mem_singleton.mp h)
  | some ips =>
    rw [hips] at h
    obtain ⟨n, hn, rfl⟩ := List.mem_map.mp h
    obtain ⟨domain, _, hfind⟩ := Option.bind_eq_some_iff.mp hips
    refine Or.inr ⟨n, ?_, rfl⟩
    cases hs : Network.sortTexts ips with
    | error e => rw [hs] at hn; cases hn
    | ok sorted =>
      rw [hs] at hn
      exact (networks_of_plainly fun ip hip => hplain domain ips hfind ip ((mem_sortTexts hs ip).mp hip)).1 n hn

theorem writable_standing (hplain : resolved.Plain) (hm : Token.Writable m.term) :
    ∀ t ∈ standing resolved m, Token.Writable t := by
  intro t ht
  rcases mem_standing hplain ht with rfl | ⟨n, hn, rfl⟩
  · exact hm
  · exact writable_spelledOut hm.qualifier hn

theorem allTerms_cons {ms : List Mechanism} {terms : List String} (h : allTerms resolved (m :: ms) = .ok terms) :
    ∃ ts rest, termsFor resolved m = .ok ts ∧ allTerms resolved ms = .ok rest ∧ terms = ts ++ rest := by
  unfold allTerms at h
  cases ht : termsFor resolved m with
  | error e => simp [ht, bind, Except.bind] at h
  | ok ts =>
    cases hs : allTerms resolved ms with
    | error e => simp [ht, hs, bind, Except.bind] at h
    | ok rest =>
      simp only [ht, hs, bind, Except.bind, Except.ok.injEq] at h
      exact ⟨ts, rest, rfl, rfl, h.symm⟩

theorem termsFor_of_allTerms {ms : List Mechanism} {terms : List String} (h : allTerms resolved ms = .ok terms)
    (hm : m ∈ ms) : ∃ ts, termsFor resolved m = .ok ts := by
  induction ms generalizing terms with
  | nil => cases hm
  | cons m' ms ih =>
    obtain ⟨ts, rest, ht, hs, _⟩ := allTerms_cons h
    rcases List.mem_cons.mp hm with rfl | hm
    · exact ⟨ts, ht⟩
    · exact ih hs hm

/-- The terms of the rebuilt record are those that stand for its mechanisms. -/
theorem allTerms_standing (hplain : resolved.Plain) {ms : List Mechanism} {terms : List String}
    (h : allTerms resolved ms = .ok terms) :
    terms = (ms.flatMap (standing resolved)).map Term.text := by
  induction ms generalizing terms with
  | nil => cases h; rfl
  | cons m ms ih =>
    obtain ⟨ts, rest, ht, hs, rfl⟩ := allTerms_cons h
    have hts : ts = (standing resolved m).map Term.text := by
      cases hips : (target? m).bind resolved.find? with
      | none =>
        unfold termsFor at ht
        rw [hips] at ht
        rw [standing_kept hips, ← Except.ok.inj ht]
        rfl
      | some ips =>
        obtain ⟨domain, _, hfind⟩ := Option.bind_eq_some_iff.mp hips
        obtain ⟨ns, hstanding, _, _, hts⟩ := standing_replaced hips (hplain domain ips hfind) ht
        rw [hstanding, hts, List.map_map]
        rfl
    rw [hts, ih hs, List.flatMap_cons, List.map_append]

/-! ## The rebuilt record -/

theorem isPlainWord_versionTag : IsPlainWord Record.versionTag := by
  have hplain : Record.versionTag.toList.all (!isBlank ·) = true := by decide
  exact ⟨⟨by decide, fun c hc => by simpa using List.all_eq_true.mp hplain c hc⟩, by decide⟩

/-- A record of plain words is its own text without quotes, and the words are its tokens. -/
theorem tokens_unwords {ws : List String} (h : ∀ w ∈ ws, IsPlainWord w) :
    Record.unquote (unwords (Record.versionTag :: ws)) = unwords (Record.versionTag :: ws) ∧
      Record.tokens (unwords (Record.versionTag :: ws)) = Record.versionTag :: ws := by
  have hall : ∀ w ∈ Record.versionTag :: ws, IsPlainWord w := List.forall_mem_cons.mpr ⟨isPlainWord_versionTag, h⟩
  have hunquote := unquote_unwords hall
  refine ⟨hunquote, ?_⟩
  rw [Record.tokens, hunquote, words_unwords fun w hw => (hall w hw).toIsWord]

theorem isCandidate_unwords (ws : List String) : Record.isCandidate (unwords (Record.versionTag :: ws)) = true := by
  cases ws with
  | nil => decide
  | cons w ws =>
    have htext : (unwords (Record.versionTag :: w :: ws)).toList
        = 'v' :: '=' :: 's' :: 'p' :: 'f' :: '1' :: ' ' :: (unwords (w :: ws)).toList := by
      rw [toList_unwords, toList_unwords]
      rfl
    unfold Record.isCandidate
    rw [htext]
    rfl

variable {record text : String} {r : Record}

theorem rebuild_ok (hplain : resolved.Plain) (h : rebuild r resolved = .ok text) :
    text = unwords (Record.versionTag ::
      ((r.mechanisms.flatMap (standing resolved)).map Term.text ++ r.modifiers.map (·.text))) := by
  unfold rebuild at h
  cases hs : allTerms resolved r.mechanisms with
  | error e => rw [hs] at h; cases h
  | ok terms =>
    rw [hs] at h
    rw [← allTerms_standing hplain hs, ← Except.ok.inj h]
    rfl

/-- The rebuilt record is a record, and is read as what it was rebuilt from. -/
theorem tokenize_rebuild [Packages] (hread : Record.read record = .ok r) (hp : r.problems = [])
    (hplain : resolved.Plain) (h : rebuild r resolved = .ok text) :
    Record.unquote text = text ∧ Record.isCandidate text = true ∧
      Record.tokenize text = r.mechanisms.flatMap (standing resolved) ++ r.modifiers.map Record.modifierTerm := by
  have hwritable : ∀ t ∈ r.mechanisms.flatMap (standing resolved), Token.Writable t := by
    intro t ht
    obtain ⟨m, hm, ht⟩ := List.mem_flatMap.mp ht
    exact writable_standing hplain (Record.writable_of_mem hread hp hm) t ht
  have hwords : ∀ w ∈ (r.mechanisms.flatMap (standing resolved)).map Term.text ++ r.modifiers.map (·.text),
      IsPlainWord w := by
    intro w hw
    rcases List.mem_append.mp hw with hw | hw
    · obtain ⟨t, ht, rfl⟩ := List.mem_map.mp hw
      exact (hwritable t ht).word
    · obtain ⟨m, hm, rfl⟩ := List.mem_map.mp hw
      exact Record.isPlainWord_of_mem_tokens (List.mem_of_mem_drop (Record.modifier_reads hread hp hm).1)
  rw [rebuild_ok hplain h]
  obtain ⟨hunquote, htokens⟩ := tokens_unwords hwords
  refine ⟨hunquote, isCandidate_unwords _, ?_⟩
  rw [Record.tokenize, htokens, List.drop_succ_cons, List.drop_zero, List.filterMap_append, List.filterMap_map,
    List.filterMap_map]
  have hterms : (r.mechanisms.flatMap (standing resolved)).filterMap (Token.term? ∘ Term.text)
      = r.mechanisms.flatMap (standing resolved) :=
    (List.filterMap_congr fun t ht => (hwritable t ht).reads).trans List.filterMap_some
  have hmodifiers : r.modifiers.filterMap (Token.term? ∘ fun m => m.text) = r.modifiers.map Record.modifierTerm :=
    (List.filterMap_congr fun m hm => (Record.modifier_reads hread hp hm).2).trans (congrFun List.filterMap_eq_map _)
  rw [hterms, hmodifiers]

end SenderPolicy.Advice
