/-
  SenderPolicy.Proofs.Address.Sorting — lists of texts in normal form, in the order of their networks.

  A list is sorted by the networks that its texts spell, but repetitions are removed from the texts. Two texts in
  normal form that spell one network are the same text, as long as there are no scope ids, so with them the two come
  to the same: no network is left twice, and nothing of the order of the list or of its repetitions shows.
  - `plainForm_iff`: the normal forms without a percent sign are those of the networks without a scope id.
  - `precedes_of_le`: of two such networks in order the first one precedes the other, unless they are one.
  - `sorted_texts_canonical`: the result is strictly in order, and depends on the elements only.
-/

import SenderPolicy.Proofs.Address.NormalForm

namespace SenderPolicy.Network

variable {m n : Network} {vs ws : List String}

/-! ## Normal forms without scope ids -/

/-- The normal form of some text, without a scope id. -/
def PlainForm (t : String) : Prop := (∃ s, normalize s = .ok t) ∧ '%' ∉ t.toList

theorem spellable_of_read {s : String} (h : read s = .ok n) : n.Spellable := by
  unfold read at h
  cases htext : ofText? s with
  | none => rw [htext] at h; cases h
  | some n' =>
    rw [htext] at h
    cases h
    exact ofText?_spellable htext

theorem percent_mem_normal (h : n.Spellable) (hscope : n.scope ≠ none) : '%' ∈ n.normal.toList := by
  obtain ⟨s, hs⟩ := Option.ne_none_iff_exists'.mp hscope
  have hvalue : '%' ∈ Address.valueText n.family n.base n.scope := by
    rw [(h s hs).1, hs]
    exact List.mem_append_right _ List.mem_cons_self
  unfold normal text
  split
  · rwa [String.toList_ofList]
  · rw [String.toList_ofList]
    exact List.mem_append_left _ hvalue

theorem plainForm_iff {t : String} : PlainForm t ↔ ∃ n : Network, n.scope = none ∧ n.normal = t := by
  constructor
  · rintro ⟨⟨s, hs⟩, hpercent⟩
    unfold normalize at hs
    cases hread : read (Text.strip s) with
    | error e => rw [hread] at hs; cases hs
    | ok n =>
      rw [hread] at hs
      cases hs
      refine ⟨n, ?_, rfl⟩
      by_contra hscope
      exact hpercent (percent_mem_normal (spellable_of_read hread) hscope)
  · rintro ⟨n, hscope, rfl⟩
    exact ⟨⟨n.normal, normalize_normal hscope⟩, percent_not_mem_normal hscope⟩

theorem exists_networks (h : ∀ v ∈ vs, PlainForm v) : ∃ ns : List Network, (∀ n ∈ ns, n.scope = none) ∧ vs = ns.map normal := by
  induction vs with
  | nil => exact ⟨[], List.forall_mem_nil _, rfl⟩
  | cons v vs ih =>
    obtain ⟨hv, hvs⟩ := List.forall_mem_cons.mp h
    obtain ⟨n, hn, rfl⟩ := plainForm_iff.mp hv
    obtain ⟨ns, hns, rfl⟩ := ih hvs
    exact ⟨n :: ns, List.forall_mem_cons.mpr ⟨hn, hns⟩, rfl⟩

/-! ## Order -/

/-- The order of lists, strictly: by version, then by first address, then by length. -/
def Precedes (m n : Network) : Prop := Prod.Lex (· < ·) (Prod.Lex (· < ·) (· < ·)) m.key n.key

theorem precedes_iff : Precedes m n ↔ m.family.version < n.family.version ∨
    m.family.version = n.family.version ∧ (m.base < n.base ∨ m.base = n.base ∧ m.length < n.length) := by
  unfold Precedes key
  rw [Prod.lex_def, Prod.lex_def]

theorem precedes_of_le (hscope : m.scope = n.scope) (h : m.le n = true) (hne : m ≠ n) : Precedes m n := by
  rw [precedes_iff]
  rw [le_iff] at h
  by_contra hnot
  have hsame : n.le m = true := by
    rw [le_iff]
    omega
  exact hne (le_antisymm hscope (le_iff.mpr h) hsame)

theorem v4_of_precedes (h : Precedes m n) (hn : n.family = .v4) : m.family = .v4 := by
  rw [precedes_iff, hn] at h
  cases hm : m.family with
  | v4 => rfl
  | v6 => rw [hm] at h; simp [Family.version] at h

variable {ns ms : List Network}

theorem sort_precedes (hnodup : ns.Nodup) (h : ∀ n ∈ ns, n.scope = none) : (Sequence.sort le ns).Pairwise Precedes := by
  have hperm := Sequence.sort_perm le ns
  have hordered := Sequence.sort_pairwise le_trans le_total ns
  refine (hordered.and (hperm.nodup_iff.mpr hnodup)).imp_of_mem ?_
  intro m n hm hn hmn
  exact precedes_of_le ((h m (hperm.mem_iff.mp hm)).trans (h n (hperm.mem_iff.mp hn)).symm) hmn.1 hmn.2

theorem subset_of_texts (hm : ∀ m ∈ ms, m.scope = none) (hn : ∀ n ∈ ns, n.scope = none)
    (h : ∀ t ∈ ms.map normal, t ∈ ns.map normal) : ∀ m ∈ ms, m ∈ ns := by
  intro m hmem
  obtain ⟨n, hnmem, hsame⟩ := List.mem_map.mp (h _ (List.mem_map_of_mem hmem))
  rwa [← normal_injective (spellable_of_unscoped (hn n hnmem)) (spellable_of_unscoped (hm m hmem)) hsame]

/-- Without scope ids, what is sorted depends on the elements only. -/
theorem sort_eraseDups_congr (hn : ∀ n ∈ ns, n.scope = none) (h : ∀ n, n ∈ ms ↔ n ∈ ns) :
    Sequence.sort le ms.eraseDups = Sequence.sort le ns.eraseDups := by
  have hsame : ms.eraseDups.Perm ns.eraseDups := by
    refine (List.perm_ext_iff_of_nodup (nodup_eraseDups ms) (nodup_eraseDups ns)).mpr fun n => ?_
    rw [List.mem_eraseDups, List.mem_eraseDups, h]
  have hperm := (Sequence.sort_perm le ms.eraseDups).trans (hsame.trans (Sequence.sort_perm le ns.eraseDups).symm)
  refine hperm.eq_of_pairwise ?_ (Sequence.sort_pairwise le_trans le_total _) (Sequence.sort_pairwise le_trans le_total _)
  intro a b ha hb
  rw [Sequence.mem_sort, List.mem_eraseDups] at ha hb
  exact le_antisymm ((hn a ((h a).mp ha)).trans (hn b hb).symm)

/-- Texts in normal form without scope ids are sorted strictly by version, first address and length. So IPv4 comes
first and no network occurs twice. The texts are those of the list, whose order and repetitions do not show. -/
theorem sorted_texts_canonical (hvs : ∀ v ∈ vs, PlainForm v) :
    ∃ ts ns, sortTexts vs = .ok ts ∧ List.Forall₂ (fun t n => ∀ n', Denotes t n' ↔ n' = n) ts ns ∧
      ns.Pairwise Precedes ∧ ns.Pairwise (fun m n => n.family = .v4 → m.family = .v4) ∧ ns.Nodup ∧
      (∀ t, t ∈ ts ↔ t ∈ vs) ∧ ∀ ws, (∀ t, t ∈ ws ↔ t ∈ vs) → sortTexts ws = .ok ts := by
  obtain ⟨ns, hns, rfl⟩ := exists_networks hvs
  have hspellable : ∀ n ∈ ns, n.Spellable := fun n hn => spellable_of_unscoped (hns n hn)
  have hmem : ∀ n, n ∈ Sequence.sort le ns.eraseDups ↔ n ∈ ns := by
    intro n
    rw [Sequence.mem_sort, List.mem_eraseDups]
  have hprecedes := sort_precedes (nodup_eraseDups ns) fun n hn => hns n (List.mem_eraseDups.mp hn)
  refine ⟨_, Sequence.sort le ns.eraseDups, sortTexts_normal hspellable, ?_, hprecedes,
    hprecedes.imp v4_of_precedes, (Sequence.sort_perm le _).nodup_iff.mpr (nodup_eraseDups ns), ?_, ?_⟩
  · rw [List.forall₂_map_left_iff, List.forall₂_same]
    intro n hn n'
    have hscope := hns n ((hmem n).mp hn)
    have hdenotes := denotes_normal hscope
    constructor
    · intro hn'
      exact hdenotes.unique (percent_not_mem_normal hscope) hn'
    · rintro rfl
      exact hdenotes
  · intro t
    simp only [List.mem_map, hmem]
  · intro ws hws
    obtain ⟨ms, hms, rfl⟩ := exists_networks fun w hw => hvs w ((hws w).mp hw)
    rw [sortTexts_normal fun m hm => spellable_of_unscoped (hms m hm)]
    refine congrArg (fun out => Except.ok (out.map normal)) (sort_eraseDups_congr hns fun n => ?_)
    exact ⟨subset_of_texts hms hns (fun t => (hws t).mp) n, subset_of_texts hns hms (fun t => (hws t).mpr) n⟩

/-- Both families, a block and its own first address, and one address that is given twice. -/
theorem sorted_texts_canonical_mixed :
    (∀ v ∈ ["2001:db8::", "192.0.2.0", "10.0.0.1", "2001:db8::/32", "192.0.2.0", "192.0.2.0/24"], PlainForm v) ∧
    ∃ ns, List.Forall₂ Denotes ["10.0.0.1", "192.0.2.0/24", "192.0.2.0", "2001:db8::/32", "2001:db8::"] ns ∧
      ns.Pairwise Precedes ∧
      sortTexts ["2001:db8::/32", "2001:db8::", "10.0.0.1", "192.0.2.0", "10.0.0.1", "192.0.2.0/24"]
        = .ok ["10.0.0.1", "192.0.2.0/24", "192.0.2.0", "2001:db8::/32", "2001:db8::"] := by
  have hforms : ∀ v ∈ ["2001:db8::", "192.0.2.0", "10.0.0.1", "2001:db8::/32", "192.0.2.0", "192.0.2.0/24"], PlainForm v := by
    have hfixed : ∀ v ∈ ["2001:db8::", "192.0.2.0", "10.0.0.1", "2001:db8::/32", "192.0.2.0", "192.0.2.0/24"],
        normalize v = .ok v ∧ '%' ∉ v.toList := by decide +kernel
    intro v hv
    exact ⟨⟨v, (hfixed v hv).1⟩, (hfixed v hv).2⟩
  obtain ⟨ts, ns, hsorted, hdenotes, hprecedes, -, -, -, hcongr⟩ := sorted_texts_canonical hforms
  have hread : sortTexts ["2001:db8::", "192.0.2.0", "10.0.0.1", "2001:db8::/32", "192.0.2.0", "192.0.2.0/24"]
      = .ok ["10.0.0.1", "192.0.2.0/24", "192.0.2.0", "2001:db8::/32", "2001:db8::"] := by decide +kernel
  obtain rfl := Except.ok.inj (hsorted.symm.trans hread)
  exact ⟨hforms, ns, hdenotes.imp fun t n h => (h n).mpr rfl, hprecedes, hcongr _ (by simp [or_comm, or_left_comm])⟩

end SenderPolicy.Network
