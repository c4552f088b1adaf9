/-
  SenderPolicy.Proofs.Text.Composing — what a composed text is made of.

  A text is decomposed character by character, by the table or, for Hangul, by arithmetic; the characters are put in
  canonical order, and those that have a character for both join the starter before them. So a property that parts and
  compositions inherit is kept, one that every composition has is not lost, and characters that take part in no
  composition are as many before as after.
  - `decomposeChar_cases`, `composePair?_cases`, `composeFrom_cons`: what one step does.
  - `composeChars_all`, `composeChars_any`: what is kept, and what is not lost.
  - `countP_composeChars`: characters that never compose.
-/

import Mathlib.Data.List.Basic
import SenderPolicy.Text.Compose

namespace SenderPolicy.Text

variable {a b c starter d : Char} {kept cs ds : List Char} {p : Char → Prop} {q : Char → Bool}

/-! ## Hangul -/

theorem isSyllable_iff {n : Nat} : Hangul.isSyllable n = true ↔ 0xac00 ≤ n ∧ n < 0xac00 + 11172 := by
  rw [Hangul.isSyllable, Bool.and_eq_true, decide_eq_true_eq, decide_eq_true_eq]
  rfl

theorem toNat_ofNat {n : Nat} (h : n.isValidChar) : (Char.ofNat n).toNat = n := by
  rw [Char.ofNat, dif_pos h]
  rfl

/-- A syllable decomposes into letters. -/
theorem hangul_decompose_jamo {n : Nat} (h : Hangul.isSyllable n = true) :
    Hangul.decompose n ≠ [] ∧ ∀ p ∈ Hangul.decompose n, 0x1100 ≤ p.toNat ∧ p.toNat < 0x1200 := by
  rw [isSyllable_iff] at h
  have hjamo : ∀ base k, 0x1100 ≤ base → base + k < 0x1200 →
      0x1100 ≤ (Char.ofNat (base + k)).toNat ∧ (Char.ofNat (base + k)).toNat < 0x1200 := by
    intro base k hbase hk
    rw [toNat_ofNat (Or.inl (by omega))]
    omega
  have hlead := hjamo 0x1100 ((n - 0xac00) / (21 * 28)) (by omega) (by omega)
  have hvowel := hjamo 0x1161 ((n - 0xac00) % (21 * 28) / 28) (by omega) (by omega)
  have htail := hjamo 0x11a7 ((n - 0xac00) % 28) (by omega) (by omega)
  unfold Hangul.decompose
  dsimp only
  split
  · refine ⟨List.cons_ne_nil _ _, fun p hp => ?_⟩
    rcases List.mem_cons.mp hp with rfl | hp
    · exact hlead
    · exact List.mem_singleton.mp hp ▸ hvowel
  · refine ⟨List.cons_ne_nil _ _, fun p hp => ?_⟩
    rcases List.mem_cons.mp hp with rfl | hp
    · exact hlead
    · rcases List.mem_cons.mp hp with rfl | hp
      · exact hvowel
      · exact List.mem_singleton.mp hp ▸ htail

/-- A letter, or a syllable, and a letter compose to a syllable. -/
theorem hangul_compose_syllable {a b : Nat} {c : Char} (h : Hangul.compose? a b = some c) :
    (0x1100 ≤ a ∧ a < 0x1200 ∨ Hangul.isSyllable a = true) ∧ (0x1100 ≤ b ∧ b < 0x1200) ∧ Hangul.isSyllable c.toNat = true := by
  unfold Hangul.compose? at h
  split at h
  · rename_i hr
    simp only [Bool.and_eq_true, decide_eq_true_eq] at hr
    obtain rfl := Option.some.inj h
    simp only [Hangul.syllableBase, Hangul.leadBase, Hangul.vowelBase, Hangul.leads, Hangul.vowels, Hangul.tails] at hr ⊢
    rw [toNat_ofNat (Or.inl (by omega)), isSyllable_iff, isSyllable_iff]
    omega
  · split at h
    · rename_i hr
      simp only [Bool.and_eq_true, decide_eq_true_eq, beq_iff_eq, isSyllable_iff] at hr
      obtain rfl := Option.some.inj h
      simp only [Hangul.syllableBase, Hangul.tailBase, Hangul.tails] at hr ⊢
      rw [toNat_ofNat (Or.inl (by omega)), isSyllable_iff, isSyllable_iff]
      omega
    · cases h

/-! ## One character, and two -/

/-- A character decomposes by the table, as a syllable, or not at all. -/
theorem decomposeChar_cases (c : Char) :
    (∃ e ∈ decompositions, e.1 = c.toNat ∧ decomposeChar c = e.2.map Char.ofNat) ∨
      (Hangul.isSyllable c.toNat = true ∧ decomposeChar c = Hangul.decompose c.toNat) ∨
        (c.toNat < 0xc0 ∨ c.toNat ∉ decompositions.map (·.1)) ∧ decomposeChar c = [c] := by
  unfold decomposeChar
  by_cases hlow : c.toNat < 0xc0
  · rw [if_pos hlow]
    exact Or.inr (Or.inr ⟨Or.inl hlow, rfl⟩)
  rw [if_neg hlow]
  by_cases hsyllable : Hangul.isSyllable c.toNat = true
  · rw [if_pos hsyllable]
    exact Or.inr (Or.inl ⟨hsyllable, rfl⟩)
  rw [if_neg hsyllable]
  cases hf : decompositionTable.find? (·.1 == c.toNat) with
  | some e =>
    obtain ⟨e', he', rfl⟩ := List.mem_map.mp (List.mem_of_find?_eq_some hf)
    have hkey : e'.1 = c.toNat := beq_iff_eq.mp (List.find?_some (p := fun e : Nat × List Char => e.1 == c.toNat) hf)
    exact Or.inl ⟨e', he', hkey, rfl⟩
  | none =>
    refine Or.inr (Or.inr ⟨Or.inr fun hm => ?_, rfl⟩)
    obtain ⟨e, he, hkey⟩ := List.mem_map.mp hm
    exact List.find?_eq_none.mp hf (e.1, e.2.map Char.ofNat) (List.mem_map.mpr ⟨e, he, rfl⟩) (beq_iff_eq.mpr hkey)

/-- Two characters compose as Hangul, or by the table. -/
theorem composePair?_cases (h : composePair? a b = some c) :
    Hangul.compose? a.toNat b.toNat = some c ∨ ∃ e ∈ compositions, e.2.map Char.ofNat = [a, b] ∧ Char.ofNat e.1 = c := by
  unfold composePair? at h
  cases hh : Hangul.compose? a.toNat b.toNat with
  | some d =>
    rw [hh] at h
    exact Or.inl h
  | none =>
    rw [hh] at h
    obtain ⟨e, he, hjoined⟩ := Option.map_eq_some_iff.mp h
    obtain ⟨e', he', rfl⟩ := List.mem_map.mp (List.mem_of_find?_eq_some he)
    have hpair : e'.2.map Char.ofNat = [a, b] :=
      beq_iff_eq.mp (List.find?_some (p := fun e : Nat × List Char => e.2 == [a, b]) he)
    exact Or.inr ⟨e', he', hpair, hjoined⟩

/-! ## Canonical order -/

theorem insertMark_perm (c : Char) (ds : List Char) : (insertMark c ds).Perm (c :: ds) := by
  induction ds with
  | nil => exact List.Perm.refl _
  | cons e es ih =>
    unfold insertMark
    split
    · exact (ih.cons e).trans (List.Perm.swap c e es)
    · exact List.Perm.refl _

/-- Canonical order moves characters, and no more. -/
theorem orderReversed_perm (cs : List Char) : (orderReversed cs).Perm cs := by
  have h : ∀ acc : List Char, (cs.foldl (fun acc c => insertMark c acc) acc).Perm (cs ++ acc) := by
    induction cs with
    | nil => exact fun acc => List.Perm.refl acc
    | cons d ds ih =>
      intro acc
      rw [List.foldl_cons]
      exact (ih _).trans (((insertMark_perm d acc).append_left ds).trans List.perm_middle)
  simpa [orderReversed] using h []

theorem mem_orderReversed {c : Char} {cs : List Char} : c ∈ orderReversed cs ↔ c ∈ cs := (orderReversed_perm cs).mem_iff

/-! ## Composing -/

/-- A character joins the starter, becomes the next one, or is kept behind it. -/
theorem composeFrom_cons (starter d : Char) (kept ds : List Char) :
    (∃ joined, composePair? starter d = some joined ∧ composeFrom starter kept (d :: ds) = composeFrom joined kept ds) ∨
      composeFrom starter kept (d :: ds) = starter :: (kept.reverse ++ composeFrom d [] ds) ∨
        composeFrom starter kept (d :: ds) = composeFrom starter (d :: kept) ds := by
  obtain ⟨blocked, he⟩ : ∃ blocked : Bool, composeFrom starter kept (d :: ds) =
      (if blocked then none else composePair? starter d).elim
        (if combiningClass d == 0 then starter :: kept.reverse ++ composeFrom d [] ds
          else composeFrom starter (d :: kept) ds)
        fun joined => composeFrom joined kept ds := by
    cases kept with
    | nil =>
      refine ⟨false, ?_⟩
      rw [composeFrom]
      generalize (if false = true then none else composePair? starter d) = joined
      cases joined <;> rfl
    | cons k _ =>
      refine ⟨combiningClass k ≥ combiningClass d, ?_⟩
      rw [composeFrom]
      generalize (if decide (combiningClass k ≥ combiningClass d) = true then none else composePair? starter d) = joined
      cases joined <;> rfl
  have hnone : (if combiningClass d == 0 then starter :: kept.reverse ++ composeFrom d [] ds
      else composeFrom starter (d :: kept) ds) = starter :: (kept.reverse ++ composeFrom d [] ds) ∨
        (if combiningClass d == 0 then starter :: kept.reverse ++ composeFrom d [] ds
          else composeFrom starter (d :: kept) ds) = composeFrom starter (d :: kept) ds := by
    split
    · exact Or.inl rfl
    · exact Or.inr rfl
  rw [he]
  cases blocked with
  | true => exact Or.inr hnone
  | false =>
    rw [if_neg Bool.false_ne_true]
    cases composePair? starter d with
    | some joined => exact Or.inl ⟨joined, rfl, rfl⟩
    | none => exact Or.inr hnone

/-- What two characters have and what they compose to has as well is kept in composing. -/
theorem composeFrom_all (hp : ∀ a b c, p a → p b → composePair? a b = some c → p c) (hs : p starter) (hk : ∀ c ∈ kept, p c)
    (h : ∀ c ∈ cs, p c) : ∀ c ∈ composeFrom starter kept cs, p c := by
  induction cs generalizing starter kept with
  | nil =>
    intro c hc
    rcases List.mem_cons.mp hc with rfl | hc
    · exact hs
    · exact hk c (List.mem_reverse.mp hc)
  | cons d ds ih =>
    have hd := h d List.mem_cons_self
    have hds : ∀ c ∈ ds, p c := fun c hc => h c (List.mem_cons_of_mem _ hc)
    rcases composeFrom_cons starter d kept ds with ⟨joined, hj, he⟩ | he | he <;> rw [he]
    · exact ih (hp _ _ _ hs hd hj) hk hds
    · intro c hc
      rcases List.mem_cons.mp hc with rfl | hc
      · exact hs
      · rcases List.mem_append.mp hc with hc | hc
        · exact hk c (List.mem_reverse.mp hc)
        · exact ih hd (List.forall_mem_nil p) hds c hc
    · exact ih hs (List.forall_mem_cons.mpr ⟨hd, hk⟩) hds

/-- What every composition has is not lost in composing. -/
theorem composeFrom_any (hp : ∀ a b c, composePair? a b = some c → p c)
    (h : p starter ∨ (∃ c ∈ kept, p c) ∨ ∃ c ∈ cs, p c) : ∃ c ∈ composeFrom starter kept cs, p c := by
  induction cs generalizing starter kept with
  | nil =>
    rcases h with h | ⟨c, hc, hpc⟩ | ⟨c, hc, _⟩
    · exact ⟨starter, List.mem_cons_self, h⟩
    · exact ⟨c, List.mem_cons_of_mem _ (List.mem_reverse.mpr hc), hpc⟩
    · cases hc
  | cons d ds ih =>
    rw [List.exists_mem_cons_iff] at h
    rcases composeFrom_cons starter d kept ds with ⟨joined, hj, he⟩ | he | he <;> rw [he]
    · exact ih (Or.inl (hp _ _ _ hj))
    · rcases h with h | ⟨c, hc, hpc⟩ | h
      · exact ⟨starter, List.mem_cons_self, h⟩
      · exact ⟨c, List.mem_cons_of_mem _ (List.mem_append_left _ (List.mem_reverse.mpr hc)), hpc⟩
      · obtain ⟨c, hc, hpc⟩ := @ih d [] (h.elim Or.inl fun h => Or.inr (Or.inr h))
        exact ⟨c, List.mem_cons_of_mem _ (List.mem_append_right _ hc), hpc⟩
    · refine ih ?_
      rw [List.exists_mem_cons_iff]
      rcases h with h | h | h | h
      · exact Or.inl h
      · exact Or.inr (Or.inl (Or.inr h))
      · exact Or.inr (Or.inl (Or.inl h))
      · exact Or.inr (Or.inr h)

theorem composeOrdered_all (hp : ∀ a b c, p a → p b → composePair? a b = some c → p c) (h : ∀ c ∈ cs, p c) :
    ∀ c ∈ composeOrdered cs, p c := by
  induction cs with
  | nil => exact h
  | cons d ds ih =>
    obtain ⟨hd, hds⟩ := List.forall_mem_cons.mp h
    unfold composeOrdered
    split
    · exact composeFrom_all hp hd (List.forall_mem_nil p) hds
    · exact List.forall_mem_cons.mpr ⟨hd, ih hds⟩

theorem composeOrdered_any (hp : ∀ a b c, composePair? a b = some c → p c) (h : ∃ c ∈ cs, p c) :
    ∃ c ∈ composeOrdered cs, p c := by
  induction cs with
  | nil => exact h
  | cons d ds ih =>
    rw [List.exists_mem_cons_iff] at h
    unfold composeOrdered
    split
    · exact composeFrom_any hp (h.elim Or.inl fun h => Or.inr (Or.inr h))
    · exact (List.exists_mem_cons_iff ..).mpr (h.imp id ih)

/-- A property of characters that their parts and what they compose to have as well. -/
theorem composeChars_all (hd : ∀ c, p c → ∀ d ∈ decomposeChar c, p d)
    (hp : ∀ a b c, p a → p b → composePair? a b = some c → p c) (h : ∀ c ∈ cs, p c) : ∀ c ∈ composeChars cs, p c := by
  unfold composeChars
  split
  · exact h
  · refine composeOrdered_all hp fun c hc => ?_
    rw [List.mem_reverse, mem_orderReversed, List.mem_flatMap] at hc
    obtain ⟨d, hmem, hc⟩ := hc
    exact hd d (h d hmem) c hc

/-- A property that every composition has, and a part of whatever has it. -/
theorem composeChars_any (hd : ∀ c, p c → ∃ d ∈ decomposeChar c, p d) (hp : ∀ a b c, composePair? a b = some c → p c)
    (h : ∃ c ∈ cs, p c) : ∃ c ∈ composeChars cs, p c := by
  unfold composeChars
  split
  · exact h
  · obtain ⟨c, hc, hpc⟩ := h
    obtain ⟨d, hmem, hpd⟩ := hd c hpc
    refine composeOrdered_any hp ⟨d, ?_, hpd⟩
    rw [List.mem_reverse, mem_orderReversed, List.mem_flatMap]
    exact ⟨c, hc, hmem⟩

/-! ## Characters apart -/

/-- That these characters compose with no others, and others do not compose to them. -/
def NeverCompose (q : Char → Bool) : Prop :=
  ∀ a b joined, composePair? a b = some joined → q a = false ∧ q b = false ∧ q joined = false

theorem countP_composeFrom (hq : NeverCompose q) :
    (composeFrom starter kept cs).countP q = (starter :: (kept ++ cs)).countP q := by
  induction cs generalizing starter kept with
  | nil => rw [composeFrom, List.append_nil, List.countP_cons, List.countP_cons, List.countP_reverse]
  | cons d ds ih =>
    rcases composeFrom_cons starter d kept ds with ⟨joined, hjoined, he⟩ | he | he
    · obtain ⟨hstarter, hd, hjoined⟩ := hq _ _ _ hjoined
      rw [he, ih]
      simp [List.countP_append, hstarter, hd, hjoined]
    · rw [he, List.countP_cons, List.countP_append, List.countP_reverse, ih]
      simp [List.countP_cons, List.countP_append]
    · rw [he, ih]
      simp only [List.countP_cons, List.countP_append]
      omega

theorem countP_composeOrdered (hq : NeverCompose q) : (composeOrdered cs).countP q = cs.countP q := by
  induction cs with
  | nil => rfl
  | cons d ds ih =>
    unfold composeOrdered
    split
    · rw [countP_composeFrom hq, List.nil_append]
    · rw [List.countP_cons, List.countP_cons, ih]

/-- Characters apart that are no more and no fewer when they are decomposed are so when a text is composed. -/
theorem countP_composeChars (hq : NeverCompose q) (hd : ∀ c, (decomposeChar c).countP q = [c].countP q) :
    (composeChars cs).countP q = cs.countP q := by
  have hdecomposed : (cs.flatMap decomposeChar).countP q = cs.countP q := by
    induction cs with
    | nil => rfl
    | cons c cs ih => rw [List.flatMap_cons, List.countP_append, hd, ih, ← List.countP_append, List.singleton_append]
  unfold composeChars
  split
  · rfl
  · rw [countP_composeOrdered hq, List.countP_reverse, (orderReversed_perm _).countP_eq, hdecomposed]

end SenderPolicy.Text
