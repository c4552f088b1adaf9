/-
  SenderPolicy.Proofs.Domain.Alias — the key of a name is no second spelling of a domain.

  A question is put under the normal form of its name, so two keys that differ could still ask for the same
  domain: composing turns the Greek question mark and the Greek grave accent into ASCII, and lowering the
  Kelvin sign. But a key has been composed and lowered before, and holds none of the three. Every other
  character outside ASCII stays outside, so a key that is normalised to an ASCII name is that name.
  - `composeChars_plain`, `composeChars_solid`: what composing leaves out, and what it cannot lose.
  - `normalizeChars_normal`: the characters of a normal form.
  - `eq_of_normalize_key`: a key asks for an ASCII domain only if it is that domain.
-/

import Mathlib.Data.List.Basic
import SenderPolicy.Domain.Name
import SenderPolicy.Proofs.Text.Composing
import SenderPolicy.Proofs.Text.Lowering
import SenderPolicy.Proofs.Text.Words

namespace SenderPolicy.Domain

open Text

/-! ## Characters -/

/-- Outside ASCII, but composed or lowered to an ASCII character. -/
def isSoft (c : Char) : Bool := c.toNat == 0x37e || c.toNat == 0x1fef || c.toNat == 0x212a

def isPlain (c : Char) : Bool := !isBlank c && !isSoft c

/-- Outside ASCII, whatever is done to it. -/
def isSolid (c : Char) : Bool := 128 ≤ c.toNat && isPlain c && !isZeroWidth c

/-- In normal form. -/
def isNormal (c : Char) : Bool := isPlain c && !isZeroWidth c && !c.isUpper

theorem isSolid_of_jamo {n : Nat} (h : 0x1100 ≤ n) (h' : n < 0x1200) : isSolid (Char.ofNat n) = true := by
  have hall : ∀ k < 0x100, isSolid (Char.ofNat (0x1100 + k)) = true := by decide +kernel
  have := hall (n - 0x1100) (by omega)
  rwa [Nat.add_sub_cancel' h] at this

theorem isSolid_of_syllable {n : Nat} (h : Hangul.isSyllable n = true) : isSolid (Char.ofNat n) = true := by
  rw [isSyllable_iff] at h
  have ht : (Char.ofNat n).toNat = n := toNat_ofNat (Or.inl (by omega))
  simp only [isSolid, isPlain, isSoft, isBlank, isZeroWidth, ht, Bool.and_eq_true, Bool.not_eq_true', Bool.or_eq_false_iff,
    Bool.and_eq_false_iff, decide_eq_true_eq, decide_eq_false_iff_not, beq_eq_false_iff_ne]
  omega

theorem isSolid_of_plain {c : Char} (h : isPlain c = true) (hz : isZeroWidth c = false) (hc : 128 ≤ c.toNat) :
    isSolid c = true := by
  simp [isSolid, h, hz, hc]

theorem isPlain_of_solid {c : Char} (h : isSolid c = true) : isPlain c = true := by
  simp only [isSolid, Bool.and_eq_true] at h
  exact h.1.2

theorem isBlank_of_plain {c : Char} (h : isPlain c = true) : isBlank c = false := by
  simp only [isPlain, Bool.and_eq_true, Bool.not_eq_true'] at h
  exact h.1

/-! ## The tables -/

/-- A decomposition holds nothing soft, a blank only for a blank, and something solid for whatever is neither. -/
def decomposesWell (e : Nat × List Nat) : Bool :=
  let c := Char.ofNat e.1
  let parts := e.2.map Char.ofNat
  parts.all (fun p => !isSoft p && (!isBlank p || isBlank c)) && (parts.any isSolid || !isPlain c)

/-- Lowering gives characters in normal form, and stays outside ASCII but for what is soft. -/
def lowersWell (e : Nat × List Nat) : Bool :=
  let parts := e.2.map Char.ofNat
  parts.all isNormal && (parts.any (128 ≤ ·.toNat) || isSoft (Char.ofNat e.1))

/-- What is soft decomposes, and what two characters compose to is solid. -/
theorem tables_well :
    decompositions.all decomposesWell = true ∧ (∀ n ∈ [0x37e, 0x1fef, 0x212a], n ∈ decompositions.map (·.1)) ∧
      compositions.all (fun e => isSolid (Char.ofNat e.1)) = true ∧ lowerCases.all lowersWell = true := by
  decide +kernel

theorem decompositions_well : ∀ e ∈ decompositions, decomposesWell e = true := List.all_eq_true.mp tables_well.1

theorem soft_decomposes : ∀ n ∈ [0x37e, 0x1fef, 0x212a], n ∈ decompositions.map (·.1) := tables_well.2.1

theorem compositions_solid : ∀ e ∈ compositions, isSolid (Char.ofNat e.1) = true := List.all_eq_true.mp tables_well.2.2.1

theorem lowerCases_well : ∀ e ∈ lowerCases, lowersWell e = true := List.all_eq_true.mp tables_well.2.2.2

/-! ## Decomposing -/

theorem hangul_decompose_solid {n : Nat} (h : Hangul.isSyllable n = true) :
    Hangul.decompose n ≠ [] ∧ ∀ p ∈ Hangul.decompose n, isSolid p = true := by
  obtain ⟨hne, hjamo⟩ := hangul_decompose_jamo h
  refine ⟨hne, fun p hp => ?_⟩
  rw [← Char.ofNat_toNat p]
  exact isSolid_of_jamo (hjamo p hp).1 (hjamo p hp).2

/-- What does not decompose is not soft. -/
theorem isSoft_of_whole {c : Char} (h : c.toNat < 0xc0 ∨ c.toNat ∉ decompositions.map (·.1)) : isSoft c = false := by
  rw [Bool.eq_false_iff]
  intro hsoft
  have hmem : c.toNat ∈ [0x37e, 0x1fef, 0x212a] := by simpa [isSoft, or_assoc] using hsoft
  rcases h with hlow | hwhole
  · simp only [List.mem_cons, List.not_mem_nil, or_false] at hmem
    omega
  · exact hwhole (soft_decomposes c.toNat hmem)

theorem decomposeChar_plain {c : Char} (h : isBlank c = false) : ∀ p ∈ decomposeChar c, isPlain p = true := by
  rcases decomposeChar_cases c with ⟨e, he, hkey, hparts⟩ | ⟨hs, hparts⟩ | ⟨hwhole, hparts⟩ <;> rw [hparts]
  · have hwell := decompositions_well e he
    simp only [decomposesWell, hkey, Char.ofNat_toNat, Bool.and_eq_true, List.all_eq_true] at hwell
    intro p hp
    have := hwell.1 p hp
    simp only [h, Bool.or_false, Bool.not_eq_true'] at this
    simp [isPlain, this.1, this.2]
  · exact fun p hp => isPlain_of_solid ((hangul_decompose_solid hs).2 p hp)
  · simp [isPlain, h, isSoft_of_whole hwhole]

theorem decomposeChar_solid {c : Char} (h : isSolid c = true) : ∃ p ∈ decomposeChar c, isSolid p = true := by
  rcases decomposeChar_cases c with ⟨e, he, hkey, hparts⟩ | ⟨hs, hparts⟩ | ⟨-, hparts⟩ <;> rw [hparts]
  · have hwell := decompositions_well e he
    simp only [decomposesWell, hkey, Char.ofNat_toNat, isPlain_of_solid h, Bool.and_eq_true, Bool.not_true, Bool.or_false,
      List.any_eq_true] at hwell
    exact hwell.2
  · obtain ⟨hne, hall⟩ := hangul_decompose_solid hs
    obtain ⟨p, hp⟩ := List.exists_mem_of_ne_nil _ hne
    exact ⟨p, hp, hall p hp⟩
  · exact ⟨c, List.mem_singleton_self c, h⟩

/-! ## Composing -/

theorem hangul_compose_solid {a b : Nat} {c : Char} (h : Hangul.compose? a b = some c) : isSolid c = true := by
  rw [← Char.ofNat_toNat c]
  exact isSolid_of_syllable (hangul_compose_syllable h).2.2

/-- What two characters compose to is solid. -/
theorem composePair?_solid {a b c : Char} (h : composePair? a b = some c) : isSolid c = true := by
  rcases composePair?_cases h with hh | ⟨e, he, -, rfl⟩
  · exact hangul_compose_solid hh
  · exact compositions_solid e he

variable {cs : List Char}

theorem composeChars_plain (h : ∀ c ∈ cs, isBlank c = false) : ∀ c ∈ composeChars cs, isPlain c = true := by
  unfold composeChars
  split
  · rename_i hlow
    intro c hc
    have hsoft : isSoft c = false := by
      have := List.all_eq_true.mp hlow c hc
      simp only [decide_eq_true_eq] at this
      simp only [isSoft, Bool.or_eq_false_iff, beq_eq_false_iff_ne]
      omega
    simp [isPlain, h c hc, hsoft]
  · refine composeOrdered_all (fun _ _ _ _ _ hc => isPlain_of_solid (composePair?_solid hc)) fun c hc => ?_
    rw [List.mem_reverse, mem_orderReversed, List.mem_flatMap] at hc
    obtain ⟨d, hd, hc⟩ := hc
    exact decomposeChar_plain (h d hd) c hc

theorem composeChars_solid (h : ∃ c ∈ cs, isSolid c = true) : ∃ c ∈ composeChars cs, isSolid c = true :=
  composeChars_any (fun _ => decomposeChar_solid) (fun _ _ _ => composePair?_solid) h

/-! ## Lowering -/

theorem ascii_toLower : ∀ n < 128, isBlank (Char.ofNat n) = false → isNormal (Char.ofNat n).toLower = true := by decide

theorem ascii_normal : ∀ n < 128, isNormal (Char.ofNat n) = true → (Char.ofNat n).toLower = Char.ofNat n := by decide

theorem lowerChar_normal {c : Char} (h : isPlain c = true) (hz : isZeroWidth c = false) :
    ∀ d ∈ lowerChar c, isNormal d = true := by
  rcases lowerChar_cases c with ⟨hc, hlower⟩ | ⟨hc, ⟨e, he, -, hlower⟩ | ⟨-, hlower⟩⟩ <;> rw [hlower]
  · have := ascii_toLower c.toNat hc
    rw [Char.ofNat_toNat] at this
    simpa using this (isBlank_of_plain h)
  · have hwell := lowerCases_well e he
    simp only [lowersWell, Bool.and_eq_true, List.all_eq_true] at hwell
    exact hwell.1
  · have hupper : c.isUpper = false := by
      have hval : c.val.toNat = c.toNat := rfl
      have hz : 'Z'.val.toNat = 90 := rfl
      show decide (c.val ≥ 'A'.val ∧ c.val ≤ 'Z'.val) = false
      simp only [decide_eq_false_iff_not, UInt32.le_iff_toNat_le]
      omega
    simp [isNormal, h, hz, hupper]

theorem lowerChar_solid {c : Char} (h : isSolid c = true) : ∃ d ∈ lowerChar c, 128 ≤ d.toNat := by
  have hlarge : 128 ≤ c.toNat ∧ isSoft c = false := by
    simp only [isSolid, isPlain, Bool.and_eq_true, Bool.not_eq_true', decide_eq_true_eq] at h
    exact ⟨h.1.1, h.1.2.2⟩
  rcases lowerChar_cases c with ⟨hc, -⟩ | ⟨-, ⟨e, he, hkey, hlower⟩ | ⟨-, hlower⟩⟩
  · omega
  · have hwell := lowerCases_well e he
    simp only [lowersWell, hkey, Char.ofNat_toNat, hlarge.2, Bool.or_false, Bool.and_eq_true, List.any_eq_true,
      decide_eq_true_eq] at hwell
    rw [hlower]
    exact hwell.2
  · exact ⟨c, by rw [hlower]; exact List.mem_singleton_self c, hlarge.1⟩

theorem sigmas : isNormal 'ς' = true ∧ isNormal 'σ' = true ∧ 128 ≤ 'ς'.toNat ∧ 128 ≤ 'σ'.toNat := by decide

theorem lowerFrom_normal {before : List Char} (h : ∀ c ∈ cs, isPlain c = true ∧ isZeroWidth c = false) :
    ∀ d ∈ lowerFrom before cs, isNormal d = true := by
  induction cs generalizing before with
  | nil => simp [lowerFrom]
  | cons c cs ih =>
    intro d hd
    obtain ⟨hp, hz⟩ := h c List.mem_cons_self
    rcases List.mem_append.mp hd with hd | hd
    · split at hd
      · rw [List.mem_singleton.mp hd]
        split
        · exact sigmas.1
        · exact sigmas.2.1
      · exact lowerChar_normal hp hz d hd
    · exact ih (fun e he => h e (List.mem_cons_of_mem _ he)) d hd

theorem lowerFrom_solid {before : List Char} (h : ∃ c ∈ cs, isSolid c = true) :
    ∃ d ∈ lowerFrom before cs, 128 ≤ d.toNat := by
  induction cs generalizing before with
  | nil => simp at h
  | cons c cs ih =>
    obtain ⟨e, he, hsolid⟩ := h
    unfold lowerFrom
    dsimp only
    rcases List.mem_cons.mp he with rfl | he
    · split
      · refine ⟨_, List.mem_append_left _ (List.mem_singleton_self _), ?_⟩
        split
        · exact sigmas.2.2.1
        · exact sigmas.2.2.2
      · obtain ⟨d, hd, hlarge⟩ := lowerChar_solid hsolid
        exact ⟨d, List.mem_append_left _ hd, hlarge⟩
    · obtain ⟨d, hd, hlarge⟩ := ih ⟨e, he, hsolid⟩
      exact ⟨d, List.mem_append_right _ hd, hlarge⟩

/-! ## Normal forms -/

theorem mem_dropWhile {p : Char → Bool} {c : Char} (h : c ∈ cs) (hp : p c = false) : c ∈ cs.dropWhile p := by
  rw [← List.takeWhile_append_dropWhile (p := p) (l := cs)] at h
  rcases List.mem_append.mp h with h | h
  · exact absurd (List.all_eq_true.mp List.all_takeWhile c h) (by simp [hp])
  · exact h

/-- Trimming takes away only what it is meant to. -/
theorem mem_trim {p : Char → Bool} {c : Char} (h : c ∈ cs) (hp : p c = false) : c ∈ trim p cs := by
  unfold trim trimEnd
  rw [List.mem_reverse]
  exact mem_dropWhile (List.mem_reverse.mpr (mem_dropWhile h hp)) hp

theorem normalizeChars_normal (h : ∀ c ∈ cs, isBlank c = false) : ∀ c ∈ normalizeChars cs, isNormal c = true := by
  refine lowerFrom_normal fun c hc => ?_
  obtain ⟨hc, hz⟩ := List.mem_filter.mp ((trim_sublist _ _).subset hc)
  exact ⟨composeChars_plain h c hc, by simpa using hz⟩

theorem normalizeChars_solid (h : ∃ c ∈ cs, isSolid c = true) : ∃ c ∈ normalizeChars cs, 128 ≤ c.toNat := by
  obtain ⟨c, hc, hsolid⟩ := composeChars_solid h
  have hz : isZeroWidth c = false := by
    simp only [isSolid, Bool.and_eq_true, Bool.not_eq_true'] at hsolid
    exact hsolid.2
  refine lowerFrom_solid ⟨c, mem_trim (List.mem_filter.mpr ⟨hc, by simp [hz]⟩) ?_, hsolid⟩
  exact isBlank_of_plain (isPlain_of_solid hsolid)

/-- A text of ASCII is trimmed and lowered, and nothing else. -/
theorem normalizeChars_ascii (h : ∀ c ∈ cs, c.toNat < 128) : normalizeChars cs = (trim isBlank cs).map Char.toLower := by
  have hcompose : composeChars cs = cs := by
    have : cs.all (·.toNat < 0x300) = true := List.all_eq_true.mpr fun c hc => by
      have := h c hc
      simp only [decide_eq_true_eq]
      omega
    simp [composeChars, this]
  have hfilter : cs.filter (!isZeroWidth ·) = cs := List.filter_eq_self.mpr fun c hc => by
    have := h c hc
    simp only [isZeroWidth, Bool.not_eq_true', Bool.or_eq_false_iff, Bool.and_eq_false_iff, decide_eq_false_iff_not,
      beq_eq_false_iff_ne]
    omega
  rw [normalizeChars, hcompose, hfilter]
  exact lowerChars_ascii fun c hc => h c ((trim_sublist _ _).subset hc)

/-- What is in normal form is normalised to ASCII only if it is ASCII, and then it stays as it is. -/
theorem normalizeChars_self (h : ∀ c ∈ cs, isNormal c = true) (hascii : ∀ c ∈ normalizeChars cs, c.toNat < 128) :
    normalizeChars cs = cs := by
  have hall : ∀ c ∈ cs, isPlain c = true ∧ isZeroWidth c = false := by
    intro c hc
    have := h c hc
    simp only [isNormal, Bool.and_eq_true, Bool.not_eq_true'] at this
    exact this.1
  have hlow : ∀ c ∈ cs, c.toNat < 128 := by
    intro c hc
    by_contra hlarge
    obtain ⟨hp, hz⟩ := hall c hc
    obtain ⟨d, hd, hd'⟩ := normalizeChars_solid ⟨c, hc, isSolid_of_plain hp hz (by omega)⟩
    have := hascii d hd
    omega
  rw [normalizeChars_ascii hlow, trim_of_forall fun c hc => isBlank_of_plain (hall c hc).1]
  have hlower : ∀ c ∈ cs, c.toLower = c := by
    intro c hc
    have := ascii_normal c.toNat (hlow c hc)
    rw [Char.ofNat_toNat] at this
    exact this (h c hc)
  rw [List.map_congr_left hlower, List.map_id']

/-! ## Keys -/

variable {name domain : String}

theorem key_normal (h : ∀ c ∈ name.toList, isBlank c = false) : ∀ c ∈ (key name).toList, isNormal c = true := by
  intro c hc
  unfold key dropDots normalize at hc
  rw [String.toList_ofList, String.toList_ofList] at hc
  exact normalizeChars_normal h c ((trimEnd_sublist _ _).subset hc)

theorem isBlank_of_normal {c : Char} (h : isNormal c = true) : isBlank c = false := by
  simp only [isNormal, Bool.and_eq_true] at h
  exact isBlank_of_plain h.1.1

/-- The key of a text without blanks asks for an ASCII domain only if it is that domain. -/
theorem eq_of_normalize_key (h : ∀ c ∈ name.toList, isBlank c = false) (hascii : ∀ c ∈ domain.toList, c.toNat < 128)
    (he : normalize (key name) = domain) : key name = domain := by
  have hself : normalizeChars (key name).toList = (key name).toList := by
    refine normalizeChars_self (key_normal h) fun c hc => hascii c ?_
    rw [← he, normalize, String.toList_ofList]
    exact hc
  rw [normalize, hself, String.ofList_toList] at he
  exact he

/-- An ASCII domain that is its own key is in normal form. -/
theorem normalize_of_key (hascii : ∀ c ∈ domain.toList, c.toNat < 128) (hkey : key domain = domain) :
    normalize domain = domain := by
  have hchars := normalizeChars_ascii hascii
  have hshort : (normalizeChars domain.toList).length ≤ domain.toList.length := by
    rw [hchars, List.length_map]
    exact (trim_sublist _ _).length_le
  have hsub : domain.toList.Sublist (normalizeChars domain.toList) := by
    have hs := trimEnd_sublist (· == '.') (normalizeChars domain.toList)
    have hk : trimEnd (· == '.') (normalizeChars domain.toList) = domain.toList := by
      have := congrArg String.toList hkey
      rwa [key, dropDots, normalize, String.toList_ofList, String.toList_ofList] at this
    rwa [hk] at hs
  rw [normalize, ← hsub.eq_of_length_le hshort, String.ofList_toList]

end SenderPolicy.Domain
