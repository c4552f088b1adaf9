/-
  SenderPolicy.Proofs.Domain.Percent — the percent sign in a name.

  A percent sign is no part of any decomposition, joins no mark and has no case, and it is neither blank nor a dot. So
  it is in the normal form of a name and in its key if it is in the name, and nothing else becomes one.
  - `percent_mem_composeChars`: it takes part in no composition.
  - `percent_mem_normalize`, `percent_mem_key`: names and their normal forms.
-/

import Mathlib.Logic.Function.Iterate
import SenderPolicy.Proofs.Domain.Alias

namespace SenderPolicy.Domain

open Text

/-! ## Composing -/

variable {x c : Char} {cs before : List Char} {name : String}

/-- That no two characters with this one among them compose, and none compose to it. -/
def Apart (x : Char) : Prop := ∀ a b joined, composePair? a b = some joined → x ≠ a ∧ x ≠ b ∧ x ≠ joined

theorem Apart.neverCompose (hx : Apart x) : NeverCompose (· == x) := by
  intro a b joined h
  obtain ⟨ha, hb, hjoined⟩ := hx a b joined h
  exact ⟨beq_false_of_ne ha.symm, beq_false_of_ne hb.symm, beq_false_of_ne hjoined.symm⟩

/-- That a character stands for others of which none is a percent sign. -/
def LacksPercent (e : Nat × List Nat) : Prop := '%' ∉ e.2.map Char.ofNat

/-- The tables are searched for the code of the percent sign, and not for the character. -/
theorem lacksPercent_of_codes {table : List (Nat × List Nat)} (h : table.all (fun e => e.2.all (· != 37)) = true) :
    ∀ e ∈ table, LacksPercent e := by
  intro e he hmem
  obtain ⟨n, hn, hpercent⟩ := List.mem_map.mp hmem
  have hcode : n ≠ 37 := bne_iff_ne.mp (List.all_eq_true.mp (List.all_eq_true.mp h e he) n hn)
  by_cases hvalid : n.isValidChar
  · rw [← toNat_ofNat hvalid, hpercent] at hcode
    exact hcode rfl
  · rw [Char.ofNat, dif_neg hvalid] at hpercent
    exact absurd hpercent (by decide)

theorem tables_lack : ∀ table ∈ [compositions, decompositions, lowerCases], ∀ e ∈ table, LacksPercent e := by
  have hcodes : [compositions, decompositions, lowerCases].all (·.all fun e => e.2.all (· != 37)) = true := by
    decide +kernel
  exact fun table htable => lacksPercent_of_codes (List.all_eq_true.mp hcodes table htable)

theorem hangul_apart {a b : Nat} {joined : Char} (h : Hangul.compose? a b = some joined) : a ≠ 37 ∧ b ≠ 37 := by
  obtain ⟨ha, hb, -⟩ := hangul_compose_syllable h
  rw [isSyllable_iff] at ha
  omega

theorem percent_apart : Apart '%' := by
  intro a b joined h
  have hsolid := composePair?_solid h
  have hjoined : '%' ≠ joined := by
    rintro rfl
    exact absurd hsolid (by decide)
  rcases composePair?_cases h with hh | ⟨e, he, hpair, -⟩
  · obtain ⟨ha, hb⟩ := hangul_apart hh
    refine ⟨?_, ?_, hjoined⟩
    · rintro rfl
      exact ha rfl
    · rintro rfl
      exact hb rfl
  · have hlacks := tables_lack compositions (by simp) e he
    unfold LacksPercent at hlacks
    rw [hpair, List.mem_cons, List.mem_singleton, not_or] at hlacks
    exact ⟨hlacks.1, hlacks.2, hjoined⟩

/-! ## Decomposing -/

theorem percent_whole : '%'.toNat ∉ decompositions.map (·.1) := by decide +kernel

theorem percent_mem_decomposeChar : '%' ∈ decomposeChar c ↔ '%' = c := by
  rcases decomposeChar_cases c with ⟨e, he, hkey, hparts⟩ | ⟨hs, hparts⟩ | ⟨-, hparts⟩ <;> rw [hparts]
  · refine iff_of_false (tables_lack decompositions (by simp) e he) ?_
    rintro rfl
    exact percent_whole (List.mem_map.mpr ⟨e, he, hkey⟩)
  · refine iff_of_false (fun hmem => absurd ((hangul_decompose_solid hs).2 _ hmem) (by decide)) ?_
    rintro rfl
    exact absurd hs (by decide)
  · exact List.mem_singleton

theorem percent_mem_composeChars : '%' ∈ composeChars cs ↔ '%' ∈ cs := by
  have hdecomposed : ∀ c, (decomposeChar c).count '%' = [c].count '%' := by
    intro c
    by_cases hc : '%' = c
    · rw [← hc]
      rfl
    · rw [List.count_eq_zero.mpr fun hm => hc (percent_mem_decomposeChar.mp hm), List.count_eq_zero.mpr (by simpa using hc)]
  have hcount : (composeChars cs).count '%' = cs.count '%' := countP_composeChars percent_apart.neverCompose hdecomposed
  rw [← List.count_pos_iff, hcount, List.count_pos_iff]

/-! ## Lowering -/

theorem ascii_lowers_to_percent : ∀ n < 128, (Char.ofNat n).toLower = '%' ↔ Char.ofNat n = '%' := by decide

theorem percent_mem_lowerChar : '%' ∈ lowerChar c ↔ '%' = c := by
  rcases lowerChar_cases c with ⟨hc, hlower⟩ | ⟨hc, ⟨e, he, -, hlower⟩ | ⟨-, hlower⟩⟩ <;> rw [hlower]
  · have hletter := ascii_lowers_to_percent c.toNat hc
    rw [Char.ofNat_toNat] at hletter
    rw [List.mem_singleton, eq_comm, hletter, eq_comm]
  · refine iff_of_false (tables_lack lowerCases (by simp) e he) ?_
    rintro rfl
    exact absurd hc (by decide)
  · exact List.mem_singleton

theorem percent_mem_lowerFrom : '%' ∈ lowerFrom before cs ↔ '%' ∈ cs := by
  induction cs generalizing before with
  | nil => rfl
  | cons c cs ih =>
    unfold lowerFrom
    dsimp only
    rw [List.mem_append, List.mem_cons, ih]
    refine or_congr_left ?_
    split
    · rename_i hsigma
      rw [beq_iff_eq.mp hsigma]
      refine iff_of_false ?_ (by decide)
      split <;> decide
    · exact percent_mem_lowerChar

/-! ## Names -/

theorem percent_mem_normalize : '%' ∈ (normalize name).toList ↔ '%' ∈ name.toList := by
  have htrim : ∀ cs : List Char, '%' ∈ trim isBlank cs ↔ '%' ∈ cs := fun cs =>
    ⟨fun h => (trim_sublist _ _).subset h, fun h => mem_trim h (by decide)⟩
  rw [normalize, String.toList_ofList, normalizeChars, lowerChars, percent_mem_lowerFrom, htrim, List.mem_filter,
    percent_mem_composeChars]
  exact and_iff_left (by decide)

theorem percent_mem_iterate (n : Nat) : '%' ∈ (normalize^[n] name).toList ↔ '%' ∈ name.toList := by
  induction n with
  | zero => rfl
  | succ n ih => rw [Function.iterate_succ_apply', percent_mem_normalize, ih]

theorem percent_mem_key : '%' ∈ (key name).toList ↔ '%' ∈ name.toList := by
  refine Iff.trans ?_ percent_mem_normalize
  rw [key, dropDots, String.toList_ofList]
  refine ⟨fun h => (trimEnd_sublist _ _).subset h, fun h => ?_⟩
  unfold trimEnd
  rw [List.mem_reverse]
  exact mem_dropWhile (List.mem_reverse.mpr h) (by decide)

end SenderPolicy.Domain
