/-
  SenderPolicy.Proofs.Text.Lowering — which texts have a given word at the start of their lower case.

  Lower case is taken in every script, and some characters outside ASCII become letters of it, such as the Kelvin sign,
  which becomes a `k`. For a word without these letters there are no others than the ASCII characters to come from: a
  text is lowered to something that begins with the word if and only if it begins with the word in some case.
  - `toLower_eq_iff`: characters that only come from themselves.
  - `lowerChar_cases`: how a character is lowered.
  - `lowerFrom_eq_append_iff`: texts whose lower case begins with a word.
-/

import Mathlib.Data.List.Basic
import SenderPolicy.Text.Case

namespace SenderPolicy.Text

variable {before cs ks ds : List Char} {c d : Char}

/-! ## Characters -/

theorem toLower_of_large (hc : 128 ≤ c.toNat) : c.toLower = c := by
  unfold Char.toLower
  rw [dif_neg]
  intro hup
  have hle : c.toNat ≤ 90 := hup.2
  omega

theorem ascii_letters : ∀ n < 128, (Char.ofNat n).toLower.isAlpha = (Char.ofNat n).isAlpha ∧
    ((Char.ofNat n).isAlpha = false → (Char.ofNat n).toLower = Char.ofNat n) := by decide

/-- What is no letter is the lower case of itself alone. -/
theorem toLower_eq_iff (hd : d.isAlpha = false) : c.toLower = d ↔ c = d := by
  by_cases hc : c.toNat < 128
  · obtain ⟨hletter, hself⟩ := ascii_letters c.toNat hc
    rw [Char.ofNat_toNat] at hletter hself
    constructor
    · rintro rfl
      exact (hself (hletter ▸ hd)).symm
    · rintro rfl
      exact hself hd
  · rw [toLower_of_large (Nat.le_of_not_lt hc)]

/-- That every other character becomes something that begins with none of these ASCII characters. -/
def lowersApart (letters : List Char) : Bool :=
  letters.all (·.toNat < 128) && lowerCases.all fun e => (e.2.map Char.ofNat).head?.any (!letters.contains ·)

theorem small_of_mem {letters : List Char} (h : lowersApart letters = true) (hc : c ∈ letters) : c.toNat < 128 :=
  of_decide_eq_true (List.all_eq_true.mp (Bool.and_eq_true_iff.mp h).1 c hc)

/-- A character in ASCII is lowered by itself, and every other one by the table or not at all. -/
theorem lowerChar_cases (c : Char) :
    c.toNat < 128 ∧ lowerChar c = [c.toLower] ∨
      128 ≤ c.toNat ∧ ((∃ e ∈ lowerCases, e.1 = c.toNat ∧ lowerChar c = e.2.map Char.ofNat) ∨
        c.toNat ∉ lowerCases.map (·.1) ∧ lowerChar c = [c]) := by
  unfold lowerChar
  by_cases hc : c.toNat < 128
  · rw [if_pos hc]
    exact Or.inl ⟨hc, rfl⟩
  rw [if_neg hc, lookup]
  refine Or.inr ⟨Nat.le_of_not_lt hc, ?_⟩
  cases hf : lowerTable.find? (·.1 == c.toNat) with
  | some e =>
    obtain ⟨e', he', rfl⟩ := List.mem_map.mp (List.mem_of_find?_eq_some hf)
    have hkey : e'.1 = c.toNat := beq_iff_eq.mp (List.find?_some (p := fun e : Nat × List Char => e.1 == c.toNat) hf)
    exact Or.inl ⟨e', he', hkey, rfl⟩
  | none =>
    refine Or.inr ⟨fun hm => ?_, rfl⟩
    obtain ⟨e, he, hkey⟩ := List.mem_map.mp hm
    exact List.find?_eq_none.mp hf (e.1, e.2.map Char.ofNat) (List.mem_map.mpr ⟨e, he, rfl⟩) (beq_iff_eq.mpr hkey)

theorem lowerChar_apart {letters : List Char} (h : lowersApart letters = true) (hc : 128 ≤ c.toNat) :
    ∃ d rest, lowerChar c = d :: rest ∧ d ∉ letters := by
  rcases lowerChar_cases c with ⟨hsmall, -⟩ | ⟨-, ⟨e, he, -, hlower⟩ | ⟨-, hself⟩⟩
  · omega
  · have hhead := List.all_eq_true.mp (Bool.and_eq_true_iff.mp h).2 e he
    rw [hlower]
    cases hl : e.2.map Char.ofNat with
    | nil => rw [hl] at hhead; cases hhead
    | cons d rest =>
      rw [hl] at hhead
      exact ⟨d, rest, rfl, by simpa using hhead⟩
  · exact ⟨c, [], hself, fun hmem => Nat.not_lt.mpr hc (small_of_mem h hmem)⟩

theorem lowerFrom_cons_ascii (hc : c.toNat < 128) :
    lowerFrom before (c :: cs) = c.toLower :: lowerFrom (c :: before) cs := by
  have hsigma : (c == 'Σ') = false := by
    rw [beq_eq_false_iff_ne]
    rintro rfl
    exact absurd hc (by decide)
  simp [lowerFrom, lowerChar, hsigma, hc]

theorem lowerFrom_cons_apart {letters : List Char} (h : lowersApart letters = true) (hc : 128 ≤ c.toNat) :
    ∃ d rest, lowerFrom before (c :: cs) = d :: rest ∧ d ∉ letters := by
  unfold lowerFrom
  dsimp only
  split
  · refine ⟨_, _, rfl, fun hmem => absurd (small_of_mem h hmem) ?_⟩
    split <;> decide
  · obtain ⟨d, rest, he, hd⟩ := lowerChar_apart h hc
    exact ⟨d, rest ++ lowerFrom (c :: before) cs, by rw [he, List.cons_append], hd⟩

/-! ## Words -/

/-- A word of such characters is what lower case makes of the same word in any case, and of nothing else. -/
theorem lowerFrom_eq_append_iff {letters : List Char} (h : lowersApart letters = true) (hks : ∀ k ∈ ks, k ∈ letters) :
    lowerFrom before cs = ks ++ ds ↔
      ∃ word rest, cs = word ++ rest ∧ word.map Char.toLower = ks ∧ lowerFrom (word.reverse ++ before) rest = ds := by
  induction ks generalizing before cs with
  | nil => simp
  | cons k ks ih =>
    obtain ⟨hk, hks⟩ := List.forall_mem_cons.mp hks
    cases cs with
    | nil => simp [lowerFrom]
    | cons c cs =>
      by_cases hc : c.toNat < 128
      · rw [lowerFrom_cons_ascii hc, List.cons_append, List.cons.injEq, ih hks]
        constructor
        · rintro ⟨hlow, word, rest, rfl, hlower, hrest⟩
          exact ⟨c :: word, rest, rfl, by rw [List.map_cons, hlow, hlower], by simpa using hrest⟩
        · rintro ⟨word, rest, hsplit, hlower, hrest⟩
          obtain ⟨c', word, rfl, hlow, htail⟩ := List.map_eq_cons_iff.mp hlower
          obtain ⟨rfl, rfl⟩ := List.cons.inj hsplit
          exact ⟨hlow, word, rest, rfl, htail, by simpa using hrest⟩
      · -- a character outside ASCII begins neither side
        have hlarge : 128 ≤ c.toNat := by omega
        obtain ⟨d, tail, he, hd⟩ := @lowerFrom_cons_apart before cs c letters h hlarge
        rw [he, List.cons_append, List.cons.injEq]
        refine iff_of_false (fun hand => hd (hand.1 ▸ hk)) ?_
        rintro ⟨word, rest, hsplit, hlower, -⟩
        obtain ⟨c', word, rfl, hlow, -⟩ := List.map_eq_cons_iff.mp hlower
        obtain ⟨rfl, -⟩ := List.cons.inj hsplit
        rw [toLower_of_large hlarge] at hlow
        exact hc (small_of_mem h (hlow ▸ hk))

theorem lowerFrom_eq_nil_iff : lowerFrom before cs = [] ↔ cs = [] := by
  cases cs with
  | nil => simp [lowerFrom]
  | cons c cs =>
    refine iff_of_false (fun he => ?_) (List.cons_ne_nil _ _)
    by_cases hc : c.toNat < 128
    · rw [lowerFrom_cons_ascii hc] at he
      cases he
    · have hnone : lowersApart [] = true := by decide +kernel
      obtain ⟨d, tail, hd, -⟩ := @lowerFrom_cons_apart before cs c [] hnone (Nat.le_of_not_lt hc)
      rw [hd] at he
      cases he

end SenderPolicy.Text
