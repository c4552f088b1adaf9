/-
  SenderPolicy.Proofs.Domain.Keys — the key of a key.

  A name is composed, freed of zero-width characters, stripped and lowered, and then its last dots are dropped, once each
  and in this order. A later step can leave work to an earlier one: some small letters compose with marks that their
  capitals do not compose with, letters and marks meet when a zero-width character between them is taken away, and there
  may be white space in front of the dots. No other work is left. The characters of a key are never lowered or taken away
  again, even after they have been composed, since no table makes a capital of small letters; and composing leaves as
  much white space and as many dots as there were, so it cannot make up for what is stripped.
  - `lasting_of_mem_key`, `composeChars_lasting`: characters that are neither lowered nor taken away.
  - `countP_separators`: composing leaves white space and dots as many as they are.
  - `key_eq_self_iff`: which names of such characters are their own keys.
  - `key_key_iff`: the key of a key, and what is found under it.
-/

import Mathlib.Data.Nat.Bitwise
import SenderPolicy.Advice.Includes
import SenderPolicy.Proofs.Domain.Stability
import SenderPolicy.Proofs.Text.Lowering

namespace SenderPolicy.Domain

open Text

variable {c : Char} {cs before : List Char} {name : String}

/-! ## Lasting characters -/

/-- The characters that a name does not keep: those without width, and those that have a lower case of their own. -/
def fleeting : List Nat := [0x200b, 0x200c, 0x200d, 0xfeff] ++ (List.range' 65 26 ++ lowerCases.map (·.1))

def IsLasting (c : Char) : Prop := c.toNat ∉ fleeting

/-- A set of numbers as the bits of one number, in which the kernel finds them without a search. -/
def bitsOf (ns : List Nat) : Nat := ns.foldl (fun bits n => bits ||| 2 ^ n) 0

theorem testBit_bitsOf {ns : List Nat} {n : Nat} : (bitsOf ns).testBit n = true ↔ n ∈ ns := by
  have hfold : ∀ bits, (ns.foldl (fun bits n => bits ||| 2 ^ n) bits).testBit n = true ↔ bits.testBit n = true ∨ n ∈ ns := by
    induction ns with
    | nil => simp
    | cons m ns ih =>
      intro bits
      rw [List.foldl_cons, ih, Nat.testBit_or, Bool.or_eq_true, Nat.testBit_two_pow, decide_eq_true_eq, List.mem_cons, or_assoc,
        eq_comm (a := m)]
  rw [bitsOf, hfold, Nat.zero_testBit]
  simp

/-- Whether a character is in no such set. -/
def isOutside (bits : Nat) (c : Char) : Bool := !bits.testBit c.toNat

theorem isOutside_iff : isOutside (bitsOf fleeting) c = true ↔ IsLasting c := by
  rw [isOutside, Bool.not_eq_true', Bool.eq_false_iff, ne_eq, testBit_bitsOf, IsLasting]

/-- That lowering leads out of the set, and neither decomposing nor composing leads back into it. -/
def keepsOutside (bits : Nat) : Bool :=
  (List.range 128).all (fun n => isOutside bits (Char.ofNat n).toLower &&
      (bits.testBit n || (Char.ofNat n).toLower == Char.ofNat n)) &&
    (lowerCases.all fun e => (e.2.map Char.ofNat).all (isOutside bits)) &&
      ((decompositions.all fun e => bits.testBit e.1 || (e.2.map Char.ofNat).all (isOutside bits)) &&
        compositions.all fun e => isOutside bits (Char.ofNat e.1) || (e.2.map Char.ofNat).any (!isOutside bits ·))

theorem fleeting_keepsOutside : keepsOutside (bitsOf fleeting) = true := by decide +kernel

theorem sigmas_outside : ['ς', 'σ'].all (isOutside (bitsOf fleeting)) = true ∧ isOutside (bitsOf fleeting) 'Σ' = false := by
  decide +kernel

/-- Hangul has no case. -/
theorem hangul_apart_fleeting :
    fleeting.all (fun n => !(0x1100 ≤ n && n < 0x1200) && !Hangul.isSyllable n) = true := by decide +kernel

theorem ascii_lasting {n : Nat} (hn : n < 128) :
    IsLasting (Char.ofNat n).toLower ∧ (n ∉ fleeting → (Char.ofNat n).toLower = Char.ofNat n) := by
  have hall := (Bool.and_eq_true_iff.mp (Bool.and_eq_true_iff.mp fleeting_keepsOutside).1).1
  have hascii := List.all_eq_true.mp hall n (List.mem_range.mpr hn)
  rw [Bool.and_eq_true, isOutside_iff, Bool.or_eq_true, testBit_bitsOf, beq_iff_eq] at hascii
  exact ⟨hascii.1, hascii.2.resolve_left⟩

theorem lowerCases_lasting : ∀ e ∈ lowerCases, ∀ d ∈ e.2.map Char.ofNat, IsLasting d := by
  have hall := (Bool.and_eq_true_iff.mp (Bool.and_eq_true_iff.mp fleeting_keepsOutside).1).2
  intro e he d hd
  exact isOutside_iff.mp (List.all_eq_true.mp (List.all_eq_true.mp hall e he) d hd)

theorem decompositions_lasting : ∀ e ∈ decompositions, e.1 ∉ fleeting → ∀ d ∈ e.2.map Char.ofNat, IsLasting d := by
  have hall := (Bool.and_eq_true_iff.mp (Bool.and_eq_true_iff.mp fleeting_keepsOutside).2).1
  intro e he hkey d hd
  rcases Bool.or_eq_true_iff.mp (List.all_eq_true.mp hall e he) with hbit | hparts
  · exact absurd (testBit_bitsOf.mp hbit) hkey
  · exact isOutside_iff.mp (List.all_eq_true.mp hparts d hd)

theorem compositions_lasting :
    ∀ e ∈ compositions, (∀ d ∈ e.2.map Char.ofNat, IsLasting d) → IsLasting (Char.ofNat e.1) := by
  have hall := (Bool.and_eq_true_iff.mp (Bool.and_eq_true_iff.mp fleeting_keepsOutside).2).2
  intro e he hparts
  rcases Bool.or_eq_true_iff.mp (List.all_eq_true.mp hall e he) with hjoined | hany
  · exact isOutside_iff.mp hjoined
  · obtain ⟨d, hd, hfleeting⟩ := List.any_eq_true.mp hany
    rw [isOutside_iff.mpr (hparts d hd)] at hfleeting
    cases hfleeting

theorem lasting_of_jamo (h : 0x1100 ≤ c.toNat) (h' : c.toNat < 0x1200) : IsLasting c := by
  intro hm
  have hapart := (Bool.and_eq_true_iff.mp (List.all_eq_true.mp hangul_apart_fleeting _ hm)).1
  rw [decide_eq_true h, decide_eq_true h'] at hapart
  cases hapart

theorem lasting_of_syllable (h : Hangul.isSyllable c.toNat = true) : IsLasting c := by
  intro hm
  have hapart := (Bool.and_eq_true_iff.mp (List.all_eq_true.mp hangul_apart_fleeting _ hm)).2
  rw [h] at hapart
  cases hapart

theorem mem_fleeting {n : Nat} :
    n ∈ fleeting ↔ n ∈ [0x200b, 0x200c, 0x200d, 0xfeff] ∨ (65 ≤ n ∧ n < 91) ∨ n ∈ lowerCases.map (·.1) := by
  rw [fleeting, List.mem_append, List.mem_append, List.mem_range'_1]

theorem isZeroWidth_iff : isZeroWidth c = true ↔ c.toNat ∈ [0x200b, 0x200c, 0x200d, 0xfeff] := by
  simp only [isZeroWidth, Bool.or_eq_true, Bool.and_eq_true, decide_eq_true_eq, beq_iff_eq, List.mem_cons, List.not_mem_nil, or_false]
  omega

theorem isZeroWidth_of_lasting (h : IsLasting c) : isZeroWidth c = false := by
  rw [Bool.eq_false_iff]
  exact fun hz => h (mem_fleeting.mpr (Or.inl (isZeroWidth_iff.mp hz)))

/-! ## Lowering -/

theorem lowerChar_lasting (h : IsLasting c) : lowerChar c = [c] := by
  rcases lowerChar_cases c with ⟨hc, hlower⟩ | ⟨-, ⟨e, he, hkey, -⟩ | ⟨-, hlower⟩⟩
  · have hself := (ascii_lasting hc).2 h
    rw [Char.ofNat_toNat] at hself
    rw [hlower, hself]
  · exact absurd (mem_fleeting.mpr (Or.inr (Or.inr (List.mem_map.mpr ⟨e, he, hkey⟩)))) h
  · exact hlower

theorem lasting_of_mem_lowerChar (hz : isZeroWidth c = false) : ∀ d ∈ lowerChar c, IsLasting d := by
  intro d hd
  rcases lowerChar_cases c with ⟨hc, hlower⟩ | ⟨hc, ⟨e, he, -, hlower⟩ | ⟨hkey, hlower⟩⟩ <;> rw [hlower] at hd
  · have hlasting := (ascii_lasting hc).1
    rw [Char.ofNat_toNat] at hlasting
    rwa [List.mem_singleton.mp hd]
  · exact lowerCases_lasting e he d hd
  · rw [List.mem_singleton.mp hd, IsLasting, mem_fleeting, ← isZeroWidth_iff, hz]
    have hlarge : ¬ (65 ≤ c.toNat ∧ c.toNat < 91) := by omega
    simp [hlarge, hkey]

theorem lowerFrom_lasting (h : ∀ c ∈ cs, IsLasting c) : lowerFrom before cs = cs := by
  induction cs generalizing before with
  | nil => rfl
  | cons c cs ih =>
    obtain ⟨hc, hcs⟩ := List.forall_mem_cons.mp h
    have hsigma : (c == 'Σ') = false := by
      rw [beq_eq_false_iff_ne]
      rintro rfl
      exact absurd (isOutside_iff.mpr hc) (by rw [sigmas_outside.2]; exact Bool.false_ne_true)
    rw [lowerFrom, hsigma, if_neg Bool.false_ne_true, lowerChar_lasting hc, ih hcs, List.singleton_append]

theorem lasting_of_mem_lowerFrom (h : ∀ c ∈ cs, isZeroWidth c = false) : ∀ d ∈ lowerFrom before cs, IsLasting d := by
  induction cs generalizing before with
  | nil => exact fun d hd => absurd hd List.not_mem_nil
  | cons c cs ih =>
    obtain ⟨hc, hcs⟩ := List.forall_mem_cons.mp h
    intro d hd
    rcases List.mem_append.mp hd with hd | hd
    · split at hd
      · have hsigma : d ∈ ['ς', 'σ'] := by
          rw [List.mem_singleton.mp hd]
          split <;> simp
        exact isOutside_iff.mp (List.all_eq_true.mp sigmas_outside.1 d hsigma)
      · exact lasting_of_mem_lowerChar hc d hd
    · exact ih hcs d hd

/-! ## Composing -/

theorem lasting_of_mem_decomposeChar (h : IsLasting c) : ∀ d ∈ decomposeChar c, IsLasting d := by
  rcases decomposeChar_cases c with ⟨e, he, hkey, hparts⟩ | ⟨hs, hparts⟩ | ⟨-, hparts⟩ <;> rw [hparts]
  · exact decompositions_lasting e he (hkey ▸ h)
  · intro d hd
    obtain ⟨hlow, hhigh⟩ := (hangul_decompose_jamo hs).2 d hd
    exact lasting_of_jamo hlow hhigh
  · exact fun d hd => List.mem_singleton.mp hd ▸ h

theorem lasting_of_composePair? {a b joined : Char} (ha : IsLasting a) (hb : IsLasting b) (h : composePair? a b = some joined) :
    IsLasting joined := by
  rcases composePair?_cases h with hh | ⟨e, he, hpair, rfl⟩
  · exact lasting_of_syllable (hangul_compose_syllable hh).2.2
  · refine compositions_lasting e he ?_
    rw [hpair]
    simp [ha, hb]

theorem composeChars_lasting (h : ∀ c ∈ cs, IsLasting c) : ∀ c ∈ composeChars cs, IsLasting c :=
  composeChars_all (fun _ => lasting_of_mem_decomposeChar) (fun _ _ _ => lasting_of_composePair?) h

/-- White space and dots, of which a name is freed at its ends. -/
def isSeparator (c : Char) : Bool := isBlank c || c == '.'

theorem isSeparator_of_solid (h : isSolid c = true) : isSeparator c = false := by
  have hdot : (c == '.') = false := by
    rw [beq_eq_false_iff_ne]
    rintro rfl
    exact absurd h (by decide)
  rw [isSeparator, isBlank_of_plain (isPlain_of_solid h), hdot]
  rfl

/-- The parts of what composes are no separators, and separators decompose into separators, each into one. -/
theorem separators_apart :
    (compositions.all fun e => (e.2.map Char.ofNat).all (!isSeparator ·)) = true ∧
      (decompositions.all fun e => (e.2.map Char.ofNat).countP isSeparator == [Char.ofNat e.1].countP isSeparator) = true := by
  decide +kernel

theorem separators_neverCompose : NeverCompose isSeparator := by
  intro a b joined h
  have hjoined := isSeparator_of_solid (composePair?_solid h)
  have hjamo : ∀ c : Char, 0x1100 ≤ c.toNat ∧ c.toNat < 0x1200 → isSeparator c = false := by
    intro c hc
    have hsolid := isSolid_of_jamo hc.1 hc.2
    rw [Char.ofNat_toNat] at hsolid
    exact isSeparator_of_solid hsolid
  rcases composePair?_cases h with hh | ⟨e, he, hpair, -⟩
  · obtain ⟨ha, hb, -⟩ := hangul_compose_syllable hh
    refine ⟨?_, hjamo b hb, hjoined⟩
    rcases ha with ha | ha
    · exact hjamo a ha
    · have hsolid := isSolid_of_syllable ha
      rw [Char.ofNat_toNat] at hsolid
      exact isSeparator_of_solid hsolid
  · have hparts := List.all_eq_true.mp separators_apart.1 e he
    rw [hpair] at hparts
    simp only [List.all_cons, List.all_nil, Bool.and_true, Bool.and_eq_true, Bool.not_eq_true'] at hparts
    exact ⟨hparts.1, hparts.2, hjoined⟩

theorem countP_decomposeChar (c : Char) : (decomposeChar c).countP isSeparator = [c].countP isSeparator := by
  rcases decomposeChar_cases c with ⟨e, he, hkey, hparts⟩ | ⟨hs, hparts⟩ | ⟨-, hparts⟩ <;> rw [hparts]
  · have hone := beq_iff_eq.mp (List.all_eq_true.mp separators_apart.2 e he)
    rwa [hkey, Char.ofNat_toNat] at hone
  · have hsolid := isSolid_of_syllable hs
    rw [Char.ofNat_toNat] at hsolid
    have hnone : ∀ p ∈ Hangul.decompose c.toNat, ¬ isSeparator p = true := by
      intro p hp
      rw [isSeparator_of_solid ((hangul_decompose_solid hs).2 p hp)]
      exact Bool.false_ne_true
    rw [List.countP_eq_zero.mpr hnone, List.countP_singleton, isSeparator_of_solid hsolid]
    rfl

/-- White space and dots are as many as before when a text has been composed. -/
theorem countP_separators (cs : List Char) : (composeChars cs).countP isSeparator = cs.countP isSeparator :=
  countP_composeChars separators_neverCompose countP_decomposeChar

/-! ## Trimming -/

variable {p r : Char → Bool}

theorem countP_of_all (hr : ∀ c, p c = true → r c = false) (h : cs.all p = true) : cs.countP r = 0 := by
  rw [List.countP_eq_zero]
  intro c hc
  rw [hr c (List.all_eq_true.mp h c hc)]
  exact Bool.false_ne_true

/-- What is no character to trim is not lost. -/
theorem countP_trimEnd (hr : ∀ c, p c = true → r c = false) (cs : List Char) : (trimEnd p cs).countP r = cs.countP r := by
  have hlost : ((cs.reverse.takeWhile p).reverse).countP r = 0 := by
    rw [List.countP_reverse]
    exact countP_of_all hr List.all_takeWhile
  calc (trimEnd p cs).countP r
      = (trimEnd p cs).countP r + ((cs.reverse.takeWhile p).reverse).countP r := by rw [hlost, Nat.add_zero]
    _ = cs.countP r := by rw [← List.countP_append, trimEnd_append]

theorem countP_trim (hr : ∀ c, p c = true → r c = false) (cs : List Char) : (trim p cs).countP r = cs.countP r := by
  have hlost : (cs.takeWhile p).countP r = 0 := countP_of_all hr List.all_takeWhile
  rw [trim, countP_trimEnd hr]
  calc (cs.dropWhile p).countP r
      = (cs.takeWhile p).countP r + (cs.dropWhile p).countP r := by rw [hlost, Nat.zero_add]
    _ = cs.countP r := by rw [← List.countP_append, List.takeWhile_append_dropWhile]

/-- A text that has lost no separators at its ends has lost nothing. -/
theorem eq_of_countP_separators
    (h : (trimEnd (· == '.') (trim isBlank cs)).countP isSeparator = cs.countP isSeparator) :
    trimEnd (· == '.') (trim isBlank cs) = cs := by
  have hdots : ∀ c : Char, (c == '.') = true → (!isSeparator c) = false := by
    intro c hc
    rw [isSeparator, hc, Bool.or_true]
    rfl
  have hblanks : ∀ c : Char, isBlank c = true → (!isSeparator c) = false := by
    intro c hc
    rw [isSeparator, hc, Bool.true_or]
    rfl
  have hothers : (trimEnd (· == '.') (trim isBlank cs)).countP (!isSeparator ·) = cs.countP (!isSeparator ·) := by
    rw [countP_trimEnd hdots, countP_trim hblanks]
  have hsub : (trimEnd (· == '.') (trim isBlank cs)).Sublist cs := (trimEnd_sublist _ _).trans (trim_sublist _ _)
  refine hsub.eq_of_length ?_
  rw [List.length_eq_countP_add_countP isSeparator, List.length_eq_countP_add_countP isSeparator (l := cs), h]
  simpa using hothers

/-! ## Keys -/

theorem toList_key (name : String) : (key name).toList = trimEnd (· == '.') (normalizeChars name.toList) := by
  rw [key, dropDots, normalize, String.toList_ofList, String.toList_ofList]

theorem lasting_of_mem_key : ∀ c ∈ (key name).toList, IsLasting c := by
  intro c hc
  rw [toList_key] at hc
  refine lasting_of_mem_lowerFrom (fun d hd => ?_) c ((trimEnd_sublist _ _).subset hc)
  have hmem := (List.mem_filter.mp ((trim_sublist _ _).subset hd)).2
  rwa [Bool.not_eq_true'] at hmem

/-- Nothing is taken away from lasting characters, and nothing is lowered. -/
theorem normalizeChars_lasting (h : ∀ c ∈ cs, IsLasting c) : normalizeChars cs = trim isBlank (composeChars cs) := by
  have hlasting := composeChars_lasting h
  have hfilter : (composeChars cs).filter (!isZeroWidth ·) = composeChars cs := by
    rw [List.filter_eq_self]
    intro c hc
    rw [isZeroWidth_of_lasting (hlasting c hc)]
    rfl
  rw [normalizeChars, hfilter]
  exact lowerFrom_lasting fun c hc => hlasting c ((trim_sublist _ _).subset hc)

theorem ofList_eq_iff : String.ofList cs = name ↔ cs = name.toList := by
  constructor
  · rintro rfl
    exact String.toList_ofList.symm
  · rintro rfl
    exact String.ofList_toList

/-- A name of lasting characters is its own key if it is composed, stripped and without dots at the end. -/
theorem key_eq_self_iff (h : ∀ c ∈ name.toList, IsLasting c) :
    key name = name ↔ compose name = name ∧ strip name = name ∧ dropDots name = name := by
  rw [key, normalize, normalizeChars_lasting h, compose, strip, dropDots, dropDots, String.toList_ofList, ofList_eq_iff,
    ofList_eq_iff, ofList_eq_iff, ofList_eq_iff]
  constructor
  · intro hkey
    -- What is trimmed away behind the composed text is not there before it.
    have hcompose : composeChars name.toList = name.toList := by
      refine Eq.trans (eq_of_countP_separators ?_).symm hkey
      rw [hkey, countP_separators]
    rw [hcompose] at hkey
    have hstrip : trim isBlank name.toList = name.toList := by
      refine (trim_sublist _ _).eq_of_length_le ?_
      have hlength := (trimEnd_sublist (· == '.') (trim isBlank name.toList)).length_le
      rwa [hkey] at hlength
    rw [hstrip] at hkey
    exact ⟨hcompose, hstrip, hkey⟩
  · rintro ⟨hcompose, hstrip, hdots⟩
    rw [hcompose, hstrip, hdots]

theorem dropDots_key (name : String) : dropDots (key name) = key name := by
  rw [dropDots, ofList_eq_iff, toList_key]
  exact trimEnd_self (last_trimEnd _)

/-! ## Keys in ASCII -/

theorem isBlank_toLower (c : Char) : isBlank c.toLower = isBlank c := by
  have hascii : ∀ n < 128, isBlank (Char.ofNat n).toLower = isBlank (Char.ofNat n) := by decide
  by_cases hc : c.toNat < 128
  · have hlower := hascii c.toNat hc
    rwa [Char.ofNat_toNat] at hlower
  · rw [toLower_of_large (Nat.le_of_not_lt hc)]

theorem dot_toLower (c : Char) : (c.toLower == '.') = (c == '.') := by
  rw [Bool.eq_iff_iff, beq_iff_eq, beq_iff_eq]
  exact toLower_eq_iff rfl

theorem trimEnd_lower (hp : ∀ c, p c.toLower = p c) (cs : List Char) :
    trimEnd p (cs.map Char.toLower) = (trimEnd p cs).map Char.toLower := by
  have hcomp : p ∘ Char.toLower = p := funext hp
  rw [trimEnd, ← List.map_reverse, List.dropWhile_map, hcomp, ← List.map_reverse, trimEnd]

theorem trim_lower (hp : ∀ c, p c.toLower = p c) (cs : List Char) :
    trim p (cs.map Char.toLower) = (trim p cs).map Char.toLower := by
  have hcomp : p ∘ Char.toLower = p := funext hp
  rw [trim, List.dropWhile_map, hcomp, trimEnd_lower hp, trim]

/-- In ASCII a key has white space at the end if the name has it in front of its last dots. -/
theorem strip_key_ascii (h : ∀ c ∈ name.toList, c.toNat < 128) :
    strip (key name) = key name ↔ strip (dropDots (strip name)) = dropDots (strip name) := by
  have hkey : (key name).toList = (trimEnd (· == '.') (trim isBlank name.toList)).map Char.toLower := by
    rw [toList_key, normalizeChars_ascii h, trimEnd_lower dot_toLower]
  rw [strip, ofList_eq_iff, hkey, trim_lower isBlank_toLower, strip, ofList_eq_iff, dropDots, strip, String.toList_ofList,
    String.toList_ofList]
  constructor
  · intro he
    refine (trim_sublist _ _).eq_of_length ?_
    rw [← List.length_map (f := Char.toLower), he, List.length_map]
  · intro he
    rw [he]

theorem compose_key_ascii (h : ∀ c ∈ name.toList, c.toNat < 128) : compose (key name) = key name := by
  refine compose_below fun c hc => ?_
  rw [toList_key, normalizeChars_ascii h] at hc
  obtain ⟨d, hd, rfl⟩ := List.mem_map.mp ((trimEnd_sublist _ _).subset hc)
  have hlower := (ascii_lowered d.toNat (h d ((trim_sublist _ _).subset hd))).1
  rw [Char.ofNat_toNat] at hlower
  exact Nat.lt_trans hlower (by decide)

/-! ## Keys of keys -/

/-- Of a key nothing is lowered, taken away or dropped again; it is its own key, and what is kept for it is found under
it, exactly if it is in composed form and no white space was in front of the dots. -/
theorem key_key_iff (name : String) :
    (lower (key name) = key name ∧ (∀ c ∈ (key name).toList, isZeroWidth c = false) ∧ dropDots (key name) = key name) ∧
      (key (key name) = key name ↔ compose (key name) = key name ∧ strip (key name) = key name) ∧
      (∀ ips, (Advice.Resolved.ofNames [(key name, ips)]).find? (key name) = some ips ↔
        compose (key name) = key name ∧ strip (key name) = key name) ∧
      ((∀ c ∈ name.toList, c.toNat < 128) →
        (key (key name) = key name ↔ strip (dropDots (strip name)) = dropDots (strip name))) := by
  have hlasting : ∀ c ∈ (key name).toList, IsLasting c := lasting_of_mem_key
  have hkey : key (key name) = key name ↔ compose (key name) = key name ∧ strip (key name) = key name := by
    rw [key_eq_self_iff hlasting]
    simp only [dropDots_key, and_true]
  refine ⟨⟨?_, fun c hc => isZeroWidth_of_lasting (hlasting c hc), dropDots_key name⟩, hkey, fun ips => ?_, fun hascii => ?_⟩
  · rw [lower, ofList_eq_iff]
    exact lowerFrom_lasting hlasting
  · rw [← hkey]
    by_cases he : key (key name) = key name
    · simp [Advice.Resolved.ofNames, Advice.Resolved.find?, he]
    · simp [Advice.Resolved.ofNames, Advice.Resolved.find?, he]
  · rw [hkey, strip_key_ascii hascii]
    exact and_iff_right (compose_key_ascii hascii)

theorem key_key_iff_dots :
    key (key " A.Example.. ") = key " A.Example.. " ∧ key (key "a.example .") ≠ key "a.example ." :=
  ⟨((key_key_iff " A.Example.. ").2.2.2 (by simp)).mpr (by decide),
    fun he => absurd (((key_key_iff "a.example .").2.2.2 (by simp)).mp he) (by decide)⟩

/-- The key of a capital J with a caron is a small j with a caron, and of that the one character for both. -/
theorem caron_key_is_not_final :
    key (key "J\u030c.example") ≠ key "J\u030c.example" ∧
      (Advice.Resolved.ofNames [(key "J\u030c.example", ["192.0.2.1"])]).find? (key "J\u030c.example") = none := by
  have hfirst : key "J\u030c.example" = "j\u030c.example" := by
    rw [key, normalize_caron.1]
    decide
  have hsecond : key "j\u030c.example" = "\u01f0.example" := by
    rw [key, normalize_caron.2]
    decide
  rw [hfirst, hsecond]
  refine ⟨by decide, ?_⟩
  simp [Advice.Resolved.ofNames, Advice.Resolved.find?, hsecond]

end SenderPolicy.Domain
