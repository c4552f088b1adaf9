/-
  SenderPolicy.Proofs.Domain.Stability — names that are normalised again.

  A name is composed before it is lowered. Some small letters compose with a mark that their capitals do not
  compose with, such as j with a caron; so the capital and the mark are left apart, the small letter and the mark
  are what is left of them, and only a second normalisation makes one character of these. Names in ASCII have
  nothing to compose, and stay.
  - `normalize_ascii`: names in ASCII are normalised once and for all.
  - `composeChars_marked`: composing a name that has one mark, behind its first letter.
  - `normalize_caron`: a name with three forms.
-/

import SenderPolicy.Proofs.Domain.Alias

namespace SenderPolicy.Domain

open Text

/-! ## Names in ASCII -/

theorem ascii_lowered : ∀ n < 128, (Char.ofNat n).toLower.toNat < 128 ∧ (Char.ofNat n).toLower.toLower = (Char.ofNat n).toLower := by
  decide

theorem normalizeChars_ascii_again {cs : List Char} (h : ∀ c ∈ cs, c.toNat < 128) :
    normalizeChars (normalizeChars cs) = normalizeChars cs := by
  have hlowered : ∀ c ∈ trim isBlank cs, c.toLower.toNat < 128 ∧ c.toLower.toLower = c.toLower := by
    intro c hc
    have := ascii_lowered c.toNat (h c ((trim_sublist _ _).subset hc))
    rwa [Char.ofNat_toNat] at this
  have hblank : ∀ c ∈ trim isBlank cs, isBlank c = false → isBlank c.toLower = false := by
    intro c hc hb
    have := ascii_toLower c.toNat (h c ((trim_sublist _ _).subset hc))
    rw [Char.ofNat_toNat] at this
    exact isBlank_of_normal (this hb)
  -- The ends are lowered, and are blank no more than before.
  have htrim : trim isBlank ((trim isBlank cs).map Char.toLower) = (trim isBlank cs).map Char.toLower := by
    refine trim_self (fun c hc => ?_) fun c hc => ?_
    · rw [List.head?_map] at hc
      obtain ⟨d, hd, rfl⟩ := Option.map_eq_some_iff.mp hc
      exact hblank d (List.mem_of_head? hd) (head_trim cs d hd)
    · rw [List.getLast?_map] at hc
      obtain ⟨d, hd, rfl⟩ := Option.map_eq_some_iff.mp hc
      exact hblank d (List.mem_of_getLast? hd) (last_trim cs d hd)
  have hascii : ∀ c ∈ (trim isBlank cs).map Char.toLower, c.toNat < 128 := by
    intro c hc
    obtain ⟨d, hd, rfl⟩ := List.mem_map.mp hc
    exact (hlowered d hd).1
  rw [normalizeChars_ascii h, normalizeChars_ascii hascii, htrim, List.map_map]
  exact List.map_congr_left fun c hc => (hlowered c hc).2

theorem normalize_ascii {name : String} (h : ∀ c ∈ name.toList, c.toNat < 128) : normalize (normalize name) = normalize name := by
  unfold normalize
  rw [String.toList_ofList, normalizeChars_ascii_again h]

/-! ## Composing a letter and a mark -/

variable {cs ds kept : List Char} {c letter mark starter : Char}

theorem combiningClass_below (h : c.toNat < 0x300) : combiningClass c = 0 := if_pos h

/-- Whatever joins a starter is a mark, or part of a syllable. -/
def joinsAbove (e : Nat × List Nat) : Bool := e.2.tail.all fun n => 0x300 ≤ (Char.ofNat n).toNat

theorem compositions_above : compositions.all joinsAbove = true := by decide +kernel

theorem composePair?_below (h : c.toNat < 0x300) : composePair? starter c = none := by
  rw [Option.eq_none_iff_forall_ne_some]
  intro joined hjoined
  rcases composePair?_cases hjoined with hh | ⟨e, he, hpair, -⟩
  · obtain ⟨-, hletter, -⟩ := hangul_compose_syllable hh
    omega
  · have habove := List.all_eq_true.mp compositions_above e he
    unfold joinsAbove at habove
    have htail : e.2.tail.map Char.ofNat = [c] := List.map_tail.trans (congrArg List.tail hpair)
    obtain ⟨n, hn, rfl⟩ := List.map_eq_singleton_iff.mp htail
    rw [hn] at habove
    simp only [List.all_cons, List.all_nil, Bool.and_true, decide_eq_true_eq] at habove
    omega

theorem composeFrom_below (h : ∀ c ∈ cs, c.toNat < 0x300) : composeFrom starter kept cs = starter :: (kept.reverse ++ cs) := by
  induction cs generalizing starter kept with
  | nil => rw [composeFrom, List.append_nil]
  | cons c cs ih =>
    obtain ⟨hc, hcs⟩ := List.forall_mem_cons.mp h
    rcases composeFrom_cons starter c kept cs with ⟨joined, hjoined, _⟩ | he | he
    · rw [composePair?_below hc] at hjoined
      cases hjoined
    · rw [he, ih hcs]
      rfl
    · rw [he, ih hcs, List.reverse_cons, List.append_assoc]
      rfl

theorem insertMark_below (h : ∀ d ∈ ds.head?, d.toNat < 0x300) : insertMark c ds = c :: ds := by
  cases ds with
  | nil => rfl
  | cons d ds => rw [insertMark, combiningClass_below (h d rfl), decide_eq_false (Nat.not_lt_zero _), Bool.false_and, if_neg Bool.false_ne_true]

theorem insertMark_starter (h : c.toNat < 0x300) : insertMark c ds = c :: ds := by
  cases ds with
  | nil => rfl
  | cons d ds => rw [insertMark, combiningClass_below h, bne_self_eq_false, Bool.and_false, if_neg Bool.false_ne_true]

theorem foldl_insertMark (h : ∀ c ∈ cs, c.toNat < 0x300) (ds : List Char) :
    cs.foldl (fun acc c => insertMark c acc) ds = cs.reverse ++ ds := by
  induction cs generalizing ds with
  | nil => rfl
  | cons c cs ih =>
    obtain ⟨hc, hcs⟩ := List.forall_mem_cons.mp h
    rw [List.foldl_cons, insertMark_starter hc, ih hcs, List.reverse_cons, List.append_assoc]
    rfl

theorem flatMap_decomposeChar (h : ∀ c ∈ cs, c.toNat < 0xc0) : cs.flatMap decomposeChar = cs := by
  have hself : ∀ c ∈ cs, decomposeChar c = [c] := fun c hc => if_pos (h c hc)
  rw [List.flatMap_congr hself, List.flatMap_singleton']

/-- A letter joins the mark behind it if there is a character for both. -/
theorem composeChars_marked (letter mark : Char) (cs : List Char) (hletter : letter.toNat < 0xc0)
    (hmark : 0x300 ≤ mark.toNat) (hself : decomposeChar mark = [mark]) (h : ∀ c ∈ cs, c.toNat < 0xc0) :
    composeChars (letter :: mark :: cs) = ((composePair? letter mark).elim [letter, mark] fun joined => [joined]) ++ cs := by
  have hbelow : ∀ c ∈ cs, c.toNat < 0x300 := fun c hc => Nat.lt_trans (h c hc) (by decide)
  have hlow : letter.toNat < 0x300 := Nat.lt_trans hletter (by decide)
  have hmarked : (letter :: mark :: cs).all (·.toNat < 0x300) = false := by
    rw [List.all_cons, List.all_cons, decide_eq_false (Nat.not_lt.mpr hmark), Bool.false_and, Bool.and_false]
  have hordered : orderReversed (letter :: mark :: cs) = cs.reverse ++ [mark, letter] := by
    unfold orderReversed
    rw [List.foldl_cons, List.foldl_cons, insertMark_starter hlow, insertMark_below, foldl_insertMark hbelow]
    intro d hd
    obtain rfl := Option.some.inj hd
    exact hlow
  unfold composeChars
  rw [hmarked, if_neg Bool.false_ne_true, List.flatMap_cons, List.flatMap_cons, flatMap_decomposeChar h, hself,
    show decomposeChar letter = [letter] from if_pos hletter]
  show composeOrdered (orderReversed (letter :: mark :: cs)).reverse = _
  rw [hordered, List.reverse_append, List.reverse_reverse]
  show composeOrdered (letter :: mark :: cs) = _
  rw [composeOrdered, combiningClass_below hlow, composeFrom]
  cases composePair? letter mark with
  | some joined => exact composeFrom_below hbelow
  | none =>
    -- Whatever the class of the mark is, it stays behind its letter.
    rw [composeFrom_below hbelow, composeFrom_below hbelow]
    exact ite_self _

/-! ## A name with three forms -/

theorem normalize_caron :
    normalize "J\u030c.example" = "j\u030c.example" ∧ normalize "j\u030c.example" = "\u01f0.example" := by
  have hlow : ∀ c ∈ ".example".toList, c.toNat < 0xc0 := by simp
  -- There is a small letter with a caron, but no capital one.
  have hpairs : composePair? 'J' '\u030c' = none ∧ composePair? 'j' '\u030c' = some '\u01f0'
      ∧ decomposeChar '\u030c' = ['\u030c'] := by decide +kernel
  have hcapital := composeChars_marked 'J' '\u030c' ".example".toList (by decide) (by decide) hpairs.2.2 hlow
  have hsmall := composeChars_marked 'j' '\u030c' ".example".toList (by decide) (by decide) hpairs.2.2 hlow
  rw [hpairs.1] at hcapital
  rw [hpairs.2.1] at hsmall
  unfold normalize normalizeChars
  rw [show "J\u030c.example".toList = 'J' :: '\u030c' :: ".example".toList by simp, hcapital,
    show "j\u030c.example".toList = 'j' :: '\u030c' :: ".example".toList by simp, hsmall]
  decide +kernel

end SenderPolicy.Domain
