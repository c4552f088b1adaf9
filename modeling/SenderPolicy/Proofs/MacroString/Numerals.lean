/-
  SenderPolicy.Proofs.MacroString.Numerals — which macro-strings cannot be read to their end.

  The digits behind the letter of an expression are taken by the wider class of digits and then read as a
  whole number, for which only decimal digits count, and no more than 4300 of them. A run of the wider class
  that spells no number is not reported as a fault: it ends the reading of the macro-string. Nothing else does.
  - `isOk_readInt`: a run of digits is read exactly if it is of decimal digits and not too long.
  - `readInt_nonneg`: and then it is no negative number.
  - `isOk_read`: a macro-string is read exactly if each of its expressions has such digits.
-/

import SenderPolicy.MacroString.Analysis

namespace SenderPolicy

/-- Mapping the result does not change whether there is one. -/
theorem isOk_map {ε α β : Type} (f : α → β) (x : Except ε α) : (x.map f).isOk = x.isOk := by cases x <;> rfl

theorem map_eq_ok {ε α β : Type} {f : α → β} {x : Except ε α} {y : β} (h : x.map f = .ok y) : ∃ a, x = .ok a ∧ f a = y := by
  cases x with
  | error e => cases h
  | ok a => exact ⟨a, rfl, Except.ok.inj h⟩

theorem bind_eq_ok {ε α β : Type} {f : α → Except ε β} {x : Except ε α} {y : β} (h : x.bind f = .ok y) :
    ∃ a, x = .ok a ∧ f a = .ok y := by
  cases x with
  | error e => cases h
  | ok a => exact ⟨a, rfl, h⟩

namespace Text

open Numeral

variable {c : Char} {run : List Char}

/-! ## Digits -/

theorem toNat_of_isDigit {c : Char} (h : c.isDigit = true) : 48 ≤ c.toNat ∧ c.toNat ≤ 57 := by
  simp only [Char.isDigit, Bool.and_eq_true, decide_eq_true_eq, ge_iff_le, UInt32.le_iff_toNat_le] at h
  exact h

def blanks : List Nat :=
  List.range' 9 5 ++ List.range' 28 5 ++ [0x85, 0xa0, 0x1680] ++ List.range' 0x2000 11 ++ [0x2028, 0x2029, 0x202f, 0x205f, 0x3000]

theorem mem_blanks (h : isBlank c = true) : c.toNat ∈ blanks := by
  simp only [isBlank, Bool.or_eq_true, Bool.and_eq_true, decide_eq_true_eq, beq_iff_eq] at h
  simp only [blanks, List.mem_append, List.mem_range'_1, List.mem_cons, List.not_mem_nil, or_false]
  omega

-- The tables are literals, which the kernel takes apart faster as lists of characters.
theorem zeros_apart : (zeros.all fun z => blanks.all fun n => !(decide (z ≤ n) && decide (n < z + 10))) = true := by
  unfold zeros Table.ranges Table.entries
  rw [String.toList_ofList]
  decide +kernel

theorem otherDigits_apart : (otherDigits.all fun r => blanks.all fun n => !(decide (r.1 ≤ n) && decide (n ≤ r.2))) = true := by
  unfold otherDigits Table.ranges Table.entries
  rw [String.toList_ofList]
  decide +kernel

/-- No white space is a digit. -/
theorem isDigit_of_isBlank (h : isBlank c = true) : isDigit c = false := by
  have hmem := mem_blanks h
  have hascii : c.toNat < 128 → c.isDigit = false := by
    intro hlow
    simp only [blanks, List.mem_append, List.mem_range'_1, List.mem_cons, List.not_mem_nil, or_false] at hmem
    cases hd : c.isDigit with
    | false => rfl
    | true =>
      have hbounds := toNat_of_isDigit hd
      omega
  have hdecimal : digit? c = none := by
    unfold digit?
    split
    · rename_i hlow
      rw [hascii hlow]
      rfl
    · rw [Option.map_eq_none_iff, List.find?_eq_none]
      intro z hz
      have happart := List.all_eq_true.mp (List.all_eq_true.mp zeros_apart z hz) _ hmem
      rw [Bool.not_eq_true]
      simpa only [Bool.not_eq_true'] using happart
  have hother : Table.mem otherDigits c = false := by
    unfold Table.mem
    rw [List.any_eq_false]
    intro r hr
    have happart := List.all_eq_true.mp (List.all_eq_true.mp otherDigits_apart r hr) _ hmem
    rw [Bool.not_eq_true]
    simpa only [Bool.not_eq_true'] using happart
  rw [isDigit, isDecimal, hdecimal, hother, Bool.and_false]
  rfl

theorem isDigit_digitChar {d : Nat} (h : d < 10) : (Nat.digitChar d).isDigit = true := by
  revert d; decide

theorem digit?_lt {d : Nat} (h : digit? c = some d) (hc : 128 ≤ c.toNat) : d < 10 := by
  unfold digit? at h
  rw [if_neg (by omega)] at h
  obtain ⟨z, hz, rfl⟩ := Option.map_eq_some_iff.mp h
  have hfound := List.find?_some hz
  simp only [Bool.and_eq_true, decide_eq_true_eq] at hfound
  omega

/-- Below U+0080 the decimal digits are those of ASCII. -/
theorem isDecimal_ascii (hc : c.toNat < 128) : isDecimal c = c.isDigit := by
  unfold isDecimal digit?
  rw [if_pos hc]
  cases c.isDigit <;> rfl

/-- The number reader sees a decimal digit as one of ASCII. -/
theorem plain_decimal (h : isDecimal c = true) : ∃ d, d.isDigit = true ∧ ∀ cs, plain (c :: cs) = d :: plain cs := by
  by_cases hlow : c.toNat < 128
  · rw [isDecimal_ascii hlow] at h
    have hbounds := toNat_of_isDigit h
    exact ⟨c, h, fun cs => by rw [plain, if_pos (by omega)]⟩
  · obtain ⟨d, hd⟩ := Option.isSome_iff_exists.mp h
    have hblank : isBlank c = false := by
      cases hb : isBlank c with
      | false => rfl
      | true => rw [← isDigit_of_isBlank hb, isDigit_of_digit? hd]
    refine ⟨Nat.digitChar d, isDigit_digitChar (digit?_lt hd (by omega)), fun cs => ?_⟩
    rw [plain, if_neg (by omega), hblank, hd]
    rfl

/-- It reads no further than to another digit. -/
theorem plain_other (h : isDigit c = true) (hd : isDecimal c = false) (cs : List Char) : plain (c :: cs) = ['?'] := by
  have hhigh : 128 ≤ c.toNat := by
    unfold isDigit at h
    rw [hd, Bool.false_or, Bool.and_eq_true] at h
    exact of_decide_eq_true h.1
  have hblank : isBlank c = false := by
    cases hb : isBlank c with
    | false => rfl
    | true => rw [← h, isDigit_of_isBlank hb]
  have hnone : digit? c = none := Option.isNone_iff_eq_none.mp (by simpa [isDecimal] using hd)
  rw [plain, if_neg (by omega), hblank, hnone]
  rfl

/-- Of a run of digits it sees the decimal ones at the start, and a question mark if there are others. -/
theorem plain_run (h : ∀ c ∈ run, isDigit c = true) :
    ∃ ds, (∀ d ∈ ds, d.isDigit = true) ∧
      ((run.all isDecimal = true ∧ plain run = ds ∧ ds.length = run.length) ∨
        (run.all isDecimal = false ∧ plain run = ds ++ ['?'])) := by
  induction run with
  | nil => exact ⟨[], by simp, .inl ⟨rfl, rfl, rfl⟩⟩
  | cons c cs ih =>
    obtain ⟨hc, hcs⟩ := List.forall_mem_cons.mp h
    cases hdecimal : isDecimal c with
    | false => exact ⟨[], by simp, .inr ⟨by rw [List.all_cons, hdecimal, Bool.false_and], plain_other hc hdecimal cs⟩⟩
    | true =>
      obtain ⟨d, hd, hstep⟩ := plain_decimal hdecimal
      obtain ⟨ds, hds, hplain⟩ := ih hcs
      refine ⟨d :: ds, List.forall_mem_cons.mpr ⟨hd, hds⟩, ?_⟩
      rw [List.all_cons, hdecimal, Bool.true_and, hstep]
      rcases hplain with ⟨hall, hplain, hlength⟩ | ⟨hall, hplain⟩
      · exact .inl ⟨hall, by rw [hplain], by rw [List.length_cons, hlength, List.length_cons]⟩
      · exact .inr ⟨hall, by rw [hplain, List.cons_append]⟩

theorem spaced_digits (h : ∀ d ∈ run, d.isDigit = true) (before : Bool) : spaced before run = true := by
  induction run generalizing before with
  | nil => rfl
  | cons d ds ih =>
    obtain ⟨hd, hds⟩ := List.forall_mem_cons.mp h
    have hunderscore : d ≠ '_' := by rintro rfl; exact absurd hd (by decide)
    unfold spaced
    split
    · contradiction
    · rename_i he
      exact absurd (List.cons.inj he).1 hunderscore
    · rename_i he
      obtain ⟨rfl, rfl⟩ := List.cons.inj he
      exact ih hds _

/-- Whether a run of digits spells no number: one of them is no decimal digit, or there are too many. -/
def noNumeral (run : List Char) : Bool := !run.all isDecimal || decide (maxDigits < run.length)

theorem isSpace_of_isDigit (h : c.isDigit = true) : isSpace c = false := by
  have hlow := (toNat_of_isDigit h).1
  simp only [isSpace, Bool.or_eq_false_iff, Bool.and_eq_false_iff, decide_eq_false_iff_not, beq_eq_false_iff_ne]
  refine ⟨Or.inr (by omega), ?_⟩
  rintro rfl
  exact absurd hlow (by decide)

theorem unsign_digit (h : c.isDigit = true) (cs : List Char) : unsign (c :: cs) = (false, c :: cs) := by
  unfold unsign
  split
  · rename_i he
    obtain ⟨rfl, rfl⟩ := List.cons.inj he
    exact absurd h (by decide)
  · rename_i he
    obtain ⟨rfl, rfl⟩ := List.cons.inj he
    exact absurd h (by decide)
  · rfl

theorem unsign_plain {ds tail : List Char} (hds : ∀ d ∈ ds, d.isDigit = true) (htail : tail = [] ∨ tail = ['?']) :
    unsign ((ds ++ tail).dropWhile isSpace) = (false, ds ++ tail) := by
  cases ds with
  | nil => rcases htail with rfl | rfl <;> rfl
  | cons d ds =>
    have hd := hds d List.mem_cons_self
    rw [List.cons_append, List.dropWhile_cons, isSpace_of_isDigit hd, if_neg (by simp), unsign_digit hd]

/-- ASCII digits, and nothing or a question mark behind them, make up a number if there are digits, if they are
not too many and if there is no question mark. -/
theorem isOk_readInt_plain {text : String} {ds tail : List Char} (hds : ∀ d ∈ ds, d.isDigit = true)
    (htail : tail = [] ∨ tail = ['?']) (hplain : plain text.toList = ds ++ tail) :
    (readInt text).isOk = (!ds.isEmpty && decide (ds.length ≤ maxDigits) && tail.isEmpty) := by
  have hnumeral : ∀ d ∈ ds, (d.isDigit || d == '_') = true := fun d hd => by rw [hds d hd, Bool.true_or]
  have htake : (ds ++ tail).takeWhile (fun c => c.isDigit || c == '_') = ds := by
    rw [List.takeWhile_append_of_pos hnumeral]
    rcases htail with rfl | rfl <;> simp
  have hdrop : (ds ++ tail).dropWhile (fun c => c.isDigit || c == '_') = tail := by
    rw [List.dropWhile_append_of_pos hnumeral]
    rcases htail with rfl | rfl <;> rfl
  have hfilter : ds.filter (· != '_') = ds := by
    refine List.filter_eq_self.mpr fun d hd => ?_
    rw [bne_iff_ne]
    rintro rfl
    exact absurd (hds _ hd) (by decide)
  unfold readInt
  simp only [hplain, unsign_plain hds htail, htake, hdrop, hfilter, spaced_digits hds, Bool.not_true, Bool.or_false]
  cases hempty : ds.isEmpty with
  | true => rfl
  | false =>
    by_cases hlong : ds.length > maxDigits
    · rw [if_neg (by simp), if_pos hlong, decide_eq_false (by omega)]
      rfl
    · rw [if_neg (by simp), if_neg hlong, decide_eq_true (by omega)]
      rcases htail with rfl | rfl <;> rfl

/-- A run of digits is read as a number exactly if it spells one. -/
theorem isOk_readInt (hne : run ≠ []) (h : ∀ c ∈ run, isDigit c = true) :
    (readInt (String.ofList run)).isOk = !noNumeral run := by
  obtain ⟨ds, hds, ⟨hall, hplain, hlength⟩ | ⟨hall, hplain⟩⟩ := plain_run h
  · have hsome : ds.isEmpty = false := by
      rw [List.isEmpty_eq_false_iff]
      rintro rfl
      exact hne (List.length_eq_zero_iff.mp hlength.symm)
    rw [isOk_readInt_plain hds (.inl rfl) (by rw [String.toList_ofList, hplain, List.append_nil]), noNumeral, hall, hsome, hlength]
    by_cases hlong : maxDigits < run.length
    · simp [hlong]
    · simp [hlong, Nat.le_of_not_lt hlong]
  · rw [isOk_readInt_plain hds (.inr rfl) (by rw [String.toList_ofList, hplain]), noNumeral, hall]
    simp

/-- A run of digits has no sign, so it spells no negative number. -/
theorem readInt_nonneg (h : ∀ c ∈ run, isDigit c = true) {i : Int} (hi : readInt (String.ofList run) = .ok i) : 0 ≤ i := by
  obtain ⟨ds, hds, hplain⟩ := plain_run h
  obtain ⟨tail, htail, hplain⟩ : ∃ tail, (tail = [] ∨ tail = ['?']) ∧ Numeral.plain run = ds ++ tail := by
    rcases hplain with ⟨-, hplain, -⟩ | ⟨-, hplain⟩
    · exact ⟨[], .inl rfl, by simpa using hplain⟩
    · exact ⟨['?'], .inr rfl, hplain⟩
  unfold readInt at hi
  simp only [String.toList_ofList, hplain, unsign_plain hds htail, Bool.false_eq_true, if_false] at hi
  repeat' split at hi
  all_goals cases hi
  exact Int.natCast_nonneg _

end Text

namespace MacroString

open Text

/-! ## Macro-strings -/

/-- Whether the digits of an expression spell no number. -/
def bodyHalts : List Char → Bool
  | [] => false
  | c :: rest => (Letter.ofChar? c).isSome && noNumeral (rest.takeWhile isDigit)

/-- Whether a macro-string holds such an expression. -/
def halts (text : List Char) : Bool :=
  (lex text).any fun
    | .braced body => bodyHalts body
    | _ => false

theorem isOk_readDigits {run : List Char} (h : ∀ c ∈ run, isDigit c = true) : (readDigits run).isOk = !noNumeral run := by
  unfold readDigits
  cases run with
  | nil => rfl
  | cons c cs => exact (isOk_map _ _).trans (isOk_readInt (List.cons_ne_nil _ _) h)

theorem isOk_readBody (body : List Char) : (readBody body).isOk = !bodyHalts body := by
  unfold readBody bodyHalts
  cases body with
  | nil => rfl
  | cons c rest =>
    dsimp only
    cases Letter.ofChar? c with
    | none => rfl
    | some letter =>
      have hrun := isOk_readDigits fun c => List.all_eq_true.mp (List.all_takeWhile (p := isDigit) (l := rest)) c
      dsimp only
      rw [Option.isSome_some, Bool.true_and, ← hrun]
      cases readDigits (rest.takeWhile isDigit) with
      | error e => rfl
      | ok digits =>
        dsimp only
        split
        · rfl
        · split <;> rfl

theorem isOk_readFrom (text : String) (position : Nat) (ls : List Lexeme) :
    (readFrom text position ls).isOk = !ls.any fun | .braced body => bodyHalts body | _ => false := by
  induction ls generalizing position with
  | nil => rfl
  | cons l ls ih =>
    unfold readFrom
    rw [List.any_cons]
    cases l with
    | braced body =>
      dsimp only
      rw [Bool.not_or, ← isOk_readBody]
      cases readBody body with
      | error e => rfl
      | ok r => cases r <;> exact (isOk_map _ _).trans (ih _)
    | _ => exact (isOk_map _ _).trans (ih _)

theorem isOk_read (text : String) : (read text).isOk = !halts text.toList := isOk_readFrom text 0 _

theorem isOk_analyze (text : String) : (analyze text).isOk = !halts text.toList := (isOk_map _ _).trans (isOk_read text)

/-- Without a percent sign there is no expression. -/
theorem halts_plain {text : List Char} (h : '%' ∉ text) : halts text = false := by
  unfold halts
  rw [List.any_eq_false]
  intro l hl
  cases l with
  | braced body =>
    have hspelled : '%' ∈ (lex text).flatMap Lexeme.spelled :=
      List.mem_flatMap.mpr ⟨_, hl, List.mem_cons_self⟩
    rw [spelled_lex] at hspelled
    exact absurd hspelled h
  | _ => simp

end MacroString

end SenderPolicy
