/-
  SenderPolicy.Proofs.MacroString.Grammar — the macro-strings of the standard, and the scanner.

  A macro-string is a sequence of parts: characters other than `%`, the three escapes, and expressions. An
  expression is spelled by a letter, maybe digits, maybe an `r` and maybe delimiters, in this order and in
  braces. The scanner does not go by this grammar: it looks for the closing brace first and takes what stands
  before it apart afterwards, it goes on behind every fault, and an `r` behind the brace may be a letter or a
  reversal. On ASCII texts it comes to the same.
  - `Decomposes.lex`: the lexemes of a decomposed text are those of its parts.
  - `readBody_body`: what a spelling has between its braces is read without fault, as what it spells.
  - `exists_spelling`: and whatever is read there without fault in an ASCII text is so spelled.
  - `body_injective`: there is no other spelling of the same.
-/

import Mathlib.Data.List.TakeWhile
import SenderPolicy.Proofs.MacroString.Bodies

namespace SenderPolicy.MacroString

open Text (isDigit)

/-! ## The grammar -/

/-- How an expression is spelled between its braces. -/
structure Spelling where
  letter : Char
  digits : List Char
  reversal : Option Char
  delimiters : List Char
  deriving DecidableEq, Repr

namespace Spelling

def body (s : Spelling) : List Char := s.letter :: (s.digits ++ (s.reversal.toList ++ s.delimiters))

def chars (s : Spelling) : List Char := '%' :: '\x7b' :: (s.body ++ ['\x7d'])

def letters : List Char :=
  ['s', 'l', 'o', 'd', 'i', 'p', 'h', 'c', 'r', 't', 'v', 'S', 'L', 'O', 'D', 'I', 'P', 'H', 'C', 'R', 'T', 'V']

/-- The number that the digits spell. -/
def count (s : Spelling) : Nat := Text.Numeral.value s.digits

structure WellFormed (s : Spelling) : Prop where
  letter : s.letter ∈ letters
  digits : ∀ d ∈ s.digits, d.isDigit = true
  count : s.digits ≠ [] → 1 ≤ s.count ∧ s.count ≤ 128
  reversal : ∀ c ∈ s.reversal, c = 'r' ∨ c = 'R'
  delimiters : ∀ d ∈ s.delimiters, d ∈ ['.', '-', '+', ',', '/', '_', '=']

instance (s : Spelling) : Decidable s.WellFormed :=
  decidable_of_iff
    (s.letter ∈ letters ∧ s.digits.all (·.isDigit) = true ∧ (s.digits ≠ [] → 1 ≤ s.count ∧ s.count ≤ 128) ∧
      s.reversal.toList.all (['r', 'R'].contains ·) = true ∧ s.delimiters.all (['.', '-', '+', ',', '/', '_', '='].contains ·) = true)
    (by
      simp only [List.all_eq_true, List.contains_iff_mem, Option.mem_toList]
      exact ⟨fun ⟨hl, hn, hc, hr, hd⟩ => ⟨hl, hn, hc, fun c hmem => by simpa using hr c hmem, hd⟩,
        fun ⟨hl, hn, hc, hr, hd⟩ => ⟨hl, hn, hc, fun c hmem => by simpa using hr c hmem, hd⟩⟩)

/-- What the spelling says of an expression. -/
structure Means (s : Spelling) (letter : Letter) (t : Transformers) : Prop where
  letter : letter.char = s.letter.toLower
  digits : t.digits = if s.digits = [] then none else some (s.count : Int)
  reversed : t.reversed = s.reversal.isSome
  /-- Each delimiter once, or the dot if there are none. -/
  delimiters : t.delimiters = if s.delimiters = [] then ['.'] else s.delimiters.eraseDups
  encoded : t.encoded = s.letter.isUpper

end Spelling

inductive Part where
  | plain (c : Char)
  | escape (e : Escape)
  | expression (s : Spelling)
  deriving DecidableEq, Repr

namespace Part

def chars : Part → List Char
  | .plain c => [c]
  | .escape e => ['%', e.char]
  | .expression s => s.chars

def WellFormed : Part → Prop
  | .plain c => c ≠ '%'
  | .escape _ => True
  | .expression s => s.WellFormed

instance : (p : Part) → Decidable p.WellFormed
  | .plain c => inferInstanceAs (Decidable (c ≠ '%'))
  | .escape _ => isTrue trivial
  | .expression s => inferInstanceAs (Decidable s.WellFormed)

def isPlain : Part → Bool
  | .plain _ => true
  | _ => false

def spelling? : Part → Option Spelling
  | .expression s => some s
  | _ => none

end Part

/-- A text and the parts that it consists of. -/
structure Decomposes (text : List Char) (parts : List Part) : Prop where
  wellFormed : ∀ p ∈ parts, p.WellFormed
  chars : parts.flatMap Part.chars = text

instance (text : List Char) (parts : List Part) : Decidable (Decomposes text parts) :=
  decidable_of_iff (parts.all (decide ·.WellFormed) = true ∧ parts.flatMap Part.chars = text)
    ⟨fun ⟨hwell, hchars⟩ => ⟨fun p hp => of_decide_eq_true (List.all_eq_true.mp hwell p hp), hchars⟩,
      fun ⟨hwell, hchars⟩ => ⟨List.all_eq_true.mpr fun p hp => decide_eq_true (hwell p hp), hchars⟩⟩

/-- The parts, each with the place where it begins. -/
def placed : (position : Nat) → List Part → List (Nat × Part)
  | _, [] => []
  | position, p :: ps => (position, p) :: placed (position + p.chars.length) ps

/-- The spellings among the parts, each with the place of its `%`. -/
def spellingsFrom (position : Nat) (parts : List Part) : List (Nat × Spelling) :=
  (placed position parts).filterMap fun entry => entry.2.spelling?.map (entry.1, ·)

/-- Every run of digits in the text is shorter than the longest that is ever read as a number. -/
def ShortRuns (text : List Char) : Prop :=
  ∀ run, run <:+: text → (∀ c ∈ run, c.isDigit = true) → run.length < 4300

def IsAscii (text : List Char) : Prop := ∀ c ∈ text, c.toNat < 128

example : Decomposes "%\x7bd2r.-.\x7d%%x".toList
    [.expression ⟨'d', ['2'], some 'r', ['.', '-', '.']⟩, .escape .percent, .plain 'x'] := by decide +kernel

/-! ## Lexemes -/

def Part.lexeme : Part → Lexeme
  | .plain c => .plain c
  | .escape e => .escape e
  | .expression s => .braced s.body

theorem spelled_lexeme (p : Part) : p.lexeme.spelled = p.chars := by
  cases p <;> rfl

theorem ofChar?_escape (e : Escape) : Escape.ofChar? e.char = some e := by
  cases e <;> rfl

/-- What is read of an open brace up to the closing one. -/
theorem lexFrom_body {body : List Char} (h : '\x7d' ∉ body) (before rest : List Char) :
    lexFrom (some before) (body ++ '\x7d' :: rest) = .braced (before.reverse ++ body) :: lexFrom none rest := by
  induction body generalizing before with
  | nil => simp [lexFrom]
  | cons c body ih =>
    have hc : c ≠ '\x7d' := by
      intro hc
      exact h (hc ▸ List.mem_cons_self)
    have hbody : '\x7d' ∉ body := fun hm => h (List.mem_cons_of_mem _ hm)
    rw [List.cons_append, lexFrom, if_neg hc, ih hbody, List.reverse_cons, List.append_assoc]
    rfl

theorem Spelling.WellFormed.brace_not_mem {s : Spelling} (h : s.WellFormed) : '\x7d' ∉ s.body := by
  intro hm
  rcases List.mem_cons.mp hm with hm | hm
  · exact absurd (hm ▸ h.letter) (by decide)
  rcases List.mem_append.mp hm with hm | hm
  · exact absurd (h.digits _ hm) (by decide)
  rcases List.mem_append.mp hm with hm | hm
  · rcases h.reversal _ (Option.mem_toList.mp hm) with hm | hm <;> exact absurd hm (by decide)
  · exact absurd (h.delimiters _ hm) (by decide)

theorem lexFrom_plain {c : Char} (h : c ≠ '%') (rest : List Char) : lexFrom none (c :: rest) = .plain c :: lexFrom none rest := by
  cases rest with
  | nil => simp [lexFrom, h]
  | cons d rest => simp [lexFrom, h]

theorem lexFrom_chars {p : Part} (h : p.WellFormed) (rest : List Char) :
    lexFrom none (p.chars ++ rest) = p.lexeme :: lexFrom none rest := by
  cases p with
  | plain c => exact lexFrom_plain h rest
  | escape e =>
    show lexFrom none ('%' :: e.char :: rest) = _
    rw [lexFrom, if_neg (by simp), ofChar?_escape]
    rfl
  | expression s =>
    have hs : s.WellFormed := h
    have hchars : Part.chars (.expression s) ++ rest = '%' :: '\x7b' :: (s.body ++ '\x7d' :: rest) := by
      simp [Part.chars, Spelling.chars]
    have hopen : lexFrom none ('%' :: '\x7b' :: (s.body ++ '\x7d' :: rest)) = lexFrom (some []) (s.body ++ '\x7d' :: rest) := rfl
    rw [hchars, hopen, lexFrom_body hs.brace_not_mem]
    rfl

/-- The lexemes of a decomposed text are those of its parts. -/
theorem Decomposes.lex {text : List Char} {parts : List Part} (h : Decomposes text parts) : lex text = parts.map Part.lexeme := by
  obtain ⟨hparts, rfl⟩ := h
  unfold MacroString.lex
  induction parts with
  | nil => rfl
  | cons p ps ih =>
    obtain ⟨hp, hps⟩ := List.forall_mem_cons.mp hparts
    rw [List.flatMap_cons, lexFrom_chars hp, ih hps, List.map_cons]

/-- A percent sign never stands for itself. -/
theorem plain_of_mem_lexFrom {state : Option (List Char)} {text : List Char} {c : Char} (h : .plain c ∈ lexFrom state text) :
    c ≠ '%' := by
  fun_induction lexFrom state text with
  | case1 body => simp at h
  | case2 body cs ih => exact ih (by simpa using h)
  | case3 body d cs hd ih => exact ih h
  | case4 => simp at h
  | case5 => simp at h
  | case6 d hd => obtain rfl : c = d := by simpa using h
                  exact hd
  | case7 d e cs hd ih =>
    rcases List.mem_cons.mp h with h | h
    · cases h
      exact hd
    · exact ih h
  | case8 d e cs hd esc he ih => exact ih (by simpa using h)
  | case9 d cs hd he ih => exact ih h
  | case10 d e cs hd he hbrace ih => exact ih (by simpa using h)

/-! ## Bodies -/

theorem letters_ascii : ∀ n < 128, (Letter.ofChar? (Char.ofNat n)).isSome = Spelling.letters.contains (Char.ofNat n) := by
  decide +kernel

theorem ofChar?_isSome {c : Char} (h : c.toNat < 128) : (Letter.ofChar? c).isSome = true ↔ c ∈ Spelling.letters := by
  have hc := letters_ascii c.toNat h
  rw [Char.ofNat_toNat] at hc
  rw [hc, List.contains_iff_mem]

theorem char_of_ofChar? {c : Char} {l : Letter} (h : Letter.ofChar? c = some l) : l.char = c.toLower := by
  have hfound := List.find?_some h
  exact beq_iff_eq.mp hfound

/-- On ASCII text the scanner's digits are the ten of ASCII. -/
theorem isDigit_ascii {c : Char} (h : c.toNat < 128) : isDigit c = c.isDigit := by
  rw [isDigit, Text.isDecimal_ascii h, decide_eq_false (by omega), Bool.false_and, Bool.or_false]

theorem plain_ascii {run : List Char} (h : ∀ c ∈ run, c.isDigit = true) : Text.Numeral.plain run = run := by
  induction run with
  | nil => rfl
  | cons c cs ih =>
    obtain ⟨hc, hcs⟩ := List.forall_mem_cons.mp h
    have hlow := Text.toNat_of_isDigit hc
    rw [Text.Numeral.plain, if_pos (by omega), ih hcs]

/-- A run of ASCII digits that is not too long spells its number. -/
theorem readDigits_run {run : List Char} (h : ∀ c ∈ run, c.isDigit = true) (hshort : run.length < 4300) :
    readDigits run = .ok (if run = [] then none else some (Text.Numeral.value run : Int)) := by
  unfold readDigits
  cases run with
  | nil => rfl
  | cons c cs =>
    have hnumeral : ∀ d ∈ c :: cs, (d.isDigit || d == '_') = true := by
      intro d hd
      rw [h d hd, Bool.true_or]
    have hfilter : (c :: cs).filter (· != '_') = c :: cs := by
      refine List.filter_eq_self.mpr fun d hd => bne_iff_ne.mpr ?_
      rintro rfl
      exact absurd (h _ hd) (by decide)
    have hstart : (c :: cs).dropWhile Text.Numeral.isSpace = c :: cs := by
      rw [List.dropWhile_cons, Text.isSpace_of_isDigit (h c List.mem_cons_self), if_neg Bool.false_ne_true]
    have hfits : ¬ (c :: cs).length > Text.Numeral.maxDigits := by
      have hmax : Text.Numeral.maxDigits = 4300 := rfl
      omega
    have hread : Text.readInt (String.ofList (c :: cs)) = .ok (Text.Numeral.value (c :: cs) : Int) := by
      unfold Text.readInt
      simp only [String.toList_ofList, plain_ascii h, hstart, Text.unsign_digit (h c List.mem_cons_self),
        List.takeWhile_eq_self_iff.mpr hnumeral, List.dropWhile_eq_nil_iff.mpr hnumeral, hfilter, Text.spaced_digits h]
      rw [if_neg (by simp), if_neg hfits]
      rfl
    rw [hread]
    rfl

/-- Where the digits end. -/
theorem span_digits {run tail : List Char} (hrun : ∀ d ∈ run, d.isDigit = true) (htail : ∀ c ∈ tail.head?, isDigit c = false) :
    (run ++ tail).takeWhile isDigit = run ∧ (run ++ tail).dropWhile isDigit = tail := by
  have hdigits : ∀ d ∈ run, isDigit d = true := by
    intro d hd
    have hlow := Text.toNat_of_isDigit (hrun d hd)
    rw [isDigit_ascii (by omega)]
    exact hrun d hd
  rw [List.takeWhile_append_of_pos hdigits, List.dropWhile_append_of_pos hdigits]
  cases tail with
  | nil => simp
  | cons c tail =>
    have hc : isDigit c = false := htail c rfl
    simp [hc]

theorem delimiter_other {d : Char} (h : d ∈ ['.', '-', '+', ',', '/', '_', '=']) :
    isDigit d = false ∧ d ≠ 'r' ∧ d ≠ 'R' ∧ isDelimiter d = true := by
  have hall : (['.', '-', '+', ',', '/', '_', '='].all fun d =>
      decide (isDigit d = false ∧ d ≠ 'r' ∧ d ≠ 'R' ∧ isDelimiter d = true)) = true := by decide +kernel
  exact of_decide_eq_true (List.all_eq_true.mp hall d h)

namespace Spelling.WellFormed

variable {s : Spelling}

theorem span (h : s.WellFormed) :
    (s.digits ++ (s.reversal.toList ++ s.delimiters)).takeWhile isDigit = s.digits ∧
      (s.digits ++ (s.reversal.toList ++ s.delimiters)).dropWhile isDigit = s.reversal.toList ++ s.delimiters := by
  refine span_digits h.digits fun c hc => ?_
  cases hr : s.reversal with
  | some r =>
    rw [hr] at hc
    obtain rfl : r = c := by simpa using hc
    rcases h.reversal r hr with rfl | rfl <;> decide
  | none =>
    rw [hr] at hc
    exact (delimiter_other (h.delimiters c (List.mem_of_head? hc))).1

theorem takeReversal (h : s.WellFormed) :
    takeReversal (s.reversal.toList ++ s.delimiters) = (s.reversal.isSome, s.delimiters) := by
  cases hr : s.reversal with
  | some r => rcases h.reversal r hr with rfl | rfl <;> rfl
  | none =>
    cases hd : s.delimiters with
    | nil => rfl
    | cons d ds =>
      obtain ⟨_, hlower, hupper, _⟩ := delimiter_other (h.delimiters d (by rw [hd]; exact List.mem_cons_self))
      show (if d == 'r' || d == 'R' then _ else _) = _
      rw [if_neg (by simp [hlower, hupper])]
      rfl

/-- The body of a well-formed spelling is read as what it says. -/
theorem readBody_body (h : s.WellFormed) (hshort : s.digits.length < 4300) :
    ∃ b, readBody s.body = .ok (.ok b) ∧ s.Means b.letter b.transformers := by
  have hascii : s.letter.toNat < 128 := by
    have hletters : letters.all (·.toNat < 128) = true := by decide
    exact of_decide_eq_true (List.all_eq_true.mp hletters _ h.letter)
  obtain ⟨l, hl⟩ := Option.isSome_iff_exists.mp ((ofChar?_isSome hascii).mpr h.letter)
  refine ⟨⟨l, if s.digits = [] then none else some (s.count : Int), s.reversal.isSome, orDot s.delimiters, s.letter.isUpper⟩,
    readBody_iff.mpr ⟨_, _, rfl, ?_⟩, char_of_ofChar? hl, rfl, rfl, ?_, rfl⟩
  · refine ⟨hl, ?_, fun n hn => ?_, ?_, fun d hd => ?_, ?_, rfl⟩
    · rw [h.span.1]
      exact readDigits_run h.digits hshort
    · by_cases hne : s.digits = []
      · simp [hne] at hn
      · have hcount := h.count hne
        obtain rfl : (s.count : Int) = n := by simpa [hne] using hn
        unfold maxDigits
        omega
    · rw [h.span.2, h.takeReversal]
    · rw [h.span.2, h.takeReversal] at hd
      exact (delimiter_other (h.delimiters d hd)).2.2.2
    · rw [h.span.2, h.takeReversal]
  · simp only [orDot, List.isEmpty_iff]

end Spelling.WellFormed

/-- What is taken as the mark of a reversal can be put back. -/
theorem exists_reversal (tail : List Char) :
    ∃ reversal : Option Char, (∀ r ∈ reversal, r = 'r' ∨ r = 'R') ∧ reversal.toList ++ (takeReversal tail).2 = tail := by
  cases tail with
  | nil => exact ⟨none, by simp, rfl⟩
  | cons d ds =>
    by_cases hd : d = 'r' ∨ d = 'R'
    · refine ⟨some d, fun r hr => ?_, ?_⟩
      · obtain rfl : d = r := by simpa using hr
        exact hd
      · rw [takeReversal, if_pos (by simpa using hd)]
        rfl
    · exact ⟨none, by simp, by rw [takeReversal, if_neg (by simpa using hd)]; rfl⟩

/-- A body that is read without fault is spelled by the grammar. -/
theorem exists_spelling {body : List Char} (hascii : IsAscii body) (hruns : ShortRuns body) {b : Body}
    (h : readBody body = .ok (.ok b)) : ∃ s : Spelling, s.WellFormed ∧ s.body = body := by
  obtain ⟨c, rest, rfl, hmeans⟩ := readBody_iff.mp h
  obtain ⟨hc, hrest⟩ := List.forall_mem_cons.mp hascii
  have hletter : c ∈ Spelling.letters := (ofChar?_isSome hc).mp (by rw [hmeans.letter]; rfl)
  have hrun : ∀ d ∈ rest.takeWhile isDigit, d.isDigit = true := by
    intro d hd
    have hdigit : isDigit d = true := List.all_eq_true.mp List.all_takeWhile d hd
    rwa [isDigit_ascii (hrest d ((List.takeWhile_sublist _).subset hd))] at hdigit
  have hwithin : rest.takeWhile isDigit <:+: c :: rest :=
    (List.takeWhile_prefix _).isInfix.trans (List.suffix_cons c rest).isInfix
  have hdigits := Except.ok.inj ((readDigits_run hrun (hruns _ hwithin hrun)).symm.trans hmeans.digits)
  obtain ⟨reversal, hreversal, htail⟩ := exists_reversal (rest.dropWhile isDigit)
  refine ⟨⟨c, rest.takeWhile isDigit, reversal, (takeReversal (rest.dropWhile isDigit)).2⟩,
    ⟨hletter, hrun, fun hne => ?_, hreversal, fun d hd => List.contains_iff_mem.mp (hmeans.allowed d hd)⟩, ?_⟩
  · show 1 ≤ Text.Numeral.value (rest.takeWhile isDigit) ∧ Text.Numeral.value (rest.takeWhile isDigit) ≤ 128
    change rest.takeWhile isDigit ≠ [] at hne
    rw [if_neg hne] at hdigits
    obtain ⟨hlow, hhigh⟩ := hmeans.count _ hdigits.symm
    unfold maxDigits at hhigh
    omega
  · show c :: (rest.takeWhile isDigit ++ (reversal.toList ++ (takeReversal (rest.dropWhile isDigit)).2)) = c :: rest
    rw [htail, List.takeWhile_append_dropWhile]

/-- A well-formed spelling is determined by its body. -/
theorem body_injective {s s' : Spelling} (h : s.WellFormed) (h' : s'.WellFormed) (hbody : s.body = s'.body) : s = s' := by
  obtain ⟨hletter, htail⟩ := List.cons.inj hbody
  have hdigits := h.span.1
  have hrest := h.span.2
  rw [htail] at hdigits hrest
  have hreversal := h.takeReversal
  rw [← hrest, h'.span.2, h'.takeReversal, Prod.mk.injEq] at hreversal
  have hr : s'.reversal.toList = s.reversal.toList := by
    have happend := h'.span.2.symm.trans hrest
    rw [hreversal.2] at happend
    exact List.append_cancel_right happend
  obtain ⟨letter, digits, reversal, delimiters⟩ := s
  obtain ⟨letter', digits', reversal', delimiters'⟩ := s'
  rw [Spelling.mk.injEq]
  refine ⟨hletter, hdigits.symm.trans h'.span.1, ?_, hreversal.2.symm⟩
  cases reversal <;> cases reversal' <;> simp_all

end SenderPolicy.MacroString
