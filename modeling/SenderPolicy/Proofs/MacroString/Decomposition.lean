/-
  SenderPolicy.Proofs.MacroString.Decomposition — the scanner against the grammar of macro-strings.

  The scanner finds no fault in an ASCII text exactly if the text is made of the parts of the grammar. There is
  one way at most to see a text so, and the expressions that are found are those among its parts, in order.
  - `Decomposes.unique`: a text has at most one decomposition.
  - `readFrom_parts`: well-formed parts are read without fault, and their expressions say what is spelled.
  - `exists_parts`: what is read without fault is made of well-formed parts.
  - `existsUnique_covering`: every `%` belongs to one escape or expression.
  - `faultless_iff_decomposes`: all of this of a text.
-/

import Mathlib.Data.List.Forall2
import SenderPolicy.Proofs.MacroString.Grammar

namespace SenderPolicy.MacroString

/-- The expression that a spelling is read as where it stands. -/
structure Spelling.Reads (s : Spelling) (position : Nat) (e : Expression) : Prop where
  raw : e.raw = String.ofList s.chars
  position : e.position = position
  meaning : s.Means e.letter e.transformers

/-- Whether the character at a place of the text belongs to a part. -/
def Covers (entry : Nat × Part) (i : Nat) : Prop := entry.1 ≤ i ∧ i < entry.1 + entry.2.chars.length

theorem ShortRuns.within {text text' : List Char} (h : ShortRuns text) (hwithin : text' <:+: text) : ShortRuns text' :=
  fun run hrun => h run (hrun.trans hwithin)

theorem IsAscii.within {text text' : List Char} (h : IsAscii text) (hwithin : text' <:+: text) : IsAscii text' :=
  fun c hc => h c (hwithin.subset hc)

/-! ## One decomposition -/

theorem lexeme_injective {p p' : Part} (h : p.WellFormed) (h' : p'.WellFormed) (hlexeme : p.lexeme = p'.lexeme) : p = p' := by
  cases p <;> cases p' <;> simp only [Part.lexeme, Lexeme.plain.injEq, Lexeme.escape.injEq, Lexeme.braced.injEq, reduceCtorEq] at hlexeme
  case plain => rw [hlexeme]
  case escape => rw [hlexeme]
  case expression => rw [body_injective h h' hlexeme]

theorem Decomposes.unique {text : List Char} {parts parts' : List Part} (h : Decomposes text parts) (h' : Decomposes text parts') :
    parts' = parts := by
  have hlexemes : parts'.map Part.lexeme = parts.map Part.lexeme := h'.lex.symm.trans h.lex
  have hparts := h.wellFormed
  have hparts' := h'.wellFormed
  clear h h'
  induction parts generalizing parts' with
  | nil => exact List.map_eq_nil_iff.mp hlexemes
  | cons p ps ih =>
    cases parts' with
    | nil => simp at hlexemes
    | cons p' ps' =>
      obtain ⟨hp, hps⟩ := List.forall_mem_cons.mp hparts
      obtain ⟨hp', hps'⟩ := List.forall_mem_cons.mp hparts'
      obtain ⟨hhead, htail⟩ := List.cons.inj hlexemes
      rw [lexeme_injective hp' hp hhead, ih htail hps hps']

/-! ## Parts are read -/

theorem digits_within (s : Spelling) : s.digits <:+: s.chars :=
  ⟨['%', '\x7b', s.letter], s.reversal.toList ++ s.delimiters ++ ['\x7d'], by simp [Spelling.chars, Spelling.body]⟩

/-- Well-formed parts are read without fault, and their expressions are read as they are spelled. -/
theorem readFrom_parts {parts : List Part} (h : ∀ p ∈ parts, p.WellFormed) (hruns : ShortRuns (parts.flatMap Part.chars))
    (text : String) (position : Nat) :
    ∃ r, readFrom text position (parts.map Part.lexeme) = .ok r ∧ r.faults = [] ∧
      List.Forall₂ (fun entry e => entry.2.Reads entry.1 e) (spellingsFrom position parts) r.expressions := by
  induction parts generalizing position with
  | nil => exact ⟨⟨[], []⟩, rfl, rfl, .nil⟩
  | cons p ps ih =>
    obtain ⟨hp, hps⟩ := List.forall_mem_cons.mp h
    rw [List.flatMap_cons] at hruns
    obtain ⟨r, hread, hfaults, hexpressions⟩ := ih hps (hruns.within (List.suffix_append _ _).isInfix) (position + p.chars.length)
    rw [List.map_cons, readFrom.eq_def]
    dsimp only
    rw [spelled_lexeme, hread]
    cases p with
    | plain c => exact ⟨r.addPiece (.plain c), rfl, hfaults, hexpressions⟩
    | escape e => exact ⟨r.addPiece (.escape e), rfl, hfaults, hexpressions⟩
    | expression s =>
      have hs : s.WellFormed := hp
      have hdigits : s.digits.length < 4300 :=
        hruns.within (List.prefix_append _ _).isInfix _ (digits_within s) hs.digits
      obtain ⟨b, hbody, hmeaning⟩ := hs.readBody_body hdigits
      refine ⟨r.addPiece (.expression ⟨String.ofList s.chars, position, b.letter, b.transformers⟩), ?_, hfaults, ?_⟩
      · dsimp only [Part.lexeme]
        rw [hbody]
        rfl
      · exact .cons ⟨rfl, rfl, hmeaning⟩ hexpressions

/-! ## What is read are parts -/

/-- What reading one lexeme comes to: a fault or a piece, before whatever the others give. -/
theorem readFrom_cons {text : String} {position : Nat} {l : Lexeme} {ls : List Lexeme} {r : Reading}
    (h : readFrom text position (l :: ls) = .ok r) :
    ∃ r', readFrom text (position + l.spelled.length) ls = .ok r' ∧
      ((∃ f, r = r'.addFault f) ∨
        (∃ c, l = .plain c ∧ r = r'.addPiece (.plain c)) ∨
        (∃ e, l = .escape e ∧ r = r'.addPiece (.escape e)) ∨
        ∃ body b, l = .braced body ∧ readBody body = .ok (.ok b) ∧
          r = r'.addPiece (.expression ⟨String.ofList l.spelled, position, b.letter, b.transformers⟩)) := by
  unfold readFrom at h
  dsimp only at h
  generalize readFrom text (position + l.spelled.length) ls = after at h
  cases l with
  | braced body =>
    dsimp only at h
    cases hb : readBody body with
    | error e => rw [hb] at h; cases h
    | ok result =>
      rw [hb] at h
      cases result with
      | error f =>
        obtain ⟨r', rfl, rfl⟩ := map_eq_ok h
        exact ⟨r', rfl, .inl ⟨_, rfl⟩⟩
      | ok b =>
        obtain ⟨r', rfl, rfl⟩ := map_eq_ok h
        exact ⟨r', rfl, .inr (.inr (.inr ⟨body, b, rfl, hb, rfl⟩))⟩
  | plain c =>
    obtain ⟨r', rfl, rfl⟩ := map_eq_ok h
    exact ⟨r', rfl, .inr (.inl ⟨c, rfl, rfl⟩)⟩
  | escape e =>
    obtain ⟨r', rfl, rfl⟩ := map_eq_ok h
    exact ⟨r', rfl, .inr (.inr (.inl ⟨e, rfl, rfl⟩))⟩
  | _ =>
    obtain ⟨r', rfl, rfl⟩ := map_eq_ok h
    exact ⟨r', rfl, .inl ⟨_, rfl⟩⟩

/-- What is read without fault are well-formed parts. -/
theorem exists_parts {text : String} {position : Nat} {ls : List Lexeme} {r : Reading} (h : readFrom text position ls = .ok r)
    (hfaults : r.faults = []) (hplain : ∀ c, .plain c ∈ ls → c ≠ '%')
    (hbodies : ∀ body, .braced body ∈ ls → IsAscii body ∧ ShortRuns body) :
    ∃ parts : List Part, (∀ p ∈ parts, p.WellFormed) ∧ parts.map Part.lexeme = ls := by
  induction ls generalizing position r with
  | nil => exact ⟨[], by simp, rfl⟩
  | cons l ls ih =>
    obtain ⟨r', hrest, hcases⟩ := readFrom_cons h
    obtain ⟨p, hp, hl, hsame⟩ : ∃ p : Part, p.WellFormed ∧ p.lexeme = l ∧ r'.faults = r.faults := by
      rcases hcases with ⟨f, rfl⟩ | ⟨c, rfl, rfl⟩ | ⟨e, rfl, rfl⟩ | ⟨body, b, rfl, hb, rfl⟩
      · cases hfaults
      · exact ⟨.plain c, hplain c List.mem_cons_self, rfl, rfl⟩
      · exact ⟨.escape e, trivial, rfl, rfl⟩
      · obtain ⟨hascii, hruns⟩ := hbodies body List.mem_cons_self
        obtain ⟨s, hs, rfl⟩ := exists_spelling hascii hruns hb
        exact ⟨.expression s, hs, rfl, rfl⟩
    obtain ⟨parts, hparts, hmap⟩ := ih hrest (hsame.trans hfaults) (fun c hc => hplain c (List.mem_cons_of_mem _ hc))
      (fun body hb => hbodies body (List.mem_cons_of_mem _ hb))
    exact ⟨p :: parts, List.forall_mem_cons.mpr ⟨hp, hparts⟩, by rw [List.map_cons, hl, hmap]⟩

/-- Every expression that is found, among faults or not, has the text that stands at its place. -/
theorem raw_at_position {text : String} {position : Nat} {ls : List Lexeme} {r : Reading} (h : readFrom text position ls = .ok r) :
    ∀ e ∈ r.expressions, position ≤ e.position ∧ e.raw.toList <+: (ls.flatMap Lexeme.spelled).drop (e.position - position) := by
  induction ls generalizing position r with
  | nil => cases h; simp [Reading.expressions]
  | cons l ls ih =>
    obtain ⟨r', hrest, hcases⟩ := readFrom_cons h
    have hbehind : ∀ e ∈ r'.expressions, position ≤ e.position ∧
        e.raw.toList <+: ((l :: ls).flatMap Lexeme.spelled).drop (e.position - position) := by
      intro e he
      obtain ⟨hle, hraw⟩ := ih hrest e he
      rw [List.flatMap_cons, List.drop_append, List.drop_eq_nil_of_le (by omega), List.nil_append, Nat.sub_sub]
      exact ⟨by omega, hraw⟩
    rcases hcases with ⟨f, rfl⟩ | ⟨c, rfl, rfl⟩ | ⟨e, rfl, rfl⟩ | ⟨body, b, rfl, hb, rfl⟩
    · exact hbehind
    · exact hbehind
    · exact hbehind
    · intro e he
      rcases List.mem_cons.mp he with rfl | he
      · simp
      · exact hbehind e he

/-! ## Where the parts stand -/

theorem le_of_mem_placed {parts : List Part} {position : Nat} {entry : Nat × Part} (h : entry ∈ placed position parts) :
    position ≤ entry.1 := by
  induction parts generalizing position with
  | nil => cases h
  | cons p ps ih =>
    rcases List.mem_cons.mp h with rfl | h
    · exact le_rfl
    · have hle := ih h
      omega

/-- Every percent sign belongs to one escape or expression. -/
theorem existsUnique_covering {parts : List Part} (h : ∀ p ∈ parts, p.WellFormed) {position i : Nat} (hle : position ≤ i)
    (hi : (parts.flatMap Part.chars)[i - position]? = some '%') :
    ∃! entry, entry ∈ placed position parts ∧ entry.2.isPlain = false ∧ Covers entry i := by
  induction parts generalizing position with
  | nil => simp at hi
  | cons p ps ih =>
    obtain ⟨hp, hps⟩ := List.forall_mem_cons.mp h
    rw [List.flatMap_cons] at hi
    by_cases hhead : i < position + p.chars.length
    · refine ⟨(position, p), ⟨List.mem_cons_self, ?_, hle, hhead⟩, ?_⟩
      · rw [List.getElem?_append_left (by omega)] at hi
        cases p with
        | plain c =>
          have hc : '%' = c := by simpa [Part.chars] using List.mem_of_getElem? hi
          exact absurd hc.symm hp
        | _ => rfl
      · rintro entry ⟨hmem, -, hfrom, -⟩
        rcases List.mem_cons.mp hmem with rfl | hmem
        · rfl
        · have hbehind := le_of_mem_placed hmem
          omega
    · rw [List.getElem?_append_right (by omega), Nat.sub_sub] at hi
      obtain ⟨entry, ⟨hmem, hcovers⟩, hunique⟩ := ih hps (by omega) hi
      refine ⟨entry, ⟨List.mem_cons_of_mem _ hmem, hcovers⟩, ?_⟩
      rintro other ⟨hother, hplain, hcovers⟩
      rcases List.mem_cons.mp hother with rfl | hother
      · exact absurd hcovers.2 hhead
      · exact hunique other ⟨hother, hplain, hcovers⟩

/-! ## Texts -/

theorem braced_within {text body : List Char} (h : .braced body ∈ lex text) : body <:+: text := by
  have hspelled : (Lexeme.braced body).spelled <:+: text := by
    rw [← spelled_lex text, List.flatMap_def]
    exact List.infix_of_mem_flatten (List.mem_map_of_mem h)
  exact List.IsInfix.trans ⟨['%', '\x7b'], ['\x7d'], rfl⟩ hspelled

/-- An ASCII text without overlong runs of digits is read to its end. -/
theorem exists_reading {text : String} (hascii : IsAscii text.toList) (hruns : ShortRuns text.toList) : ∃ r, read text = .ok r := by
  have hok : halts text.toList = false := by
    unfold halts
    rw [List.any_eq_false]
    intro l hl
    cases l with
    | braced body =>
      have hwithin := braced_within hl
      cases body with
      | nil => simp [bodyHalts]
      | cons c rest =>
        have hrun : ∀ d ∈ rest.takeWhile Text.isDigit, Text.isDecimal d = true ∧ d.isDigit = true := by
          intro d hd
          have hlow := hascii d (hwithin.subset (List.mem_cons_of_mem _ ((List.takeWhile_sublist _).subset hd)))
          have hdigit : Text.isDigit d = true := List.all_eq_true.mp List.all_takeWhile d hd
          rw [isDigit_ascii hlow] at hdigit
          exact ⟨(Text.isDecimal_ascii hlow).trans hdigit, hdigit⟩
        have hshort := hruns _ (((List.takeWhile_prefix _).isInfix.trans (List.suffix_cons c rest).isInfix).trans hwithin)
          fun d hd => (hrun d hd).2
        have hmax : Text.Numeral.maxDigits = 4300 := rfl
        have hall : (rest.takeWhile Text.isDigit).all Text.isDecimal = true := List.all_eq_true.mpr fun d hd => (hrun d hd).1
        simp only [bodyHalts, Text.noNumeral, hall, Bool.not_true, Bool.false_or, Bool.and_eq_true, decide_eq_true_eq, not_and]
        omega
    | _ => simp
  have hisOk := isOk_read text
  rw [hok] at hisOk
  cases hread : read text with
  | ok r => exact ⟨r, rfl⟩
  | error e => rw [hread] at hisOk; cases hisOk

/-- The analysis of an ASCII text reports no fault exactly if the text decomposes, in one way, and it gives the
expressions among the parts. -/
theorem faultless_iff_decomposes {text : String} (hascii : IsAscii text.toList) (hruns : ShortRuns text.toList) :
    ∃ a, analyze text = .ok a ∧ (a.faults = [] ↔ ∃ parts, Decomposes text.toList parts) ∧
      ∀ parts, Decomposes text.toList parts →
        (∀ parts', Decomposes text.toList parts' → parts' = parts) ∧
        List.Forall₂ (fun entry e => entry.2.Reads entry.1 e) (spellingsFrom 0 parts) a.expressions ∧
        (∀ e ∈ a.expressions, e.raw.toList <+: text.toList.drop e.position) ∧
        ∀ i, text.toList[i]? = some '%' →
          ∃! entry, entry ∈ placed 0 parts ∧ entry.2.isPlain = false ∧ Covers entry i := by
  obtain ⟨r, hread⟩ := exists_reading hascii hruns
  have hparts : ∀ parts, Decomposes text.toList parts → r.faults = [] ∧
      List.Forall₂ (fun entry e => entry.2.Reads entry.1 e) (spellingsFrom 0 parts) r.expressions := by
    intro parts h
    obtain ⟨r', hread', hfaults, hexpressions⟩ := readFrom_parts h.wellFormed (h.chars ▸ hruns) text 0
    rw [← h.lex] at hread'
    obtain rfl : r' = r := Except.ok.inj (hread'.symm.trans hread)
    exact ⟨hfaults, hexpressions⟩
  refine ⟨r.analysis, by rw [analyze, hread]; rfl, ⟨fun hfaults => ?_, ?_⟩, fun parts h => ⟨fun parts' => h.unique, (hparts parts h).2, ?_, ?_⟩⟩
  · obtain ⟨parts, hwell, hmap⟩ := exists_parts hread hfaults (fun c => plain_of_mem_lexFrom) fun body hbody =>
      ⟨hascii.within (braced_within hbody), hruns.within (braced_within hbody)⟩
    have hchars : parts.flatMap Part.chars = text.toList := by
      rw [← spelled_lex text.toList, ← hmap, List.flatMap_map]
      simp only [spelled_lexeme]
    exact ⟨parts, hwell, hchars⟩
  · rintro ⟨parts, h⟩
    exact (hparts parts h).1
  · intro e he
    obtain ⟨-, hraw⟩ := raw_at_position hread e he
    rwa [spelled_lex, Nat.sub_zero] at hraw
  · intro i hi
    exact existsUnique_covering h.wellFormed (Nat.zero_le i) (by rw [h.chars]; exact hi)

/-- A receiver turned around, an escaped percent sign, and a domain between delimiters of which one comes twice. -/
theorem faultless_iff_decomposes_reversal :
    ∃ a, analyze "%\x7brR\x7d%%%\x7bD12.-.\x7d" = .ok a ∧ a.faults = [] ∧
      List.Forall₂ (fun (entry : Nat × Spelling) e => entry.2.Reads entry.1 e)
        [(0, ⟨'r', [], some 'R', []⟩), (7, ⟨'D', ['1', '2'], none, ['.', '-', '.']⟩)] a.expressions := by
  have hlow : "%\x7brR\x7d%%%\x7bD12.-.\x7d".toList.all (·.toNat < 128) = true := by decide +kernel
  obtain ⟨a, ha, hiff, hparts⟩ := @faultless_iff_decomposes "%\x7brR\x7d%%%\x7bD12.-.\x7d"
    (fun c hc => of_decide_eq_true (List.all_eq_true.mp hlow c hc))
    (fun run hrun _ => lt_of_le_of_lt hrun.length_le (by decide +kernel))
  have hdecomposes : Decomposes "%\x7brR\x7d%%%\x7bD12.-.\x7d".toList
      [.expression ⟨'r', [], some 'R', []⟩, .escape .percent, .expression ⟨'D', ['1', '2'], none, ['.', '-', '.']⟩] := by decide +kernel
  exact ⟨a, ha, hiff.mpr ⟨_, hdecomposes⟩, (hparts _ hdecomposes).2.1⟩

end SenderPolicy.MacroString
