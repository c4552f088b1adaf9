/-
  SenderPolicy.Proofs.MacroString.Concatenation — macro-strings one behind the other.

  Without faults nothing is left open at the end of a macro-string, so what follows it is read as if it stood
  alone, only further behind. The expansion of both is that of the first and that of the second. It puts
  replacements between the gaps of the macro-string, which are found by position; a replacement is copied as it
  is, whatever it looks like.
  - `lexFrom_append`, `readFrom_append`, `readFrom_moved`: lexemes and readings of two texts, and of a text that
    stands further behind.
  - `standsIn_of_mem`: tokens stand where they say.
  - `expandPieces_splice`: the pieces expand to the gaps and the replacements between them.
  - `expansion_append`: all of this of two macro-strings.
-/

import SenderPolicy.MacroString.Expansion
import SenderPolicy.Proofs.MacroString.Decomposition

namespace SenderPolicy.MacroString

/-! ## Tokens -/

/-- What is written for a piece. -/
def Piece.chars : Piece → List Char
  | .plain c => [c]
  | .escape e => ['%', e.char]
  | .expression e => e.raw.toList

/-- An escape or an expression, and where it begins and ends in the text. -/
structure Token where
  start : Nat
  stop : Nat
  piece : Piece
  deriving DecidableEq, Repr

/-- The pieces of a text from `position` on that do not stand for themselves. -/
def tokensFrom (position : Nat) : List Piece → List Token
  | [] => []
  | .plain _ :: ps => tokensFrom (position + 1) ps
  | p :: ps => ⟨position, position + p.chars.length, p⟩ :: tokensFrom (position + p.chars.length) ps

def Reading.tokens (r : Reading) : List Token := tokensFrom 0 r.pieces

/-- Whether a token is where it says. -/
structure Token.StandsIn (t : Token) (text : List Char) : Prop where
  stop : t.stop = t.start + t.piece.chars.length
  chars : t.piece.chars <+: text.drop t.start
  position : ∀ e, t.piece = .expression e → e.position = t.start

/-- The same piece in a text that has `k` characters more in front. -/
def Piece.shift (k : Nat) : Piece → Piece
  | .expression e => .expression { e with position := e.position + k }
  | p => p

def Token.shift (k : Nat) (t : Token) : Token := ⟨t.start + k, t.stop + k, t.piece.shift k⟩

/-- The text from `last` on, with every token replaced and all between them copied. -/
def spliceFrom (ctx : Context) (text : List Char) (last : Nat) : List Token → Except ExpansionError String
  | [] => .ok (String.ofList (text.drop last))
  | t :: ts => do
    let replacement ← t.piece.expand ctx
    let rest ← spliceFrom ctx text t.stop ts
    .ok (String.ofList ((text.take t.start).drop last) ++ replacement ++ rest)

theorem expand_shift (ctx : Context) (k : Nat) (p : Piece) : (p.shift k).expand ctx = p.expand ctx := by
  cases p <;> rfl

theorem tokensFrom_append (position : Nat) (ps qs : List Piece) :
    tokensFrom position (ps ++ qs) = tokensFrom position ps ++ tokensFrom (position + (ps.flatMap Piece.chars).length) qs := by
  induction ps generalizing position with
  | nil => rfl
  | cons p ps ih =>
    have hlength : position + ((p :: ps).flatMap Piece.chars).length = position + p.chars.length + (ps.flatMap Piece.chars).length := by
      rw [List.flatMap_cons, List.length_append, Nat.add_assoc]
    rw [hlength]
    cases p with
    | plain c => exact ih _
    | escape e => exact congrArg (_ :: ·) (ih _)
    | expression e => exact congrArg (_ :: ·) (ih _)

theorem tokensFrom_shift (position k : Nat) (ps : List Piece) :
    tokensFrom (position + k) (ps.map (Piece.shift k)) = (tokensFrom position ps).map (Token.shift k) := by
  induction ps generalizing position with
  | nil => rfl
  | cons p ps ih =>
    have hnext : ∀ n, position + k + n = position + n + k := fun n => Nat.add_right_comm _ _ _
    have htoken : ⟨position + k, position + k + p.chars.length, p.shift k⟩ ::
          tokensFrom (position + k + p.chars.length) (ps.map (Piece.shift k))
        = (⟨position, position + p.chars.length, p⟩ :: tokensFrom (position + p.chars.length) ps).map (Token.shift k) := by
      rw [hnext, ih]
      rfl
    cases p with
    | plain c =>
      show tokensFrom (position + k + 1) _ = _
      rw [hnext]
      exact ih _
    | escape e => exact htoken
    | expression e => exact htoken

/-! ## Lexemes -/

/-- Whether what follows the lexeme could become part of it. -/
def Lexeme.isOpen : Lexeme → Bool
  | .cut | .unclosed _ => true
  | _ => false

/-- Behind lexemes of which none is open, a text is cut as if it stood alone. -/
theorem lexFrom_append {state : Option (List Char)} {before : List Char} (h : ∀ l ∈ lexFrom state before, l.isOpen = false)
    (rest : List Char) : lexFrom state (before ++ rest) = lexFrom state before ++ lexFrom none rest := by
  fun_induction lexFrom state before with
  | case1 body => exact absurd (h _ List.mem_cons_self) (by simp [Lexeme.isOpen])
  | case2 body cs ih =>
    rw [List.cons_append, lexFrom, if_pos rfl, ih fun l hl => h l (List.mem_cons_of_mem _ hl)]
    rfl
  | case3 body c cs hc ih =>
    rw [List.cons_append, lexFrom, if_neg hc]
    exact ih h
  | case4 => rfl
  | case5 => exact absurd (h _ List.mem_cons_self) (by simp [Lexeme.isOpen])
  | case6 c hc => exact lexFrom_plain hc rest
  | case7 c d cs hc ih =>
    rw [List.cons_append, lexFrom_plain hc, ih fun l hl => h l (List.mem_cons_of_mem _ hl)]
    rfl
  | case8 c d cs hc e he ih =>
    rw [List.cons_append, List.cons_append, lexFrom, if_neg hc, he]
    exact congrArg (_ :: ·) (ih fun l hl => h l (List.mem_cons_of_mem _ hl))
  | case9 c cs hc he ih =>
    rw [List.cons_append, List.cons_append, lexFrom, if_neg hc, he]
    exact ih h
  | case10 c d cs hc he hd ih =>
    rw [List.cons_append, List.cons_append, lexFrom, if_neg hc, he]
    dsimp only
    rw [if_neg hd]
    exact congrArg (_ :: ·) (ih fun l hl => h l (List.mem_cons_of_mem _ hl))

theorem lexFrom_of_noPercent {text : List Char} (h : '%' ∉ text) : lexFrom none text = text.map .plain := by
  induction text with
  | nil => rfl
  | cons c cs ih =>
    have hc : c ≠ '%' := fun he => h (he ▸ List.mem_cons_self)
    rw [lexFrom_plain hc, ih fun hm => h (List.mem_cons_of_mem _ hm), List.map_cons]

/-! ## Readings -/

namespace Reading

def append (r r' : Reading) : Reading := ⟨r.pieces ++ r'.pieces, r.faults ++ r'.faults⟩

/-- The same reading in another text, `k` characters further behind. -/
def moved (text : String) (k : Nat) (r : Reading) : Reading :=
  ⟨r.pieces.map (Piece.shift k), r.faults.map fun f => { f with text := text, position := f.position + k }⟩

end Reading

theorem readFrom_append (text : String) (position : Nat) (ls ms : List Lexeme) :
    readFrom text position (ls ++ ms) = (readFrom text position ls).bind fun r =>
      (readFrom text (position + (ls.flatMap Lexeme.spelled).length) ms).map r.append := by
  induction ls generalizing position with
  | nil =>
    show readFrom text position ms = (readFrom text position ms).map _
    cases readFrom text position ms <;> rfl
  | cons l ls ih =>
    have hlength : position + ((l :: ls).flatMap Lexeme.spelled).length
        = position + l.spelled.length + (ls.flatMap Lexeme.spelled).length := by
      rw [List.flatMap_cons, List.length_append, Nat.add_assoc]
    rw [hlength, List.cons_append, readFrom.eq_def, readFrom.eq_def text position (l :: ls)]
    dsimp only
    rw [ih]
    generalize readFrom text (position + l.spelled.length) ls = after
    generalize readFrom text (position + l.spelled.length + (ls.flatMap Lexeme.spelled).length) ms = behind
    have hput : ∀ put : Reading → Reading, (∀ r r', put (r.append r') = (put r).append r') →
        (after.bind fun r => behind.map r.append).map put = (after.map put).bind fun r => behind.map r.append := by
      intro put hcommutes
      cases after with
      | error e => rfl
      | ok r =>
        cases behind with
        | error e => rfl
        | ok r' => exact congrArg Except.ok (hcommutes r r')
    cases l with
    | braced body =>
      dsimp only
      cases readBody body with
      | error e => rfl
      | ok result => cases result <;> exact hput _ fun _ _ => rfl
    | _ => exact hput _ fun _ _ => rfl

theorem readFrom_moved (text text' : String) (position k : Nat) (ls : List Lexeme) :
    readFrom text' (position + k) ls = (readFrom text position ls).map (Reading.moved text' k) := by
  induction ls generalizing position with
  | nil => rfl
  | cons l ls ih =>
    rw [readFrom.eq_def, readFrom.eq_def text position (l :: ls)]
    dsimp only
    rw [Nat.add_right_comm, ih]
    generalize readFrom text (position + l.spelled.length) ls = after
    have hput : ∀ put put' : Reading → Reading, (∀ r, put' (r.moved text' k) = (put r).moved text' k) →
        (after.map (Reading.moved text' k)).map put' = (after.map put).map (Reading.moved text' k) := by
      intro put put' hcommutes
      cases after with
      | error e => rfl
      | ok r => exact congrArg Except.ok (hcommutes r)
    cases l with
    | braced body =>
      dsimp only
      cases readBody body with
      | error e => rfl
      | ok result =>
        cases result with
        | error f =>
          dsimp only
          rw [Nat.add_right_comm]
          exact hput _ _ fun _ => rfl
        | ok b => exact hput _ _ fun _ => rfl
    | _ => exact hput _ _ fun _ => rfl

variable {text a b : String} {r ra rb : Reading}

/-- What is read without fault has no open lexeme, and its pieces are written as the lexemes are. -/
theorem readFrom_faultless {position : Nat} {ls : List Lexeme} (h : readFrom text position ls = .ok r) (hfaults : r.faults = []) :
    (∀ l ∈ ls, l.isOpen = false) ∧ r.pieces.flatMap Piece.chars = ls.flatMap Lexeme.spelled := by
  induction ls generalizing position r with
  | nil => cases h; exact ⟨by simp, rfl⟩
  | cons l ls ih =>
    obtain ⟨r', hrest, hcases⟩ := readFrom_cons h
    obtain ⟨p, rfl, hopen, hchars⟩ : ∃ p : Piece, r = r'.addPiece p ∧ l.isOpen = false ∧ p.chars = l.spelled := by
      rcases hcases with ⟨f, rfl⟩ | ⟨c, rfl, rfl⟩ | ⟨e, rfl, rfl⟩ | ⟨body, b, rfl, hb, rfl⟩
      · cases hfaults
      · exact ⟨_, rfl, rfl, rfl⟩
      · exact ⟨_, rfl, rfl, rfl⟩
      · exact ⟨_, rfl, rfl, String.toList_ofList⟩
    obtain ⟨hclosed, hpieces⟩ := ih hrest hfaults
    refine ⟨List.forall_mem_cons.mpr ⟨hopen, hclosed⟩, ?_⟩
    show (p :: r'.pieces).flatMap Piece.chars = _
    rw [List.flatMap_cons, List.flatMap_cons, hchars, hpieces]

theorem chars_read (h : read text = .ok r) (hfaults : r.faults = []) : r.pieces.flatMap Piece.chars = text.toList :=
  (readFrom_faultless h hfaults).2.trans (spelled_lex _)

/-- The tokens of what is read behind `before` stand where they say. -/
theorem standsIn_of_mem {before : List Char} {ls : List Lexeme} (h : readFrom text before.length ls = .ok r) (hfaults : r.faults = []) :
    ∀ t ∈ tokensFrom before.length r.pieces, t.StandsIn (before ++ ls.flatMap Lexeme.spelled) := by
  induction ls generalizing before r with
  | nil => cases h; simp [tokensFrom]
  | cons l ls ih =>
    obtain ⟨r', hrest, hcases⟩ := readFrom_cons h
    rw [← List.length_append] at hrest
    have hbehind : r'.faults = [] → ∀ t ∈ tokensFrom (before.length + l.spelled.length) r'.pieces,
        t.StandsIn (before ++ (l :: ls).flatMap Lexeme.spelled) := by
      intro hnone
      rw [List.flatMap_cons, ← List.append_assoc, ← List.length_append]
      exact ih hrest hnone
    have htoken : ∀ p : Piece, p.chars = l.spelled → (∀ e, p = .expression e → e.position = before.length) → r'.faults = [] →
        ∀ t ∈ ⟨before.length, before.length + p.chars.length, p⟩ :: tokensFrom (before.length + p.chars.length) r'.pieces,
          t.StandsIn (before ++ (l :: ls).flatMap Lexeme.spelled) := by
      intro p hchars hposition hnone t ht
      rcases List.mem_cons.mp ht with rfl | ht
      · refine ⟨rfl, ?_, hposition⟩
        rw [List.drop_left, List.flatMap_cons, hchars]
        exact List.prefix_append _ _
      · rw [hchars] at ht
        exact hbehind hnone t ht
    rcases hcases with ⟨f, rfl⟩ | ⟨c, rfl, rfl⟩ | ⟨e, rfl, rfl⟩ | ⟨body, b, rfl, hb, rfl⟩
    · cases hfaults
    · exact hbehind hfaults
    · exact htoken (.escape e) rfl (fun e' he => by cases he) hfaults
    · refine htoken (.expression _) String.toList_ofList (fun e' he => ?_) hfaults
      cases he
      rfl

theorem shift_zero (ps : List Piece) : ps.map (Piece.shift 0) = ps := by
  have hsame : Piece.shift 0 = id := by
    funext p
    cases p <;> rfl
  rw [hsame, List.map_id]

/-- Behind a macro-string without faults, another is read as if it stood alone, only further behind. -/
theorem read_append (ha : read a = .ok ra) (hfaults : ra.faults = []) (hb : read b = .ok rb) (hfaults' : rb.faults = []) :
    read (a ++ b) = .ok ⟨ra.pieces ++ rb.pieces.map (Piece.shift a.length), []⟩ := by
  have hlex : lex (a ++ b).toList = lex a.toList ++ lex b.toList := by
    rw [String.toList_append]
    exact lexFrom_append (readFrom_faultless ha hfaults).1 _
  have hfirst : readFrom (a ++ b) 0 (lex a.toList) = .ok (ra.moved (a ++ b) 0) := by
    rw [show 0 = 0 + 0 from rfl, readFrom_moved a (a ++ b), ← read, ha]
    rfl
  have hsecond : readFrom (a ++ b) (0 + a.length) (lex b.toList) = .ok (rb.moved (a ++ b) a.length) := by
    rw [readFrom_moved b (a ++ b), ← read, hb]
    rfl
  have hpieces : (ra.moved (a ++ b) 0).append (rb.moved (a ++ b) a.length)
      = ⟨ra.pieces ++ rb.pieces.map (Piece.shift a.length), []⟩ := by
    simp [Reading.append, Reading.moved, hfaults, hfaults', shift_zero]
  rw [read, hlex, readFrom_append, hfirst, spelled_lex, String.length_toList]
  show (readFrom (a ++ b) (0 + a.length) (lex b.toList)).map _ = _
  rw [hsecond, Except.map, hpieces]

/-! ## Expansions -/

variable {ctx : Context}

theorem expandText_of_read (h : read text = .ok r) (hfaults : r.faults = []) : expandText ctx text = expandPieces ctx r.pieces := by
  rw [expandText, faultless, h]
  dsimp only
  rw [hfaults]
  rfl

theorem expandPieces_append (ctx : Context) (ps qs : List Piece) :
    expandPieces ctx (ps ++ qs) = (expandPieces ctx ps).bind fun s => (expandPieces ctx qs).map (s ++ ·) := by
  induction ps with
  | nil =>
    show expandPieces ctx qs = (expandPieces ctx qs).map _
    cases expandPieces ctx qs with
    | error e => rfl
    | ok t => exact congrArg Except.ok (String.empty_append).symm
  | cons p ps ih =>
    show (p.expand ctx).bind (fun s => (expandPieces ctx (ps ++ qs)).bind fun rest => .ok (s ++ rest)) = _
    rw [ih]
    show _ = ((p.expand ctx).bind fun s => (expandPieces ctx ps).bind fun rest => .ok (s ++ rest)).bind _
    cases p.expand ctx with
    | error e => rfl
    | ok s =>
      cases expandPieces ctx ps with
      | error e => rfl
      | ok s' =>
        cases expandPieces ctx qs with
        | error e => rfl
        | ok t => exact congrArg Except.ok String.append_assoc.symm

theorem expandPieces_shift (ctx : Context) (k : Nat) (ps : List Piece) :
    expandPieces ctx (ps.map (Piece.shift k)) = expandPieces ctx ps := by
  induction ps with
  | nil => rfl
  | cons p ps ih => rw [List.map_cons, expandPieces, expandPieces, expand_shift, ih]

/-- The pieces behind `last` expand to the gaps and the replacements; the gap that is open at `position` is copied. -/
theorem expandPieces_splice (ctx : Context) {text before gap : List Char} {ps : List Piece}
    (h : text = before ++ gap ++ ps.flatMap Piece.chars) :
    spliceFrom ctx text before.length (tokensFrom (before.length + gap.length) ps)
      = (expandPieces ctx ps).map (String.ofList gap ++ ·) := by
  induction ps generalizing before gap with
  | nil =>
    subst h
    show Except.ok _ = Except.ok _
    simp
  | cons p ps ih =>
    -- A replaced piece closes the gap; behind it another begins.
    have htoken : spliceFrom ctx text before.length (⟨before.length + gap.length, before.length + gap.length + p.chars.length, p⟩ ::
          tokensFrom (before.length + gap.length + p.chars.length) ps) = (expandPieces ctx (p :: ps)).map (String.ofList gap ++ ·) := by
      have hrest := @ih (before ++ gap ++ p.chars) [] (by rw [h]; simp)
      simp only [List.length_append, List.length_nil, Nat.add_zero] at hrest
      have hgap : (text.take (before.length + gap.length)).drop before.length = gap := by
        rw [h, ← List.length_append, List.take_left, List.drop_left]
      show ((p.expand ctx).bind fun s => (spliceFrom ctx text (before.length + gap.length + p.chars.length) _).bind fun rest =>
        .ok (String.ofList ((text.take (before.length + gap.length)).drop before.length) ++ s ++ rest)) = _
      rw [hrest, hgap]
      show _ = Except.map _ ((p.expand ctx).bind fun s => (expandPieces ctx ps).bind fun rest => .ok (s ++ rest))
      cases p.expand ctx with
      | error e => rfl
      | ok s =>
        cases expandPieces ctx ps with
        | error e => rfl
        | ok rest => exact congrArg Except.ok (by simp [String.append_assoc])
    cases p with
    | plain c =>
      have hrest := @ih before (gap ++ [c]) (by rw [h]; simp [Piece.chars])
      rw [List.length_append, ← Nat.add_assoc] at hrest
      show spliceFrom ctx text before.length (tokensFrom (before.length + gap.length + 1) ps) = _
      rw [show before.length + gap.length + 1 = before.length + gap.length + [c].length from rfl, hrest]
      show _ = Except.map _ ((expandPieces ctx ps).bind fun rest => .ok (c.toString ++ rest))
      cases expandPieces ctx ps with
      | error e => rfl
      | ok rest => exact congrArg Except.ok (by rw [← String.toList_inj]; simp)
    | escape e => exact htoken
    | expression e => exact htoken

/-- The expansion of a macro-string without faults copies the gaps between its tokens, and each replacement. -/
theorem expandText_splice (ctx : Context) (h : read text = .ok r) (hfaults : r.faults = []) :
    expandText ctx text = spliceFrom ctx text.toList 0 r.tokens := by
  have hsplice := @expandPieces_splice ctx text.toList [] [] r.pieces (chars_read h hfaults).symm
  rw [expandText_of_read h hfaults]
  refine Eq.trans ?_ hsplice.symm
  cases expandPieces ctx r.pieces with
  | error e => rfl
  | ok s => exact congrArg Except.ok (String.empty_append).symm

theorem readFrom_plain (text : String) (position : Nat) (cs : List Char) :
    readFrom text position (cs.map .plain) = .ok ⟨cs.map .plain, []⟩ := by
  induction cs generalizing position with
  | nil => rfl
  | cons c cs ih =>
    show (readFrom text (position + 1) (cs.map .plain)).map _ = _
    rw [ih]
    rfl

theorem expandPieces_plain (ctx : Context) (cs : List Char) : expandPieces ctx (cs.map .plain) = .ok (String.ofList cs) := by
  induction cs with
  | nil => rfl
  | cons c cs ih =>
    show (expandPieces ctx (cs.map .plain)).bind (fun rest => .ok (c.toString ++ rest)) = _
    rw [ih]
    exact congrArg Except.ok (by rw [← String.toList_inj]; simp)

theorem expandText_noPercent (ctx : Context) (h : '%' ∉ text.toList) : expandText ctx text = .ok text := by
  have hread : read text = .ok ⟨text.toList.map .plain, []⟩ := by
    rw [read, lex, lexFrom_of_noPercent h, readFrom_plain]
  rw [expandText_of_read hread rfl, expandPieces_plain, String.ofList_toList]

/-- Two macro-strings without faults make up one: its tokens are those of the first and, further behind, those of the
second, each where it stands in the whole, and it expands to what they expand to, if both do. Expanding copies the gaps between the tokens and what
replaces each of them, and copies all of a text without percent signs. -/
theorem expansion_append (ha : read a = .ok ra) (hfaults : ra.faults = []) (hb : read b = .ok rb) (hfaults' : rb.faults = []) :
    (∃ r, read (a ++ b) = .ok r ∧ r.faults = [] ∧ r.tokens = ra.tokens ++ rb.tokens.map (Token.shift a.length) ∧
      ∀ t ∈ r.tokens, t.StandsIn (a ++ b).toList) ∧
    ∀ ctx : Context,
      (∀ u, expandText ctx (a ++ b) = .ok u ↔ ∃ s t, expandText ctx a = .ok s ∧ expandText ctx b = .ok t ∧ u = s ++ t) ∧
      (∀ text r, read text = .ok r → r.faults = [] → expandText ctx text = spliceFrom ctx text.toList 0 r.tokens) ∧
      ∀ text : String, '%' ∉ text.toList → expandText ctx text = .ok text := by
  have hread := read_append ha hfaults hb hfaults'
  refine ⟨⟨_, hread, rfl, ?_, ?_⟩, fun ctx => ⟨fun u => ?_, fun text r => expandText_splice ctx, fun text => expandText_noPercent ctx⟩⟩
  · have hshift := tokensFrom_shift 0 a.length rb.pieces
    rw [Reading.tokens, tokensFrom_append, chars_read ha hfaults, String.length_toList, hshift]
    rfl
  · have hstands := @standsIn_of_mem (a ++ b) _ [] _ hread rfl
    rwa [spelled_lex] at hstands
  · rw [expandText_of_read hread rfl, expandText_of_read ha hfaults, expandText_of_read hb hfaults', expandPieces_append,
      expandPieces_shift]
    cases expandPieces ctx ra.pieces with
    | error e => simp [Except.bind]
    | ok s =>
      cases expandPieces ctx rb.pieces with
      | error e => simp [Except.bind, Except.map]
      | ok t => simp [Except.bind, Except.map, eq_comm]

/-- At the seam a percent sign and an opening brace come together, and what the domain stands for looks like an
expression itself. -/
theorem expansion_append_seam : ∃ ctx : Context, ctx.get .currentDomain = .str "%\x7bi\x7d%%" ∧
    expandText ctx ("%\x7bir\x7d.%%" ++ "\x7bd\x7d%\x7bd1\x7d") = .ok "1.2.0.192.%\x7bd\x7d%\x7bi\x7d%%" := by
  have ha : read "%\x7bir\x7d.%%" = .ok ⟨[.expression ⟨"%\x7bir\x7d", 0, .ip, ⟨none, true, ['.'], false⟩⟩, .plain '.', .escape .percent], []⟩ := by
    decide +kernel
  have hb : read "\x7bd\x7d%\x7bd1\x7d" = .ok ⟨[.plain '\x7b', .plain 'd', .plain '\x7d',
      .expression ⟨"%\x7bd1\x7d", 3, .domain, ⟨some 1, false, ['.'], false⟩⟩], []⟩ := by
    decide +kernel
  refine ⟨⟨fun f => match f with | .senderIp => .str "192.0.2.1" | .currentDomain => .str "%\x7bi\x7d%%" | _ => .null⟩, rfl, ?_⟩
  exact (((expansion_append ha rfl hb rfl).2 _).1 _).mpr
    ⟨"1.2.0.192.%", "\x7bd\x7d%\x7bi\x7d%%", by decide +kernel, by decide +kernel, by decide +kernel⟩

end SenderPolicy.MacroString
