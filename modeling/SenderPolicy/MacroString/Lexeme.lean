/-
  SenderPolicy.MacroString.Lexeme — a macro-string cut into its smallest parts.

  A `%` begins an escape of two characters, or an expression in braces that ends at the next closing
  one; any other character stands for itself. A `%` before anything else, at the end, or before a brace
  that is never closed is a part of its own, for the faults to name.
  - `spelled_lex`: the parts written one after the other are the macro-string again.
-/

namespace SenderPolicy.MacroString

inductive Escape where
  | percent
  | space
  | encodedSpace
  deriving DecidableEq, Repr

namespace Escape

def char : Escape → Char
  | .percent => '%'
  | .space => '_'
  | .encodedSpace => '-'

def ofChar? : Char → Option Escape
  | '%' => some .percent
  | '_' => some .space
  | '-' => some .encodedSpace
  | _ => none

/-- What the escape stands for. -/
def meaning : Escape → List Char
  | .percent => ['%']
  | .space => [' ']
  | .encodedSpace => ['%', '2', '0']

theorem ofChar?_eq_some {c : Char} {e : Escape} (h : ofChar? c = some e) : e.char = c := by
  unfold ofChar? at h
  split at h <;> simp_all [char] <;> (obtain rfl := h; rfl)

end Escape

inductive Lexeme where
  | plain (c : Char)
  | escape (e : Escape)
  | braced (body : List Char)
  /-- A `%` before a character that begins nothing with it. -/
  | stray
  /-- A `%` at the end. -/
  | cut
  /-- A brace that is not closed; the rest of the text is its body. -/
  | unclosed (body : List Char)
  deriving DecidableEq, Repr

def Lexeme.spelled : Lexeme → List Char
  | .plain c => [c]
  | .escape e => ['%', e.char]
  | .braced body => '%' :: '\x7b' :: body ++ ['\x7d']
  | .stray => ['%']
  | .cut => ['%']
  | .unclosed body => '%' :: '\x7b' :: body

/-- The parts of a text; inside braces `body` holds what has been read of them, last character first. -/
def lexFrom : Option (List Char) → List Char → List Lexeme
  | some body, [] => [.unclosed body.reverse]
  | some body, c :: cs =>
    if c = '\x7d' then .braced body.reverse :: lexFrom none cs else lexFrom (some (c :: body)) cs
  | none, [] => []
  | none, [c] => if c = '%' then [.cut] else [.plain c]
  | none, c :: d :: cs =>
    if c ≠ '%' then .plain c :: lexFrom none (d :: cs)
    else match Escape.ofChar? d with
      | some e => .escape e :: lexFrom none cs
      | none => if d = '\x7b' then lexFrom (some []) cs else .stray :: lexFrom none (d :: cs)

def lex (text : List Char) : List Lexeme := lexFrom none text

/-- What has been read of an open brace. -/
def opened : Option (List Char) → List Char
  | some body => '%' :: '\x7b' :: body.reverse
  | none => []

theorem spelled_lexFrom (state : Option (List Char)) (text : List Char) :
    (lexFrom state text).flatMap Lexeme.spelled = opened state ++ text := by
  fun_induction lexFrom state text with
  | case1 body => simp [Lexeme.spelled, opened]
  | case2 body cs ih => simp [Lexeme.spelled, opened, ih]
  | case3 body c cs h ih => simp [ih, opened]
  | case4 => rfl
  | case5 => rfl
  | case6 c h => rfl
  | case7 c d cs h ih => simpa [Lexeme.spelled, opened] using ih
  | case8 c d cs h e he ih =>
    have hc : c = '%' := by simpa using h
    subst hc
    simp [Lexeme.spelled, opened, Escape.ofChar?_eq_some he, ih]
  | case9 c cs h he ih =>
    have hc : c = '%' := by simpa using h
    subst hc
    simp [opened, ih]
  | case10 c d cs h he hd ih =>
    have hc : c = '%' := by simpa using h
    subst hc
    simpa [Lexeme.spelled, opened] using ih

theorem spelled_lex (text : List Char) : (lex text).flatMap Lexeme.spelled = text := by
  simpa [lex, opened] using spelled_lexFrom none text

example : lex "a%%%_\x25\x7bd2\x7d%".toList
    = [.plain 'a', .escape .percent, .escape .space, .braced ['d', '2'], .cut] := by decide

end SenderPolicy.MacroString
