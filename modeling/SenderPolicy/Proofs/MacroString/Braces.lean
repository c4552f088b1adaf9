/-
  SenderPolicy.Proofs.MacroString.Braces — what an expression was read from.

  Every expression of a text, whether there are faults around it or not, was read from what stands between two
  braces. Alone in its braces that is read as the same expression, so the text of an expression can be expanded for
  itself.
  - `exists_body`: the body of an expression.
  - `expandSingle_braced`: the body alone.
-/

import SenderPolicy.MacroString.Expansion
import SenderPolicy.Proofs.MacroString.Decomposition

namespace SenderPolicy.MacroString

/-! ## Where the body stands -/

/-- A body in its braces. -/
def braced (body : List Char) : String := String.ofList (Lexeme.braced body).spelled

/-- The body of a lexeme ends at the first closing brace. -/
theorem brace_not_mem_body {state : Option (List Char)} {text body : List Char} (hstate : ∀ s ∈ state, '\x7d' ∉ s)
    (h : .braced body ∈ lexFrom state text) : '\x7d' ∉ body := by
  fun_induction lexFrom state text with
  | case1 s => simp at h
  | case2 s cs ih =>
    rcases List.mem_cons.mp h with h | h
    · cases h
      intro hmem
      exact hstate s rfl (List.mem_reverse.mp hmem)
    · exact ih (by simp) h
  | case3 s c cs hc ih =>
    refine ih (fun s' hs' hmem => ?_) h
    obtain rfl : c :: s = s' := Option.some.inj hs'
    rcases List.mem_cons.mp hmem with hmem | hmem
    · exact hc hmem.symm
    · exact hstate s rfl hmem
  | case4 => simp at h
  | case5 => simp at h
  | case6 c hc => simp at h
  | case7 c d cs hc ih => exact ih (by simp) (by simpa using h)
  | case8 c d cs hc e he ih => exact ih (by simp) (by simpa using h)
  | case9 c cs hc he ih => exact ih (by simp) h
  | case10 c d cs hc he hd ih => exact ih (by simp) (by simpa using h)

theorem exists_body_from {text : String} {position : Nat} {ls : List Lexeme} {r : Reading} (h : readFrom text position ls = .ok r) :
    ∀ e ∈ r.expressions, ∃ body, .braced body ∈ ls ∧ e.raw = braced body ∧ readBody body = .ok (.ok ⟨e.letter, e.transformers⟩) := by
  induction ls generalizing position r with
  | nil => cases h; simp [Reading.expressions]
  | cons l ls ih =>
    obtain ⟨r', hrest, hcases⟩ := readFrom_cons h
    have hbehind : ∀ e ∈ r'.expressions, ∃ body, .braced body ∈ l :: ls ∧ e.raw = braced body ∧
        readBody body = .ok (.ok ⟨e.letter, e.transformers⟩) := by
      intro e he
      obtain ⟨body, hmem, hraw, hbody⟩ := ih hrest e he
      exact ⟨body, List.mem_cons_of_mem _ hmem, hraw, hbody⟩
    rcases hcases with ⟨f, rfl⟩ | ⟨c, rfl, rfl⟩ | ⟨e, rfl, rfl⟩ | ⟨body, b, rfl, hb, rfl⟩
    · exact hbehind
    · exact hbehind
    · exact hbehind
    · intro e he
      rcases List.mem_cons.mp he with rfl | he
      · exact ⟨body, List.mem_cons_self, rfl, hb⟩
      · exact hbehind e he

/-- Every expression of a text was read from a body without a closing brace. -/
theorem exists_body {text : String} {r : Reading} (h : read text = .ok r) {e : Expression} (he : e ∈ r.expressions) :
    ∃ body, '\x7d' ∉ body ∧ e.raw = braced body ∧ readBody body = .ok (.ok ⟨e.letter, e.transformers⟩) := by
  obtain ⟨body, hmem, hraw, hbody⟩ := exists_body_from h e he
  exact ⟨body, brace_not_mem_body (by simp) hmem, hraw, hbody⟩

theorem braced_injective {body body' : List Char} (h : braced body = braced body') : body = body' := by
  have hchars : '%' :: '\x7b' :: body ++ ['\x7d'] = '%' :: '\x7b' :: body' ++ ['\x7d'] := String.ofList_injective h
  simpa using hchars

/-! ## The body alone -/

/-- In its braces and alone a body is read as the same expression. -/
theorem read_braced {body : List Char} (hbrace : '\x7d' ∉ body) {b : Body} (hbody : readBody body = .ok (.ok b)) :
    read (braced body) = .ok ⟨[.expression ⟨braced body, 0, b.letter, b.transformers⟩], []⟩ := by
  have hlex : lex (braced body).toList = [.braced body] := by
    unfold lex braced
    rw [String.toList_ofList]
    show lexFrom (some []) (body ++ ['\x7d']) = _
    rw [lexFrom_body hbrace]
    rfl
  unfold read
  rw [hlex, readFrom]
  rw [hbody]
  rfl

theorem expandSingle_braced {body : List Char} (hbrace : '\x7d' ∉ body) {b : Body} (hbody : readBody body = .ok (.ok b)) (ctx : Context) :
    expandSingle ctx (braced body) = (ctx.field b.letter).bind b.transformers.apply := by
  unfold expandSingle faultless
  rw [read_braced hbrace hbody]
  rfl

end SenderPolicy.MacroString
