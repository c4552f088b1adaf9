/-
  SenderPolicy.Proofs.MacroString.Letters — expressions that are a single letter.

  Such an expression leaves its field as it is, so it expands to whatever the context gives for the letter.
  - `read_bare`: how it is read.
  - `expandText_bare`: what it expands to.
  - `require_text`: a field that is there.
-/

import SenderPolicy.Proofs.MacroString.Concatenation

namespace SenderPolicy.MacroString

/-! ## Fields -/

variable {ctx : Context} {l : Letter} {s : String}

theorem require_text (h : ctx.get l.field = .str s) (hs : s ≠ "") : ctx.require l = .ok (.str s) := by
  unfold Context.require
  rw [h]
  split
  · rename_i heq
    cases heq
  · rename_i heq
    exact absurd (Json.str.inj heq) hs
  · rfl

/-! ## Labels -/

namespace Transformers

/-- Labels between dots, all of them and in order. -/
def dots : Transformers := ⟨none, false, ['.'], false⟩

/-- Labels between dots, all of them and in reverse order. -/
def reversedDots : Transformers := ⟨none, true, ['.'], false⟩

theorem labels_dots (cs : List Char) : dots.labels cs = cs.splitOn '.' := by
  rw [labels, List.splitOn_eq_splitOnP]
  congr 1
  funext c
  rw [Bool.eq_iff_iff]
  simp [dots]

theorem transform_dots (cs : List Char) : dots.transform cs = cs := by
  show List.intercalate ['.'] (dots.labels cs) = cs
  rw [labels_dots]
  exact List.intercalate_splitOn '.'

theorem transform_reversedDots (cs : List Char) :
    reversedDots.transform cs = List.intercalate ['.'] (cs.splitOn '.').reverse := by
  rw [← labels_dots]
  rfl

theorem apply_dots (s : String) : dots.apply (.str s) = .ok s := by
  show Except.ok (String.ofList (dots.transform s.toList)) = _
  rw [transform_dots, String.ofList_toList]

end Transformers

/-! ## Expansions -/

/-- The letter between braces, and nothing else. -/
def Letter.bare (l : Letter) : String := "%\x7b" ++ l.name ++ "\x7d"

theorem read_bare (l : Letter) : read l.bare = .ok ⟨[.expression ⟨l.bare, 0, l, .dots⟩], []⟩ := by
  cases l <;> decide +kernel

theorem expandPieces_cons {p : Piece} {ps : List Piece} {t : String} (hp : p.expand ctx = .ok s) (hps : expandPieces ctx ps = .ok t) :
    expandPieces ctx (p :: ps) = .ok (s ++ t) := by
  rw [expandPieces, hp, hps]
  rfl

theorem expandText_single {text : String} {e : Expression} (h : read text = .ok ⟨[.expression e], []⟩) :
    expandText ctx text = e.expand ctx := by
  rw [expandText_of_read h rfl]
  show (e.expand ctx).bind (fun s => .ok (s ++ "")) = _
  cases e.expand ctx with
  | error e => rfl
  | ok s => exact congrArg Except.ok String.append_empty

theorem expandText_bare (ctx : Context) (l : Letter) :
    expandText ctx l.bare = (ctx.field l).bind Transformers.dots.apply :=
  expandText_single (read_bare l)

theorem expandText_bare_text (h : ctx.field l = .ok (.str s)) : expandText ctx l.bare = .ok s := by
  rw [expandText_bare, h]
  exact Transformers.apply_dots s

end SenderPolicy.MacroString
