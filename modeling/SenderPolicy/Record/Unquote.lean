/-
  SenderPolicy.Record.Unquote — the text of a record without the quotes around its strings.

  A record is published as strings in quotes. Two quotes with nothing but white space between them join
  two strings, so all of it goes; a quote on its own is removed alone.
  - `joinFrom_plain`: a text without quotes stays as it is.
  - `quote_not_mem_joinFrom`: no quote is left.
-/

import SenderPolicy.Text.Blank

namespace SenderPolicy.Record

open Text

/-- Behind a quote that may join two strings, `gap` holds the white space read since, last one first. -/
def joinFrom : Option (List Char) → List Char → List Char
  | some gap, [] => gap.reverse
  | some gap, c :: cs =>
    if c = '"' then joinFrom none cs
    else if isBlank c then joinFrom (some (c :: gap)) cs
    else gap.reverse ++ c :: joinFrom none cs
  | none, [] => []
  | none, c :: cs => if c = '"' then joinFrom (some []) cs else c :: joinFrom none cs

def unquoteChars (cs : List Char) : List Char := trim isBlank (joinFrom none (trim isBlank cs))

def unquote (record : String) : String := String.ofList (unquoteChars record.toList)

theorem joinFrom_plain {cs : List Char} (h : '"' ∉ cs) : joinFrom none cs = cs := by
  induction cs with
  | nil => rfl
  | cons c cs ih =>
    simp only [List.mem_cons, not_or] at h
    have hc : c ≠ '"' := fun e => h.1 e.symm
    simp [joinFrom, hc, ih h.2]

theorem quote_not_mem_joinFrom (state : Option (List Char)) (cs : List Char) (h : ∀ gap ∈ state, '"' ∉ gap) :
    '"' ∉ joinFrom state cs := by
  fun_induction joinFrom state cs with
  | case1 gap => simpa using h gap rfl
  | case2 gap cs ih => exact ih (by simp)
  | case3 gap c cs hc hb ih =>
    refine ih ?_
    intro g hg
    obtain rfl := Option.some.inj hg
    simp only [List.mem_cons, not_or]
    exact ⟨fun e => hc e.symm, h gap rfl⟩
  | case4 gap c cs hc hb ih =>
    simp only [List.mem_append, List.mem_reverse, List.mem_cons, not_or]
    exact ⟨h gap rfl, fun e => hc e.symm, ih (by simp)⟩
  | case5 => simp
  | case6 cs ih => exact ih (by simp)
  | case7 c cs hc ih =>
    simp only [List.mem_cons, not_or]
    exact ⟨fun e => hc e.symm, ih (by simp)⟩

example : unquote " \"v=spf1 a\"\t \"b\" " = "v=spf1 ab" := by decide

end SenderPolicy.Record
