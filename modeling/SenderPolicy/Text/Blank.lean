/-
  SenderPolicy.Text.Blank — white space, in every script, and the texts between it.

  `strip` takes it from both ends, `words` gives the longest runs without it.
  - `runs_nonempty`: no run is empty.
  - `trimEnd_append`: what `trimEnd` takes away are the last characters.
-/

namespace SenderPolicy.Text

def isBlank (c : Char) : Bool :=
  let n := c.toNat
  (9 ≤ n && n ≤ 13) || (28 ≤ n && n ≤ 32) || n == 0x85 || n == 0xa0 || n == 0x1680
    || (0x2000 ≤ n && n ≤ 0x200a) || n == 0x2028 || n == 0x2029 || n == 0x202f || n == 0x205f || n == 0x3000

/-- Without the characters of `p` at the end. -/
def trimEnd (p : Char → Bool) (cs : List Char) : List Char := (cs.reverse.dropWhile p).reverse

def trim (p : Char → Bool) (cs : List Char) : List Char := trimEnd p (cs.dropWhile p)

def strip (s : String) : String := String.ofList (trim isBlank s.toList)

/-- Without the dots at the end. -/
def dropDots (s : String) : String := String.ofList (trimEnd (· == '.') s.toList)

/-- The longest runs of characters outside `p`, in order. -/
def runs (p : Char → Bool) (cs : List Char) : List (List Char) := (cs.splitOnP p).filter (!·.isEmpty)

def words (s : String) : List String := (runs isBlank s.toList).map String.ofList

theorem runs_nonempty {p : Char → Bool} {cs r : List Char} (h : r ∈ runs p cs) : r ≠ [] := by
  have := (List.mem_filter.1 h).2
  simpa using this

theorem trimEnd_append (p : Char → Bool) (cs : List Char) :
    trimEnd p cs ++ (cs.reverse.takeWhile p).reverse = cs := by
  rw [trimEnd, ← List.reverse_append, List.takeWhile_append_dropWhile, List.reverse_reverse]

example : words " v=spf1\t a:x\u00a0-all" = ["v=spf1", "a:x", "-all"] := by decide
example : strip "\u3000a b \x1c" = "a b" := by decide

end SenderPolicy.Text
