/-
  SenderPolicy.Sequence.Total — sums over a list.

  - `total_filter`: leaving out elements that add nothing does not change a total.
  - `le_tally`: no element adds more than all of them together.
  - `tally_mono`: nor do some of them.
-/

namespace SenderPolicy.Sequence

variable {α : Type}

/-- The sum of `f` over a list. -/
def total (f : α → Int) : List α → Int
  | [] => 0
  | a :: as => f a + total f as

/-- The sum of `f` over a list, of what is never negative. -/
def tally (f : α → Nat) : List α → Nat
  | [] => 0
  | a :: as => f a + tally f as

theorem total_append (f : α → Int) (as bs : List α) : total f (as ++ bs) = total f as + total f bs := by
  induction as with
  | nil => simp [total]
  | cons a as ih => simp only [List.cons_append, total, ih]; omega

theorem total_filter (f : α → Int) (as : List α) : total f (as.filter (f · ≠ 0)) = total f as := by
  induction as with
  | nil => rfl
  | cons a as ih =>
    by_cases h : f a = 0
    · simp [total, h, ← ih]
    · simp [total, h, ← ih]

theorem total_map {β : Type} (f : β → Int) (g : α → β) (as : List α) : total f (as.map g) = total (fun a => f (g a)) as := by
  induction as with
  | nil => rfl
  | cons a as ih => simp only [List.map_cons, total, ih]

theorem tally_append (f : α → Nat) (as bs : List α) : tally f (as ++ bs) = tally f as + tally f bs := by
  induction as with
  | nil => simp [tally]
  | cons a as ih => simp only [List.cons_append, tally, ih]; omega

theorem le_tally (f : α → Nat) {a : α} {as : List α} (h : a ∈ as) : f a ≤ tally f as := by
  induction as with
  | nil => cases h
  | cons b bs ih =>
    rcases List.mem_cons.1 h with rfl | h
    · exact Nat.le_add_right _ _
    · exact Nat.le_trans (ih h) (Nat.le_add_left _ _)

theorem tally_mono (f : α → Nat) {as bs : List α} (h : as.Sublist bs) : tally f as ≤ tally f bs := by
  induction h with
  | slnil => exact Nat.le_refl _
  | cons b h ih =>
    simp only [tally]
    omega
  | cons_cons b h ih =>
    simp only [tally]
    omega

theorem tally_map {β : Type} (f : β → Nat) (g : α → β) (as : List α) : tally f (as.map g) = tally (fun a => f (g a)) as := by
  induction as with
  | nil => rfl
  | cons a as ih => simp only [List.map_cons, tally, ih]

end SenderPolicy.Sequence
