/-
  SenderPolicy.Sequence.Stride — counting the elements at an end that pass a test, with few tests.

  The elements tested are the first, the second, the fourth, the eighth and so on, counted from the end
  where the search begins; between the last one that passed and the first one that did not, halving goes
  on. Where what passes stands before what does not, the count is that of all elements that pass. Where
  it does not, the count depends on the elements tested, so these steps themselves are the rule.
  - `leading_le`: no more elements are counted than there are.
  - `leading_eq`: where what passes stands before what does not, all that pass are counted.
-/

namespace SenderPolicy.Sequence

variable {α : Type}

/-- The end of a list at which a search begins. A search at the back is given the list turned around. -/
inductive Side
  | front
  | back
  deriving DecidableEq, Repr

/-- The middle of so many elements, counted from the end in question; of two, the later one in the list. -/
def Side.middle : Side → Nat → Nat
  | .front, count => count / 2
  | .back, count => (count - 1) / 2

variable (side : Side) (passes : α → Bool)

/-- The number of elements that pass, by halving, with so many tests at most. -/
def halve : Nat → List α → Nat
  | 0, _ => 0
  | steps + 1, as =>
    match as.drop (side.middle as.length) with
    | [] => 0
    | a :: behind =>
      if passes a then side.middle as.length + 1 + halve steps behind
      else halve steps (as.take (side.middle as.length))

/-- The number of elements that pass, where `gap` elements are left out before the next test. -/
def stride : (steps gap : Nat) → List α → Nat
  | 0, _, _ => 0
  | steps + 1, gap, as =>
    match as.drop gap with
    | [] => halve side passes as.length as
    | a :: behind => if passes a then gap + 1 + stride steps (2 * gap + 1) behind else halve side passes gap (as.take gap)

/-- The number of elements at the beginning that pass. -/
def leading : List α → Nat
  | [] => 0
  | a :: as => if passes a then 1 + stride side passes (as.length + 1) 0 as else 0

theorem middle_lt {count : Nat} (h : count ≠ 0) : side.middle count < count := by
  cases side <;> simp only [Side.middle] <;> omega

theorem halve_le (steps : Nat) (as : List α) : halve side passes steps as ≤ as.length := by
  induction steps generalizing as with
  | zero => exact Nat.zero_le _
  | succ steps ih =>
    unfold halve
    split
    · exact Nat.zero_le _
    · rename_i a behind h
      have hl := congrArg List.length h
      rw [List.length_drop, List.length_cons] at hl
      split
      · have := ih behind
        omega
      · have := ih (as.take (side.middle as.length))
        rw [List.length_take] at this
        omega

theorem stride_le (steps gap : Nat) (as : List α) : stride side passes steps gap as ≤ as.length := by
  induction steps generalizing gap as with
  | zero => exact Nat.zero_le _
  | succ steps ih =>
    unfold stride
    split
    · exact halve_le side passes _ _
    · rename_i a behind h
      have hl := congrArg List.length h
      rw [List.length_drop, List.length_cons] at hl
      split
      · have := ih (2 * gap + 1) behind
        omega
      · have := halve_le side passes gap (as.take gap)
        rw [List.length_take] at this
        omega

theorem leading_le (as : List α) : leading side passes as ≤ as.length := by
  cases as with
  | nil => exact Nat.le_refl _
  | cons a as =>
    have := stride_le side passes (as.length + 1) 0 as
    show (if passes a then 1 + stride side passes (as.length + 1) 0 as else 0) ≤ as.length + 1
    split <;> omega

/-! ## Where what passes stands before what does not -/

variable {passes}

/-- The number of elements before the first one that does not pass. -/
abbrev passing (passes : α → Bool) (as : List α) : Nat := (as.takeWhile passes).length

theorem passing_of_pass {a : α} {low behind : List α} (h : (low ++ a :: behind).Pairwise fun x y => passes y → passes x)
    (ha : passes a = true) : passing passes (low ++ a :: behind) = low.length + 1 + passing passes behind := by
  have hlow : ∀ x ∈ low, passes x = true := fun x hx =>
    (List.pairwise_append.1 h).2.2 x hx a List.mem_cons_self ha
  rw [passing, List.takeWhile_append_of_pos hlow, List.takeWhile_cons_of_pos ha, List.length_append, List.length_cons,
    Nat.add_right_comm, Nat.add_assoc]

theorem passing_of_fail {a : α} (low behind : List α) (ha : passes a ≠ true) :
    passing passes (low ++ a :: behind) = passing passes low := by
  induction low with
  | nil => rw [List.nil_append, passing, List.takeWhile_cons_of_neg ha]; rfl
  | cons x low ih =>
    by_cases hx : passes x = true
    · rw [passing, List.cons_append, List.takeWhile_cons_of_pos hx, passing, List.takeWhile_cons_of_pos hx]
      exact congrArg Nat.succ ih
    · rw [passing, List.cons_append, List.takeWhile_cons_of_neg hx, passing, List.takeWhile_cons_of_neg hx]

theorem halve_eq {steps : Nat} {as : List α} (hs : as.length ≤ steps) (h : as.Pairwise fun x y => passes y → passes x) :
    halve side passes steps as = passing passes as := by
  induction steps generalizing as with
  | zero => rw [List.eq_nil_of_length_eq_zero (Nat.le_zero.1 hs)]; rfl
  | succ steps ih =>
    have cut := List.take_append_drop (side.middle as.length) as
    unfold halve
    split
    · rename_i hd
      have hl := congrArg List.length hd
      rw [List.length_drop, List.length_nil] at hl
      by_cases h0 : as.length = 0
      · rw [List.eq_nil_of_length_eq_zero h0]; rfl
      · have := middle_lt side h0
        omega
    · rename_i a behind hd
      have hl := congrArg List.length hd
      rw [List.length_drop, List.length_cons] at hl
      rw [hd] at cut
      have hlow : (as.take (side.middle as.length)).length = side.middle as.length := by
        rw [List.length_take]
        omega
      rw [← cut] at h
      obtain ⟨h1, h2, -⟩ := List.pairwise_append.1 h
      split
      · rename_i ha
        rw [ih (by omega) (List.pairwise_cons.1 h2).2]
        have := passing_of_pass h ha
        rwa [cut, hlow, eq_comm] at this
      · rename_i ha
        rw [ih (by omega) h1]
        have := passing_of_fail (as.take (side.middle as.length)) behind ha
        rwa [cut, eq_comm] at this

theorem stride_eq {steps gap : Nat} {as : List α} (hs : as.length < steps)
    (h : as.Pairwise fun x y => passes y → passes x) : stride side passes steps gap as = passing passes as := by
  induction steps generalizing gap as with
  | zero => exact absurd hs (Nat.not_lt_zero _)
  | succ steps ih =>
    have cut := List.take_append_drop gap as
    unfold stride
    split
    · exact halve_eq side (Nat.le_refl _) h
    · rename_i a behind hd
      have hl := congrArg List.length hd
      rw [List.length_drop, List.length_cons] at hl
      rw [hd] at cut
      have hlow : (as.take gap).length = gap := by
        rw [List.length_take]
        omega
      rw [← cut] at h
      obtain ⟨h1, h2, -⟩ := List.pairwise_append.1 h
      split
      · rename_i ha
        rw [ih (by omega) (List.pairwise_cons.1 h2).2]
        have := passing_of_pass h ha
        rwa [cut, hlow, eq_comm] at this
      · rename_i ha
        rw [halve_eq side (by omega) h1]
        have := passing_of_fail (as.take gap) behind ha
        rwa [cut, eq_comm] at this

theorem leading_eq {as : List α} (h : as.Pairwise fun x y => passes y → passes x) :
    leading side passes as = passing passes as := by
  cases as with
  | nil => rfl
  | cons a as =>
    show (if passes a then 1 + stride side passes (as.length + 1) 0 as else 0) = _
    split
    · rename_i ha
      rw [stride_eq side (Nat.lt_succ_self _) (List.pairwise_cons.1 h).2, passing, passing,
        List.takeWhile_cons_of_pos ha, List.length_cons, Nat.add_comm]
    · rename_i ha
      rw [passing, List.takeWhile_cons_of_neg ha]
      rfl

end SenderPolicy.Sequence
