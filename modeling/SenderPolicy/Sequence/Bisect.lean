/-
  SenderPolicy.Sequence.Bisect — the run at the beginning of a list, and places in a run.

  A run is as long as each element does not precede the one before it, or as each one does; of the second
  kind it is turned around. An element is put in its place in a run by halving: before the middle element
  if it precedes that one, behind it otherwise. Where elements are incomparable, the place depends on the
  elements that the halving meets, so these steps themselves are the rule.
  - `firstRun_perm`, `place_perm`: no element is lost and none is added.
-/

namespace SenderPolicy.Sequence

variable {α : Type} (lt : α → α → Bool)

/-- Puts `a` in its place with so many halvings at most. -/
def placeWithin (a : α) : Nat → List α → List α
  | 0, as => a :: as
  | steps + 1, as =>
    match as.drop (as.length / 2) with
    | [] => [a]
    | b :: high =>
      let low := as.take (as.length / 2)
      if lt a b then placeWithin a steps low ++ b :: high else low ++ b :: placeWithin a steps high

def place (a : α) (as : List α) : List α := placeWithin lt a as.length as

/-- The elements up to the first one that precedes the one before it, and the rest. -/
def ascending (last : α) : List α → List α × List α
  | [] => ([], [])
  | a :: as => if lt a last then ([], a :: as) else (a :: (ascending a as).1, (ascending a as).2)

/-- The elements up to the first one that does not precede the one before it, and the rest. -/
def descending (last : α) : List α → List α × List α
  | [] => ([], [])
  | a :: as => if lt a last then (a :: (descending a as).1, (descending a as).2) else ([], a :: as)

/-- The run at the beginning in ascending order, and the rest. -/
def firstRun : List α → List α × List α
  | a :: b :: as =>
    if lt b a then ((a :: (descending lt a (b :: as)).1).reverse, (descending lt a (b :: as)).2)
    else (a :: (ascending lt a (b :: as)).1, (ascending lt a (b :: as)).2)
  | as => (as, [])

theorem placeWithin_perm (a : α) (steps : Nat) (as : List α) : (placeWithin lt a steps as).Perm (a :: as) := by
  induction steps generalizing as with
  | zero => exact .refl _
  | succ steps ih =>
    have split := List.take_append_drop (as.length / 2) as
    unfold placeWithin
    cases h : as.drop (as.length / 2) with
    | nil =>
      have hlen := congrArg List.length h
      rw [List.length_drop, List.length_nil] at hlen
      have : as = [] := List.eq_nil_of_length_eq_zero (by omega)
      subst this
      exact .refl _
    | cons b high =>
      rw [h] at split
      dsimp only
      generalize as.take (as.length / 2) = low at split ⊢
      subst split
      split
      · exact (ih low).append_right _
      · exact (((ih high).cons b).append_left low).trans ((((List.Perm.swap a b high)).append_left low).trans List.perm_middle)

theorem place_perm (a : α) (as : List α) : (place lt a as).Perm (a :: as) := placeWithin_perm lt a _ as

theorem ascending_append (last : α) (as : List α) : (ascending lt last as).1 ++ (ascending lt last as).2 = as := by
  induction as generalizing last with
  | nil => rfl
  | cons a as ih =>
    unfold ascending
    split
    · rfl
    · exact congrArg (a :: ·) (ih a)

theorem descending_append (last : α) (as : List α) : (descending lt last as).1 ++ (descending lt last as).2 = as := by
  induction as generalizing last with
  | nil => rfl
  | cons a as ih =>
    unfold descending
    split
    · exact congrArg (a :: ·) (ih a)
    · rfl

theorem firstRun_perm (as : List α) : ((firstRun lt as).1 ++ (firstRun lt as).2).Perm as := by
  match as with
  | [] => exact .refl _
  | [a] => exact .refl _
  | a :: b :: as =>
    by_cases h : lt b a = true
    · simp only [firstRun, h, if_true]
      refine ((List.reverse_perm _).append_right _).trans (.of_eq ?_)
      exact congrArg (a :: ·) (descending_append lt a (b :: as))
    · simp only [firstRun, h]
      exact .of_eq (congrArg (a :: ·) (ascending_append lt a (b :: as)))

theorem foldl_place_perm (run as : List α) : (as.foldl (fun run a => place lt a run) run).Perm (run ++ as) := by
  induction as generalizing run with
  | nil => exact .of_eq (List.append_nil _).symm
  | cons a as ih =>
    refine (ih (place lt a run)).trans (((place_perm lt a run).append_right as).trans ?_)
    exact List.perm_middle.symm

example : firstRun (fun a b : Nat => a < b) [5, 3, 1, 4, 2] = ([1, 3, 5], [4, 2]) := by decide

example : place (fun a b : Nat × Char => a.1 < b.1) (2, 'c') [(1, 'a'), (2, 'b'), (3, 'd')] =
    [(1, 'a'), (2, 'b'), (2, 'c'), (3, 'd')] := by decide

end SenderPolicy.Sequence
