/-
  SenderPolicy.Sequence.Arrange — sorting by runs, for orders that leave elements incomparable.

  The elements are cut into runs. A run that is too short takes in the elements behind it, each put in its
  place. Neighbouring runs are merged in the order of a balanced tree over all elements: the border of two
  runs has the power of the first binary digit in which their middles differ, as fractions of the whole,
  and of two neighbouring borders the one of the higher power is merged away first.
  Where any two elements can be compared this is a stable sort like any other. Where they cannot, as with
  blocks that differ in their scope, the result depends on the pairs that are compared, so these steps
  themselves are the rule.
  - `arrange_perm`: sorting keeps every element.
-/

import SenderPolicy.Sequence.Bisect
import SenderPolicy.Sequence.Merge

namespace SenderPolicy.Sequence

variable {α : Type} (lt : α → α → Bool)

/-! ## Runs -/

/-- The length that makes up so many elements in runs whose number is a power of two or a little less:
    the first six binary digits of the count, rounded up. Below 64 one run takes all. -/
def leastRun (count : Nat) : Nat :=
  if count < 64 then count
  else
    let parts := Nat.pow 2 (count.log2 - 5)
    (count + parts - 1) / parts

/-- Cuts the elements into runs of `least` elements or more, the last one apart. -/
def cut (least : Nat) : (steps : Nat) → List α → List (List α)
  | _, [] => []
  | 0, as => [as]
  | steps + 1, as =>
    let (run, rest) := firstRun lt as
    let missing := least - run.length
    (rest.take missing).foldl (fun run a => place lt a run) run :: cut least steps (rest.drop missing)

/-! ## Merging -/

/-- The power of a border among `count` elements, from twice the middles of the runs at its sides. -/
def power (count : Nat) : (steps left right : Nat) → Nat
  | 0, _, _ => 0
  | steps + 1, left, right =>
    if count ≤ left then power count steps (2 * (left - count)) (2 * (right - count)) + 1
    else if count ≤ right then 1
    else power count steps (2 * left) (2 * right) + 1

/-- Runs that wait to be merged, the latest one on top; a run below it has the power of the border behind it. -/
structure Pile (α : Type) where
  below : List (Nat × List α)
  top : List α
  patience : Nat

namespace Pile

def all (p : Pile α) : List α := (p.below.map Prod.snd).flatten ++ p.top

/-- Merges the borders of a higher power than this one. -/
def settle (limit : Nat) (below : List (Nat × List α)) (top : List α) (patience : Nat) : Pile α :=
  match below with
  | [] => ⟨[], top, patience⟩
  | (height, run) :: below =>
    if limit < height then
      let (whole, patience) := mergeRuns lt patience run top
      settle limit below whole patience
    else ⟨(height, run) :: below, top, patience⟩

def push (p : Pile α) (height : Nat) (run : List α) : Pile α :=
  let p := settle lt height p.below p.top p.patience
  ⟨(height, p.top) :: p.below, run, p.patience⟩

/-- Merges all runs, the topmost first: the second run goes with the shorter one of its neighbours. -/
def collapse : (steps patience : Nat) → List (List α) → List α
  | 0, _, runs => runs.flatten
  | _ + 1, _, [] => []
  | _ + 1, _, [run] => run
  | _ + 1, patience, [top, run] => (mergeRuns lt patience run top).1
  | steps + 1, patience, top :: run :: low :: below =>
    if low.length < top.length then
      let (whole, patience) := mergeRuns lt patience low run
      collapse steps patience (top :: whole :: below)
    else
      let (whole, patience) := mergeRuns lt patience run top
      collapse steps patience (whole :: low :: below)

/-- Piles up runs that begin behind `start` of `count` elements, where `length` of them are the latest run. -/
def gather (count : Nat) : (start length : Nat) → List (List α) → Pile α → Pile α
  | _, _, [], p => p
  | start, length, run :: runs, p =>
    let left := 2 * start + length
    let height := power count (count + 1) left (left + length + run.length)
    gather count (start + length) run.length runs (p.push lt height run)

end Pile

def arrange (as : List α) : List α :=
  match cut lt (leastRun as.length) as.length as with
  | [] => []
  | run :: runs =>
    let p := Pile.gather lt as.length 0 run.length runs ⟨[], run, 7⟩
    Pile.collapse lt (p.below.length + 1) p.patience (p.top :: p.below.map Prod.snd)

/-! ## No element is lost and none is added -/

theorem cut_perm (least steps : Nat) (as : List α) : (cut lt least steps as).flatten.Perm as := by
  induction steps generalizing as with
  | zero =>
    cases as with
    | nil => exact .refl _
    | cons a as => exact .of_eq (List.append_nil _)
  | succ steps ih =>
    cases as with
    | nil => exact .refl _
    | cons a as =>
      have h := firstRun_perm lt (a :: as)
      unfold cut
      dsimp only
      generalize firstRun lt (a :: as) = parts at h ⊢
      obtain ⟨run, rest⟩ := parts
      dsimp only at h ⊢
      generalize least - run.length = missing
      rw [List.flatten_cons]
      refine ((foldl_place_perm lt run _).append (ih _)).trans (List.Perm.trans (.of_eq ?_) h)
      rw [List.append_assoc, List.take_append_drop]

namespace Pile

theorem settle_perm (limit : Nat) (below : List (Nat × List α)) (top : List α) (patience : Nat) :
    (settle lt limit below top patience).all.Perm ((below.map Prod.snd).flatten ++ top) := by
  induction below generalizing top patience with
  | nil => exact .refl _
  | cons entry below ih =>
    obtain ⟨height, run⟩ := entry
    unfold settle
    split
    · refine (ih _ _).trans (((mergeRuns_perm lt patience run top).append_left _).trans ?_)
      rw [List.map_cons, List.flatten_cons, ← List.append_assoc]
      exact List.perm_append_comm.append_right top
    · exact .refl _

theorem push_perm (p : Pile α) (height : Nat) (run : List α) : (p.push lt height run).all.Perm (p.all ++ run) := by
  have h := settle_perm lt height p.below p.top p.patience
  refine List.Perm.trans ?_ (h.append_right run)
  show ((settle lt height p.below p.top p.patience).top ++ _ ++ run).Perm _
  exact List.perm_append_comm.append_right run

theorem gather_perm (count start length : Nat) (runs : List (List α)) (p : Pile α) :
    (gather lt count start length runs p).all.Perm (p.all ++ runs.flatten) := by
  induction runs generalizing start length p with
  | nil => exact .of_eq (List.append_nil _).symm
  | cons run runs ih =>
    refine (ih _ _ _).trans (((push_perm lt p _ run).append_right _).trans (.of_eq ?_))
    rw [List.flatten_cons, List.append_assoc]

theorem collapse_perm (steps patience : Nat) (runs : List (List α)) :
    (collapse lt steps patience runs).Perm runs.flatten := by
  induction steps generalizing patience runs with
  | zero => exact .refl _
  | succ steps ih =>
    match runs with
    | [] => exact .refl _
    | [run] => exact .of_eq (List.append_nil _).symm
    | [top, run] =>
      refine (mergeRuns_perm lt patience run top).trans (List.perm_append_comm.trans (.of_eq ?_))
      rw [List.flatten_cons, List.flatten_singleton]
    | top :: run :: low :: below =>
      unfold collapse
      simp only [List.flatten_cons]
      split
      · refine (ih _ _).trans ?_
        simp only [List.flatten_cons]
        refine List.Perm.append_left top ?_
        rw [← List.append_assoc]
        exact ((mergeRuns_perm lt patience low run).trans List.perm_append_comm).append_right _
      · refine (ih _ _).trans ?_
        simp only [List.flatten_cons]
        refine (((mergeRuns_perm lt patience run top).trans List.perm_append_comm).append_right _).trans ?_
        exact .of_eq (List.append_assoc _ _ _)

end Pile

theorem arrange_perm (as : List α) : (arrange lt as).Perm as := by
  have h := cut_perm lt (leastRun as.length) as.length as
  unfold arrange
  split <;> rename_i hr <;> rw [hr] at h
  · exact h
  · rename_i run runs
    refine (Pile.collapse_perm lt _ _ _).trans (List.Perm.trans ?_ h)
    refine List.Perm.trans ?_ (Pile.gather_perm lt as.length 0 run.length runs ⟨[], run, 7⟩)
    exact List.perm_append_comm

example : arrange (fun a b : Nat => a < b) [5, 3, 1, 4, 2, 4] = [1, 2, 3, 4, 4, 5] := by decide

end SenderPolicy.Sequence
