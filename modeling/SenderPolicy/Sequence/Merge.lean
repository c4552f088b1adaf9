/-
  SenderPolicy.Sequence.Merge — two neighbouring runs made one.

  What the first run has before the head of the second is in place, and so is what the second run has
  behind the last element of the first. The rest is merged from the end of the shorter run, of two equally
  long ones from the front: element by element, until one run has given so many in succession that it is
  likely to give more; then whole stretches are found by `leading` and moved together, until they get
  short. How many it takes is the patience of the merge, which sinks while stretches pay and rises when
  they do not, and which is handed on from one merge to the next.
  Where any two elements can be compared, all this only saves comparisons. Where they cannot, the result
  depends on the pairs that are compared, so these steps themselves are the rule.
  - `mergeRuns_perm`: no element is lost and none is added.
-/

import SenderPolicy.Sequence.Stride

namespace SenderPolicy.Sequence

variable {α : Type}

/-- Two runs while they are merged: what has been taken from them in this order, and what is left of each. -/
structure Merging (α : Type) where
  taken : List α
  first : List α
  second : List α

namespace Merging

def all (m : Merging α) : List α := m.taken ++ (m.first ++ m.second)

/-- The whole, if a run is used up or the first one is down to an element, which then goes behind the second run. -/
def whole? (m : Merging α) : Option (List α) :=
  match m.first, m.second with
  | [], ys => some (m.taken ++ ys)
  | [x], ys => some (m.taken ++ (ys ++ [x]))
  | xs, [] => some (m.taken ++ xs)
  | _, _ => none

/-- The state of the merge, or the whole if that ends it. -/
def settle (m : Merging α) : Except (List α) (Merging α) :=
  match m.whole? with
  | some whole => .error whole
  | none => .ok m

def takeFirst (m : Merging α) (count : Nat) : Except (List α) (Merging α) :=
  settle ⟨m.taken ++ m.first.take count, m.first.drop count, m.second⟩

def takeSecond (m : Merging α) (count : Nat) : Except (List α) (Merging α) :=
  settle ⟨m.taken ++ m.second.take count, m.first, m.second.drop count⟩

variable (side : Side) (before : α → α → Bool)

/-- Takes element by element, until one run has given `patience` of them in succession. -/
def singly (patience : Nat) : (steps firsts seconds : Nat) → Merging α → Except (List α) (Merging α)
  | 0, _, _, m => .error m.all
  | steps + 1, firsts, seconds, m =>
    match m.first, m.second with
    | x :: _, y :: _ =>
      if before y x then do
        let m ← m.takeSecond 1
        if patience ≤ seconds + 1 then .ok m else singly patience steps 0 (seconds + 1) m
      else do
        let m ← m.takeFirst 1
        if patience ≤ firsts + 1 then .ok m else singly patience steps (firsts + 1) 0 m
    | _, _ => .error m.all

/-- Takes what the first run has before the head of the second, and that head; counts the former. -/
def stretchFirst (m : Merging α) : Except (List α) (Merging α × Nat) :=
  match m.second with
  | [] => .error m.all
  | y :: _ => do
    let count := leading side (fun x => !before y x) m.first
    let m ← m.takeFirst count
    let m ← m.takeSecond 1
    return (m, count)

/-- Takes what the second run has before the head of the first, and that head; counts the former. -/
def stretchSecond (m : Merging α) : Except (List α) (Merging α × Nat) :=
  match m.first with
  | [] => .error m.all
  | x :: _ => do
    let count := leading side (fun y => before y x) m.second
    let m ← m.takeSecond count
    let m ← m.takeFirst 1
    return (m, count)

/-- A stretch of each run; from the back the second run has its turn first. Stretches of seven elements pay. -/
def stretchBoth (m : Merging α) : Except (List α) (Merging α × Bool) :=
  match side with
  | .front => do
    let (m, firsts) ← stretchFirst side before m
    let (m, seconds) ← stretchSecond side before m
    return (m, 7 ≤ firsts || 7 ≤ seconds)
  | .back => do
    let (m, seconds) ← stretchSecond side before m
    let (m, firsts) ← stretchFirst side before m
    return (m, 7 ≤ firsts || 7 ≤ seconds)

/-- Takes stretches while they pay; with the patience that is left. -/
def stretches : (steps patience : Nat) → Merging α → Except (List α) (Merging α) × Nat
  | 0, patience, m => (.error m.all, patience)
  | steps + 1, patience, m =>
    match stretchBoth side before m with
    | .error whole => (.error whole, patience)
    | .ok (m, true) => stretches steps (max 1 (patience - 1)) m
    | .ok (m, false) => (.ok m, patience + 1)

/-- Takes all elements, in so many rounds at most; with the patience that is left. -/
def finish : (rounds patience : Nat) → Merging α → List α × Nat
  | 0, patience, m => (m.all, patience)
  | rounds + 1, patience, m =>
    match singly before patience (m.all.length + 1) 0 0 m with
    | .error whole => (whole, patience)
    | .ok m =>
      match stretches side before (m.all.length + 1) patience m with
      | (.error whole, patience) => (whole, patience)
      | (.ok m, patience) => finish rounds patience m

/-- Takes all elements, the head of the second run first. -/
def run (patience : Nat) (m : Merging α) : List α × Nat :=
  match m.takeSecond 1 with
  | .error whole => (whole, patience)
  | .ok m => finish side before (m.all.length + 1) patience m

end Merging

variable (lt : α → α → Bool)

/-- Merges two runs from the end of the shorter one. -/
def mergeFrom (patience : Nat) (first second : List α) : List α × Nat :=
  if first.length ≤ second.length then Merging.run .front lt patience ⟨[], first, second⟩
  else
    let (whole, patience) := Merging.run .back (fun a b => lt b a) patience ⟨[], second.reverse, first.reverse⟩
    (whole.reverse, patience)

/-- Merges two neighbouring runs; with the patience that is left. -/
def mergeRuns (patience : Nat) (first second : List α) : List α × Nat :=
  match second with
  | [] => (first, patience)
  | y :: _ =>
    let start := leading .front (fun x => !lt y x) first
    match first.getLast? with
    | none => (second, patience)
    | some x =>
      let rest := second.length - leading .back (fun b => !lt b x) second.reverse
      if start = first.length ∨ rest = 0 then (first ++ second, patience)
      else
        let (whole, patience) := mergeFrom lt patience (first.drop start) (second.take rest)
        (first.take start ++ whole ++ second.drop rest, patience)

/-! ## No element is lost and none is added -/

namespace Merging

/-- The result of a step holds these elements, whether it ends the merge or not. -/
def Keeps {β : Type} (state : β → Merging α) (elements : List α) : Except (List α) β → Prop
  | .error whole => whole.Perm elements
  | .ok b => (state b).all.Perm elements

theorem keeps_bind {β γ : Type} {state : β → Merging α} {state' : γ → Merging α} {elements : List α}
    {r : Except (List α) β} {f : β → Except (List α) γ} (h : Keeps state elements r)
    (hf : ∀ b, (state b).all.Perm elements → Keeps state' elements (f b)) : Keeps state' elements (r >>= f) := by
  cases r with
  | error whole => exact h
  | ok b => exact hf b h

theorem whole?_perm {m : Merging α} {whole : List α} (h : m.whole? = some whole) : whole.Perm m.all := by
  obtain ⟨taken, first, second⟩ := m
  match first, second with
  | [], ys => cases h; exact .refl _
  | [x], ys => cases h; exact List.perm_append_comm.append_left taken
  | x :: x' :: xs, [] => cases h; exact .of_eq (congrArg (taken ++ ·) (List.append_nil _).symm)
  | x :: x' :: xs, y :: ys => cases h

theorem settle_keeps (m : Merging α) : Keeps id m.all m.settle := by
  unfold settle
  split
  · rename_i whole h
    exact whole?_perm h
  · exact .refl _

theorem takeFirst_keeps (m : Merging α) (count : Nat) : Keeps id m.all (m.takeFirst count) := by
  have h : (Merging.mk (m.taken ++ m.first.take count) (m.first.drop count) m.second).all = m.all := by
    show m.taken ++ m.first.take count ++ (m.first.drop count ++ m.second) = m.taken ++ (m.first ++ m.second)
    rw [List.append_assoc, ← List.append_assoc (m.first.take count), List.take_append_drop]
  exact h ▸ settle_keeps _

theorem takeSecond_keeps (m : Merging α) (count : Nat) : Keeps id m.all (m.takeSecond count) := by
  have h : (Merging.mk (m.taken ++ m.second.take count) m.first (m.second.drop count)).all.Perm m.all := by
    show (m.taken ++ m.second.take count ++ (m.first ++ m.second.drop count)).Perm (m.taken ++ (m.first ++ m.second))
    rw [List.append_assoc]
    refine List.Perm.append_left _ ?_
    rw [← List.append_assoc]
    refine (List.perm_append_comm.append_right _).trans (.of_eq ?_)
    rw [List.append_assoc, List.take_append_drop]
  have hs := settle_keeps (Merging.mk (m.taken ++ m.second.take count) m.first (m.second.drop count))
  unfold takeSecond
  cases hr : (Merging.mk (m.taken ++ m.second.take count) m.first (m.second.drop count)).settle with
  | error whole => rw [hr] at hs; exact List.Perm.trans hs h
  | ok m' => rw [hr] at hs; exact List.Perm.trans hs h

theorem Keeps.of_perm {β : Type} {state : β → Merging α} {as bs : List α} {r : Except (List α) β} (h : Keeps state as r)
    (hp : as.Perm bs) : Keeps state bs r := by
  cases r with
  | error whole => exact List.Perm.trans h hp
  | ok b => exact List.Perm.trans h hp

variable (side : Side) (before : α → α → Bool)

theorem singly_keeps (patience steps firsts seconds : Nat) (m : Merging α) :
    Keeps id m.all (singly before patience steps firsts seconds m) := by
  induction steps generalizing firsts seconds m with
  | zero => exact .refl _
  | succ steps ih =>
    unfold singly
    split
    · split
      · refine keeps_bind (takeSecond_keeps m 1) fun m' hm => ?_
        split
        · exact hm
        · exact (ih 0 (seconds + 1) m').of_perm hm
      · refine keeps_bind (takeFirst_keeps m 1) fun m' hm => ?_
        split
        · exact hm
        · exact (ih (firsts + 1) 0 m').of_perm hm
    · exact .refl _

theorem stretchFirst_keeps (m : Merging α) : Keeps Prod.fst m.all (stretchFirst side before m) := by
  unfold stretchFirst
  split
  · exact .refl _
  · exact keeps_bind (takeFirst_keeps m _) fun m' hm =>
      keeps_bind ((takeSecond_keeps m' 1).of_perm hm) fun _ hm' => hm'

theorem stretchSecond_keeps (m : Merging α) : Keeps Prod.fst m.all (stretchSecond side before m) := by
  unfold stretchSecond
  split
  · exact .refl _
  · exact keeps_bind (takeSecond_keeps m _) fun m' hm =>
      keeps_bind ((takeFirst_keeps m' 1).of_perm hm) fun _ hm' => hm'

theorem stretchBoth_keeps (m : Merging α) : Keeps Prod.fst m.all (stretchBoth side before m) := by
  unfold stretchBoth
  split
  · exact keeps_bind (stretchFirst_keeps _ before m) fun r hr =>
      keeps_bind ((stretchSecond_keeps _ before r.1).of_perm hr) fun _ hm => hm
  · exact keeps_bind (stretchSecond_keeps _ before m) fun r hr =>
      keeps_bind ((stretchFirst_keeps _ before r.1).of_perm hr) fun _ hm => hm

theorem stretches_keeps (steps patience : Nat) (m : Merging α) :
    Keeps id m.all (stretches side before steps patience m).1 := by
  induction steps generalizing patience m with
  | zero => exact .refl _
  | succ steps ih =>
    have h := stretchBoth_keeps side before m
    unfold stretches
    split <;> rename_i hr <;> rw [hr] at h
    · exact h
    · exact (ih _ _).of_perm h
    · exact h

theorem finish_perm (rounds patience : Nat) (m : Merging α) : (finish side before rounds patience m).1.Perm m.all := by
  induction rounds generalizing patience m with
  | zero => exact .refl _
  | succ rounds ih =>
    have h := singly_keeps before patience (m.all.length + 1) 0 0 m
    unfold finish
    split <;> rename_i hr <;> rw [hr] at h
    · exact h
    · rename_i m'
      have h' := stretches_keeps side before (m'.all.length + 1) patience m'
      split <;> rename_i hr' <;> rw [hr'] at h'
      · exact List.Perm.trans h' h
      · exact (ih _ _).trans (List.Perm.trans h' h)

theorem run_perm (patience : Nat) (m : Merging α) : (run side before patience m).1.Perm m.all := by
  have h := takeSecond_keeps m 1
  unfold run
  split <;> rename_i hr <;> rw [hr] at h
  · exact h
  · exact (finish_perm side before _ _ _).trans h

end Merging

theorem mergeFrom_perm (patience : Nat) (first second : List α) :
    (mergeFrom lt patience first second).1.Perm (first ++ second) := by
  unfold mergeFrom
  split
  · exact Merging.run_perm .front lt patience ⟨[], first, second⟩
  · refine (List.reverse_perm _).trans ((Merging.run_perm .back _ patience ⟨[], second.reverse, first.reverse⟩).trans ?_)
    exact ((List.reverse_perm second).append (List.reverse_perm first)).trans List.perm_append_comm

theorem mergeRuns_perm (patience : Nat) (first second : List α) :
    (mergeRuns lt patience first second).1.Perm (first ++ second) := by
  unfold mergeRuns
  split
  · exact .of_eq (List.append_nil _).symm
  · rename_i y ys
    dsimp only
    split
    · rename_i h
      rw [List.getLast?_eq_none_iff.1 h]
      exact .refl _
    · rename_i x _
      generalize leading .front (fun x => !lt y x) first = start
      generalize (y :: ys).length - leading .back (fun b => !lt b x) (y :: ys).reverse = rest
      split
      · exact .refl _
      · have h := mergeFrom_perm lt patience (first.drop start) ((y :: ys).take rest)
        refine ((h.append_left _).append_right _).trans (.of_eq ?_)
        rw [← List.append_assoc, List.take_append_drop, List.append_assoc, List.take_append_drop]

end SenderPolicy.Sequence
