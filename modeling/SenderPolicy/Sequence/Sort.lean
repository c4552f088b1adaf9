/-
  SenderPolicy.Sequence.Sort — stable sorting.

  Every element goes in front of the first one that it may precede, the last element first, so elements
  that count as equal keep their order.
  - `sort_perm`: sorting keeps every element.
  - `sort_map`: it commutes with a map that the order does not see.
  - `sort_pairwise`: with a total, transitive order the result is in order.
  - `sort_eq_of_perm`: if the order is antisymmetric, too, the result depends on the elements only.
-/

namespace SenderPolicy.Sequence

variable {α : Type} (le : α → α → Bool)

def insert (a : α) : List α → List α
  | [] => [a]
  | b :: bs => if le a b then a :: b :: bs else b :: insert a bs

def sort : List α → List α
  | [] => []
  | a :: as => insert le a (sort as)

theorem insert_perm (a : α) (bs : List α) : (insert le a bs).Perm (a :: bs) := by
  induction bs with
  | nil => exact .refl _
  | cons b bs ih =>
    unfold insert
    split
    · exact .refl _
    · exact (ih.cons b).trans (.swap a b bs)

theorem sort_perm (as : List α) : (sort le as).Perm as := by
  induction as with
  | nil => exact .refl _
  | cons a as ih => exact (insert_perm le a _).trans (ih.cons a)

theorem mem_sort {a : α} {as : List α} : a ∈ sort le as ↔ a ∈ as := (sort_perm le as).mem_iff

/-- What is sorted by what it stands for is sorted as that is. -/
theorem sort_map {β : Type} {le' : β → β → Bool} {f : α → β} (h : ∀ a b, le' (f a) (f b) = le a b) (as : List α) :
    sort le' (as.map f) = (sort le as).map f := by
  have hinsert : ∀ a bs, insert le' (f a) (bs.map f) = (insert le a bs).map f := by
    intro a bs
    induction bs with
    | nil => rfl
    | cons b bs ih =>
      unfold insert
      rw [List.map_cons]
      dsimp only
      rw [h a b]
      split
      · rfl
      · rw [ih, List.map_cons]
  induction as with
  | nil => rfl
  | cons a as ih => rw [List.map_cons, sort, ih, hinsert, sort]

variable {le}

theorem insert_pairwise (trans : ∀ a b c, le a b → le b c → le a c) (total : ∀ a b, le a b ∨ le b a) (a : α)
    {bs : List α} (h : bs.Pairwise (le · ·)) : (insert le a bs).Pairwise (le · ·) := by
  induction bs with
  | nil => simp [insert]
  | cons b bs ih =>
    obtain ⟨hb, hbs⟩ := List.pairwise_cons.1 h
    unfold insert
    split
    · rename_i hab
      refine List.pairwise_cons.2 ⟨fun c hc => ?_, h⟩
      rcases List.mem_cons.1 hc with rfl | hc
      · exact hab
      · exact trans _ _ _ hab (hb c hc)
    · rename_i hab
      refine List.pairwise_cons.2 ⟨fun c hc => ?_, ih hbs⟩
      rcases List.mem_cons.1 ((insert_perm le a bs).mem_iff.1 hc) with rfl | hc
      · exact (total _ _).resolve_left hab
      · exact hb c hc

theorem sort_pairwise (trans : ∀ a b c, le a b → le b c → le a c) (total : ∀ a b, le a b ∨ le b a) (as : List α) :
    (sort le as).Pairwise (le · ·) := by
  induction as with
  | nil => exact .nil
  | cons a as ih => exact insert_pairwise trans total a ih

theorem sort_eq_of_perm (trans : ∀ a b c, le a b → le b c → le a c) (total : ∀ a b, le a b ∨ le b a)
    (antisymm : ∀ a b, le a b → le b a → a = b) {as bs : List α} (h : as.Perm bs) : sort le as = sort le bs :=
  List.Perm.eq_of_pairwise (fun a b _ _ => antisymm a b) (sort_pairwise trans total as) (sort_pairwise trans total bs)
    ((sort_perm le as).trans (h.trans (sort_perm le bs).symm))

example : sort (fun a b => a.1 ≤ b.1) [(2, 'a'), (1, 'b'), (2, 'c'), (1, 'd')] = [(1, 'b'), (1, 'd'), (2, 'a'), (2, 'c')] := by
  decide

end SenderPolicy.Sequence
