/-
  SenderPolicy.Address.Cover — few blocks that cover the same addresses.

  Single addresses lose their scope ids, and each run of consecutive ones gives the blocks that make it
  up. To these and to the given blocks the rule of halves is applied, the last one first: two different
  blocks with the same parent become their parent, which has no scope id. In the end the blocks are put
  in order, and one that ends no later than the block before it is left out.
  Without scope ids the result is the shortest list there is. A scope id is part of the identity of a
  block: under two scope ids the same block counts as two halves, and of two blocks that begin alike under
  different scope ids neither precedes the other, so that the steps of the sorting decide what is left out.
  - `join_parents`: no two blocks that were joined have the same parent.
  - `interval_covers`: the blocks of a run hold its addresses and no others.
-/

import SenderPolicy.Address.Basic
import SenderPolicy.Sequence.Arrange
import SenderPolicy.Sequence.Sort

namespace SenderPolicy

namespace Network

/-- The block that a block is one half of; the block of all addresses has none above it. -/
def parent (n : Network) : Network :=
  if n.length = 0 then n
  else (Address.mk n.family n.base none n.base_lt).cut (n.length - 1) (Nat.le_trans (Nat.sub_le _ _) n.length_le)

/-- The order of blocks by first address and then by length; unlike scope ids leave it open. -/
def precedes (m n : Network) : Bool :=
  if m.base ≠ n.base then m.base < n.base else m.scope == n.scope && m.length < n.length

end Network

namespace Cover

/-! ## Runs of single addresses -/

/-- The first and the last number of each run in an ascending list. -/
def runs : List Nat → List (Nat × Nat)
  | [] => []
  | n :: ns =>
    match runs ns with
    | [] => [(n, n)]
    | (first, last) :: rest => if first = n + 1 then (n, last) :: rest else (n, n) :: (first, last) :: rest

/-- The block of `span bits` addresses that holds `base`. -/
def block (family : Family) (bits base : Nat) : Network :=
  (Address.ofNat family base none).cut (family.width - bits) (Nat.sub_le _ _)

/-- The largest blocks of addresses from `first` to `last` among the `span bits` addresses from `base` on. -/
def interval (family : Family) (first last : Nat) : (bits base : Nat) → List Network
  | 0, base => if first ≤ base ∧ base ≤ last then [block family 0 base] else []
  | bits + 1, base =>
    if first ≤ base ∧ base + span (bits + 1) ≤ last + 1 then [block family (bits + 1) base]
    else if last < base ∨ base + span (bits + 1) ≤ first then []
    else interval family first last bits base ++ interval family first last bits (base + span bits)

/-- The blocks of the runs of single addresses. -/
def hostBlocks (family : Family) (hosts : List Network) : List Network :=
  (runs (Sequence.sort (· ≤ ·) (hosts.eraseDups.map Network.base))).flatMap fun (first, last) =>
    interval family first last family.width 0

/-! ## Halves -/

/-- Joins a block of this length to blocks no two of which have the same parent. -/
def joinAt : (length : Nat) → Network → List Network → List Network
  | length, n, kept =>
    match kept.find? (·.parent == n.parent) with
    | none => kept ++ [n]
    | some m =>
      if m = n then kept
      else match length with
        | 0 => kept.erase m ++ [n.parent]
        | length + 1 => joinAt length n.parent (kept.erase m)

def join (n : Network) (kept : List Network) : List Network := joinAt n.length n kept

/-- The blocks by first address. Without scope ids any two can be compared. -/
def inOrder (ns : List Network) : List Network :=
  if ns.all (·.scope.isNone) then Sequence.sort Network.le ns else Sequence.arrange Network.precedes ns

theorem inOrder_perm (ns : List Network) : (inOrder ns).Perm ns := by
  unfold inOrder
  split
  · exact Sequence.sort_perm _ ns
  · exact Sequence.arrange_perm _ ns

/-- Leaves out what ends no later than the block before it. -/
def outermost : List Network → List Network
  | [] => []
  | n :: ns => n :: go n ns
where
  go (last : Network) : List Network → List Network
    | [] => []
    | n :: ns => if n.last ≤ last.last then go last ns else n :: go n ns

/-- Blocks of one family that cover the same addresses as the networks of that family. -/
def blocksOf (family : Family) (ns : List Network) : List Network :=
  let ns := ns.filter (·.family == family)
  let given := hostBlocks family (ns.filter Network.isHost) ++ ns.filter (!·.isHost)
  outermost (inOrder (given.foldr join []))

/-- Few blocks that cover the same addresses, IPv4 first, in ascending order. -/
def cover (ns : List Network) : List Network := Sequence.sort Network.le (blocksOf .v4 ns ++ blocksOf .v6 ns)

/-! ## Laws -/

theorem block_spec {family : Family} {bits base : Nat} (hb : bits ≤ family.width) (ha : span bits ∣ base)
    (hl : base < span family.width) :
    (block family bits base).family = family ∧ (block family bits base).base = base ∧
      (block family bits base).last = base + (span bits - 1) := by
  have hw : family.width - (family.width - bits) = bits := by omega
  have hbase : (block family bits base).base = base := by
    show base % span family.width / span (family.width - (family.width - bits)) * span (family.width - (family.width - bits)) = base
    rw [hw, Nat.mod_eq_of_lt hl]
    exact Nat.div_mul_cancel ha
  refine ⟨rfl, hbase, ?_⟩
  show (block family bits base).base + (span (family.width - (family.width - bits)) - 1) = _
  rw [hbase, hw]

/-- The blocks of an interval hold the addresses of the interval and no others. -/
theorem interval_covers {family : Family} {first last bits : Nat} (base : Nat) (hb : bits ≤ family.width)
    (ha : span bits ∣ base) (hl : base + span bits ≤ span family.width) (v : Nat) :
    (∃ n ∈ interval family first last bits base, n.Covers family v)
      ↔ (first ≤ v ∧ v ≤ last) ∧ base ≤ v ∧ v < base + span bits := by
  induction bits generalizing base with
  | zero =>
    obtain ⟨h1, h2, h3⟩ := block_spec hb ha (by have := span_pos 0; omega)
    have hs : span 0 = 1 := rfl
    unfold interval
    split
    · simp only [List.mem_singleton, exists_eq_left, Network.Covers, h1, h2, h3, hs, true_and]
      omega
    · simp only [List.not_mem_nil, false_and, exists_false, false_iff, hs]
      omega
  | succ bits ih =>
    have hs := span_succ bits
    have hp := span_pos bits
    obtain ⟨h1, h2, h3⟩ := block_spec hb ha (by omega)
    unfold interval
    split
    · simp only [List.mem_singleton, exists_eq_left, Network.Covers, h1, h2, h3, true_and]
      omega
    · split
      · simp only [List.not_mem_nil, false_and, exists_false, false_iff]
        omega
      · have halow : span bits ∣ base := Nat.dvd_trans ⟨2, by rw [hs, Nat.mul_comm]⟩ ha
        have low := ih base (by omega) halow (by omega)
        have high := ih (base + span bits) (by omega) (Nat.dvd_add halow (Nat.dvd_refl _)) (by omega)
        simp only [List.mem_append, or_and_right, exists_or, low, high]
        omega

theorem parent_length {n : Network} (h : n.length ≠ 0) : n.parent.length = n.length - 1 := by
  simp [Network.parent, h, Address.cut]

theorem parent_of_length {n : Network} (h : n.length = 0) : n.parent = n := by simp [Network.parent, h]

theorem find?_parent_none {n : Network} {kept : List Network} (h : kept.find? (·.parent == n.parent) = none) :
    n.parent ∉ kept.map Network.parent := by
  intro hm
  obtain ⟨k, hk, he⟩ := List.mem_map.1 hm
  exact List.find?_eq_none.1 h k hk (beq_iff_eq.2 he)

theorem map_parent_erase {m : Network} {kept : List Network} (h : (kept.map Network.parent).Nodup) (hm : m ∈ kept) :
    ((kept.erase m).map Network.parent).Nodup ∧ m.parent ∉ (kept.erase m).map Network.parent := by
  obtain ⟨before, behind, -, rfl, he⟩ := List.exists_erase_eq hm
  rw [he]
  simp only [List.map_append, List.map_cons] at h ⊢
  have hp := List.nodup_cons.1 ((List.perm_middle.nodup_iff).1 h)
  exact ⟨hp.2, hp.1⟩

theorem nodup_push {ns : List Network} {n : Network} (h : (ns.map Network.parent).Nodup)
    (hn : n.parent ∉ ns.map Network.parent) : ((ns ++ [n]).map Network.parent).Nodup := by
  rw [List.map_append]
  refine List.nodup_append.2 ⟨h, by simp, fun p hp q hq he => hn ?_⟩
  rw [List.map_singleton, List.mem_singleton] at hq
  rwa [← hq, ← he]

theorem joinAt_parents {length : Nat} {n : Network} {kept : List Network} (hn : n.length = length)
    (h : (kept.map Network.parent).Nodup) : ((joinAt length n kept).map Network.parent).Nodup := by
  induction length generalizing n kept with
  | zero =>
    unfold joinAt
    split
    · rename_i hf
      exact nodup_push h (find?_parent_none hf)
    · rename_i m hf
      split
      · exact h
      · obtain ⟨hk, hm⟩ := map_parent_erase h (List.mem_of_find?_eq_some hf)
        have hp : m.parent = n.parent := beq_iff_eq.1 (List.find?_some (p := fun k : Network => k.parent == n.parent) hf)
        rw [hp, parent_of_length hn] at hm
        exact nodup_push hk (by rwa [parent_of_length hn, parent_of_length hn])
  | succ length ih =>
    unfold joinAt
    split
    · rename_i hf
      exact nodup_push h (find?_parent_none hf)
    · rename_i m hf
      split
      · exact h
      · exact ih (by rw [parent_length (by omega)]; omega) (map_parent_erase h (List.mem_of_find?_eq_some hf)).1

/-- No two blocks that were joined have the same parent. -/
theorem join_parents {n : Network} {kept : List Network} (h : (kept.map Network.parent).Nodup) :
    ((join n kept).map Network.parent).Nodup := joinAt_parents rfl h

end Cover

end SenderPolicy
