/-
  SenderPolicy.Proofs.Address.Consolidation — consolidation is exact and leaves the fewest blocks.

  Of networks without scope ids, each step keeps what is covered: the runs of the single addresses, the joining
  of halves, and leaving out what lies within another block. Joining leaves no two halves of one block, and
  what is left out leaves no two blocks that overlap. So the result is in lowest terms.
  - `covered_hostBlocks`, `covered_join`, `covered_outermost`: what each step covers.
  - `lowest_cover`, `covered_cover`: the cover of networks is in lowest terms and covers the same addresses.
  - `consolidation_exact`: what this means for the texts that are consolidated.
-/

import SenderPolicy.Address.Lists
import SenderPolicy.Proofs.Address.Blocks
import SenderPolicy.Proofs.Address.ReadBack

namespace SenderPolicy

namespace Network

variable {ns ms : List Network} {family : Family} {value : Nat}

/-! ## What lists cover -/

theorem covered_append : Covered (ns ++ ms) family value ↔ Covered ns family value ∨ Covered ms family value := by
  simp only [Covered, List.mem_append, or_and_right, exists_or]

theorem covered_cons {n : Network} : Covered (n :: ns) family value ↔ n.Covers family value ∨ Covered ns family value := by
  simp [Covered]

theorem covered_nil : ¬ Covered [] family value := by simp [Covered]

theorem covered_perm (h : ns.Perm ms) : Covered ns family value ↔ Covered ms family value := by
  simp only [Covered, h.mem_iff]

theorem covered_erase {n : Network} (h : n ∈ ns) : Covered ns family value ↔ n.Covers family value ∨ Covered (ns.erase n) family value :=
  (covered_perm (List.perm_cons_erase h)).trans covered_cons

/-- Blocks of one family, without scope ids. -/
def Uniform (family : Family) (ns : List Network) : Prop := ∀ n ∈ ns, n.family = family ∧ n.scope = none

end Network

namespace Cover

open Network (Covered Uniform)

variable {family f : Family} {v : Nat} {ns kept hosts : List Network}

/-! ## Runs -/

theorem runs_le (ns : List Nat) : ∀ r ∈ runs ns, r.1 ≤ r.2 := by
  induction ns with
  | nil => simp [runs]
  | cons n ns ih =>
    unfold runs
    split
    · simp
    · rename_i first last rest hrest
      rw [hrest] at ih
      obtain ⟨hle, hothers⟩ := List.forall_mem_cons.mp ih
      change first ≤ last at hle
      split
      · exact List.forall_mem_cons.mpr ⟨show n ≤ last by omega, hothers⟩
      · exact List.forall_mem_cons.mpr ⟨le_rfl, ih⟩

/-- The runs of a list hold its numbers and no others. -/
theorem runs_cover (ns : List Nat) : (∃ r ∈ runs ns, r.1 ≤ v ∧ v ≤ r.2) ↔ v ∈ ns := by
  induction ns with
  | nil => simp [runs]
  | cons n ns ih =>
    have hle := runs_le ns
    rw [List.mem_cons, ← ih, runs]
    generalize runs ns = rs at hle
    cases rs with
    | nil =>
      rw [List.exists_mem_cons_iff]
      exact or_congr (show n ≤ v ∧ v ≤ n ↔ v = n by omega) Iff.rfl
    | cons r rest =>
      obtain ⟨first, last⟩ := r
      have hrun : first ≤ last := hle (first, last) List.mem_cons_self
      dsimp only
      split
      · rw [List.exists_mem_cons_iff, List.exists_mem_cons_iff, ← or_assoc]
        exact or_congr (show n ≤ v ∧ v ≤ last ↔ v = n ∨ first ≤ v ∧ v ≤ last by omega) Iff.rfl
      · rw [List.exists_mem_cons_iff]
        exact or_congr (show n ≤ v ∧ v ≤ n ↔ v = n by omega) Iff.rfl

theorem interval_uniform (first last bits base : Nat) : Uniform family (interval family first last bits base) := by
  have hblock : ∀ bits base, (block family bits base).family = family ∧ (block family bits base).scope = none := by
    intro bits base
    refine ⟨rfl, ?_⟩
    show (if _ then none else none) = none
    split <;> rfl
  induction bits generalizing base with
  | zero =>
    unfold interval
    split
    · simpa [Uniform] using hblock 0 base
    · simp [Uniform]
  | succ bits ih =>
    unfold interval
    split
    · simpa [Uniform] using hblock (bits + 1) base
    · split
      · simp [Uniform]
      · exact List.forall_mem_append.mpr ⟨ih base, ih _⟩

theorem hostBlocks_uniform : Uniform family (hostBlocks family hosts) := by
  intro n hn
  obtain ⟨r, _, hn⟩ := List.mem_flatMap.mp hn
  exact interval_uniform _ _ _ _ n hn

theorem covers_host {n : Network} (h : n.isHost = true) : n.Covers f v ↔ n.family = f ∧ n.base = v := by
  have hlength : n.length = n.family.width := beq_iff_eq.mp h
  have hlast : n.last = n.base := by
    unfold Network.last Network.size
    rw [hlength, Nat.sub_self]
    rfl
  unfold Network.Covers
  rw [hlast]
  exact and_congr Iff.rfl (by omega)

/-- The blocks of the single addresses hold these and no others. -/
theorem covered_hostBlocks (huniform : Uniform family hosts) (hhosts : ∀ n ∈ hosts, n.isHost = true) :
    Covered (hostBlocks family hosts) f v ↔ Covered hosts f v := by
  have hbases : v ∈ Sequence.sort (· ≤ ·) (hosts.eraseDups.map Network.base) ↔ ∃ n ∈ hosts, n.base = v := by
    simp only [Sequence.mem_sort, List.mem_map, List.mem_eraseDups]
  have hinterval : ∀ first last, Covered (interval family first last family.width 0) family v ↔ (first ≤ v ∧ v ≤ last) ∧ v < span family.width := by
    intro first last
    have hcovers := @interval_covers family first last family.width 0 le_rfl (Nat.dvd_zero _) (Nat.zero_add _).le v
    rw [Nat.zero_add] at hcovers
    exact hcovers.trans (and_congr Iff.rfl (and_iff_right (Nat.zero_le v)))
  constructor
  · rintro ⟨n, hn, hcovers⟩
    obtain rfl : family = f := ((hostBlocks_uniform n hn).1.symm.trans hcovers.1)
    obtain ⟨r, hr, hn⟩ := List.mem_flatMap.mp hn
    have hrange := ((hinterval r.1 r.2).mp ⟨n, hn, hcovers⟩).1
    obtain ⟨host, hhost, hbase⟩ := hbases.mp ((runs_cover _).mp ⟨r, hr, hrange⟩)
    exact ⟨host, hhost, (covers_host (hhosts host hhost)).mpr ⟨(huniform host hhost).1, hbase⟩⟩
  · rintro ⟨host, hhost, hcovers⟩
    obtain ⟨hf, hbase⟩ := (covers_host (hhosts host hhost)).mp hcovers
    obtain rfl : family = f := (huniform host hhost).1.symm.trans hf
    have hlt : v < span family.width := by
      rw [← hbase, ← hf]
      exact host.base_lt
    obtain ⟨r, hr, hrange⟩ := (runs_cover _).mpr (hbases.mpr ⟨host, hhost, hbase⟩)
    obtain ⟨n, hn, hcovers⟩ := (hinterval r.1 r.2).mpr ⟨hrange, hlt⟩
    exact ⟨n, List.mem_flatMap.mpr ⟨r, hr, hn⟩, hcovers⟩

/-! ## Halves -/

/-- What joining a block comes to: it is added, it is there already, or another half leaves with it for the parent. -/
theorem joinAt_step (length : Nat) (n : Network) (kept : List Network) :
    joinAt length n kept = kept ++ [n] ∨ (n ∈ kept ∧ joinAt length n kept = kept) ∨
      ∃ m ∈ kept, m ≠ n ∧ m.parent = n.parent ∧
        (joinAt length n kept = kept.erase m ++ [n.parent] ∨
          ∃ below < length, joinAt length n kept = joinAt below n.parent (kept.erase m)) := by
  rw [joinAt.eq_def length n kept]
  dsimp only
  cases hfound : kept.find? (·.parent == n.parent) with
  | none => exact .inl rfl
  | some m =>
    have hmem := List.mem_of_find?_eq_some hfound
    have hparent : m.parent = n.parent := beq_iff_eq.mp (List.find?_some (p := fun k : Network => k.parent == n.parent) hfound)
    by_cases hne : m = n
    · exact .inr (.inl ⟨hne ▸ hmem, if_pos hne⟩)
    · refine .inr (.inr ⟨m, hmem, hne, hparent, ?_⟩)
      cases length with
      | zero => exact .inl (if_neg hne)
      | succ length => exact .inr ⟨length, Nat.lt_succ_self length, if_neg hne⟩

/-- Joining adds nothing but the block and blocks above it. -/
theorem forall_joinAt {P : Network → Prop} (hparent : ∀ n, P n → P n.parent) {length : Nat} {n : Network} (hn : P n)
    (hkept : ∀ k ∈ kept, P k) : ∀ k ∈ joinAt length n kept, P k := by
  induction length using Nat.strong_induction_on generalizing n kept with
  | _ length ih =>
    rcases joinAt_step length n kept with h | ⟨-, h⟩ | ⟨m, -, -, -, h⟩
    · rw [h]
      exact List.forall_mem_append.mpr ⟨hkept, by simpa using hn⟩
    · rw [h]
      exact hkept
    · have herase : ∀ k ∈ kept.erase m, P k := fun k hk => hkept k (List.mem_of_mem_erase hk)
      rcases h with h | ⟨below, hlt, h⟩
      · rw [h]
        exact List.forall_mem_append.mpr ⟨herase, by simpa using hparent n hn⟩
      · rw [h]
        exact ih below hlt (hparent n hn) herase

/-- Joining a block adds its addresses and no others. -/
theorem covered_joinAt {length : Nat} {n : Network} (hn : n.scope = none) (hkept : ∀ k ∈ kept, k.scope = none) :
    Covered (joinAt length n kept) f v ↔ n.Covers f v ∨ Covered kept f v := by
  have hlast : ∀ {ns : List Network} {n : Network}, Covered (ns ++ [n]) f v ↔ n.Covers f v ∨ Covered ns f v := by
    intro ns n
    rw [Network.covered_append, Network.covered_cons, or_iff_left Network.covered_nil, or_comm]
  induction length using Nat.strong_induction_on generalizing n kept with
  | _ length ih =>
    rcases joinAt_step length n kept with h | ⟨hmem, h⟩ | ⟨m, hmem, hne, hparent, h⟩
    · rw [h, hlast]
    · rw [h]
      exact (or_iff_right_of_imp fun hcovers => ⟨n, hmem, hcovers⟩).symm
    · have hhalves : n.parent.Covers f v ∨ Covered (kept.erase m) f v ↔ n.Covers f v ∨ Covered kept f v := by
        rw [Network.halves hne (hkept m hmem) hn hparent, Network.covered_erase hmem, or_assoc, or_left_comm]
      rcases h with h | ⟨below, hlt, h⟩
      · rw [h, hlast, hhalves]
      · have herase : ∀ k ∈ kept.erase m, k.scope = none := fun k hk => hkept k (List.mem_of_mem_erase hk)
        have hbelow : Covered (joinAt below n.parent (kept.erase m)) f v ↔ n.parent.Covers f v ∨ Covered (kept.erase m) f v :=
          ih below hlt (Network.parent_scope hn) herase
        rw [h, hbelow, hhalves]

/-- The blocks left when all of a list are joined. -/
theorem joined (huniform : Uniform family ns) :
    Uniform family (ns.foldr join []) ∧ ((ns.foldr join []).map Network.parent).Nodup ∧
      (Covered (ns.foldr join []) f v ↔ Covered ns f v) := by
  induction ns with
  | nil => exact ⟨by simp [Uniform], by simp, Iff.rfl⟩
  | cons n ns ih =>
    obtain ⟨hn, hns⟩ := List.forall_mem_cons.mp huniform
    obtain ⟨hkept, hparents, hcovered⟩ := ih hns
    rw [List.foldr_cons]
    refine ⟨?_, join_parents hparents, ?_⟩
    · exact forall_joinAt (P := fun n => n.family = family ∧ n.scope = none)
        (fun n hn => ⟨n.parent_family.trans hn.1, Network.parent_scope hn.2⟩) hn hkept
    · rw [join, covered_joinAt hn.2 fun k hk => (hkept k hk).2, hcovered, Network.covered_cons]

/-! ## Outermost blocks -/

theorem outermost_go_sublist (last : Network) (ns : List Network) : (outermost.go last ns).Sublist ns := by
  induction ns generalizing last with
  | nil => exact .slnil
  | cons n ns ih =>
    unfold outermost.go
    split
    · exact (ih last).cons n
    · exact (ih n).cons_cons n

theorem outermost_sublist (ns : List Network) : (outermost ns).Sublist ns := by
  cases ns with
  | nil => exact .slnil
  | cons n ns => exact (outermost_go_sublist n ns).cons_cons n

/-- In an ordered list of one family, a block that ends no later than one before it lies within that, and
otherwise they are apart. -/
theorem within_or_behind {m n : Network} (hfamily : m.family = n.family) (hle : m.le n = true) :
    (n.last ≤ m.last → n.Within m) ∧ (¬ n.last ≤ m.last → m.last < n.base) := by
  rw [Network.le_iff] at hle
  have hversion := congrArg Family.version hfamily
  refine ⟨fun hlast => ⟨hfamily.symm, by omega, hlast⟩, fun hlast => ?_⟩
  by_contra hoverlap
  have hbase := n.base_le_last
  have hbase' := m.base_le_last
  by_cases hlength : m.length ≤ n.length
  · rcases Network.within_or_apart hfamily.symm hlength with hwithin | hapart
    · exact hlast hwithin.last
    · omega
  · rcases Network.within_or_apart hfamily (Nat.le_of_not_le hlength) with hwithin | hapart
    · have hsame := hwithin.base
      omega
    · omega

theorem outermost_go {last : Network} (hfamily : ∀ n ∈ last :: ns, n.family = family)
    (hsorted : (last :: ns).Pairwise (fun m n => m.le n = true)) :
    (last :: outermost.go last ns).Pairwise (fun m n => m.last < n.base) ∧
      (Covered (last :: outermost.go last ns) f v ↔ Covered (last :: ns) f v) := by
  induction ns generalizing last with
  | nil => exact ⟨by simp [outermost.go], Iff.rfl⟩
  | cons n ns ih =>
    obtain ⟨hlast, hsorted'⟩ := List.pairwise_cons.mp hsorted
    obtain ⟨hlastfamily, hfamily'⟩ := List.forall_mem_cons.mp hfamily
    obtain ⟨hwithin, hbehind⟩ := within_or_behind (hlastfamily.trans (hfamily' n List.mem_cons_self).symm) (hlast n List.mem_cons_self)
    unfold outermost.go
    split
    · rename_i hend
      obtain ⟨hapart, hcovered⟩ := ih (List.forall_mem_cons.mpr ⟨hlastfamily, fun k hk => hfamily' k (List.mem_cons_of_mem _ hk)⟩)
        (hsorted.sublist (List.Sublist.cons_cons _ (List.sublist_cons_self n ns)))
      refine ⟨hapart, hcovered.trans ?_⟩
      rw [Network.covered_cons, Network.covered_cons, Network.covered_cons, ← or_assoc]
      exact or_congr (or_iff_left_of_imp (hwithin hend).covers).symm Iff.rfl
    · rename_i hend
      obtain ⟨hapart, hcovered⟩ := ih hfamily' hsorted'
      refine ⟨List.pairwise_cons.mpr ⟨fun k hk => ?_, hapart⟩, ?_⟩
      · have hnext := hbehind hend
        rcases List.mem_cons.mp hk with rfl | hk
        · exact hnext
        · have hafter := (List.pairwise_cons.mp hapart).1 k hk
          have hbase := n.base_le_last
          omega
      · rw [Network.covered_cons, hcovered, ← Network.covered_cons]

/-- Leaving out what lies within other blocks leaves blocks that are apart and cover the same. -/
theorem outermost_apart (hfamily : ∀ n ∈ ns, n.family = family) (hsorted : ns.Pairwise (fun m n => m.le n = true)) :
    (outermost ns).Pairwise (fun m n => m.last < n.base) ∧ (Covered (outermost ns) f v ↔ Covered ns f v) := by
  cases ns with
  | nil => exact ⟨by simp [outermost], Iff.rfl⟩
  | cons n ns => exact outermost_go hfamily hsorted

/-! ## Covers -/

theorem inOrder_sorted (huniform : Uniform family ns) : (inOrder ns).Pairwise (fun m n => m.le n = true) := by
  have hall : ns.all (·.scope.isNone) = true := List.all_eq_true.mpr fun n hn => by rw [(huniform n hn).2]; rfl
  rw [inOrder, if_pos hall]
  exact Sequence.sort_pairwise Network.le_trans Network.le_total ns

/-- The blocks of one family are in lowest terms and cover what the networks of the family cover. -/
theorem blocksOf_spec (family f : Family) (v : Nat) (hscope : ∀ n ∈ ns, n.scope = none) :
    Uniform family (blocksOf family ns) ∧ (blocksOf family ns).Pairwise (fun m n => m.last < n.base) ∧
      ((blocksOf family ns).map Network.parent).Nodup ∧
      (Covered (blocksOf family ns) f v ↔ family = f ∧ Covered ns f v) := by
  have hofFamily : Uniform family (ns.filter (·.family == family)) := by
    intro n hn
    obtain ⟨hmem, hf⟩ := List.mem_filter.mp hn
    exact ⟨beq_iff_eq.mp hf, hscope n hmem⟩
  have hcoveredFamily : Covered (ns.filter (·.family == family)) f v ↔ family = f ∧ Covered ns f v := by
    constructor
    · rintro ⟨n, hn, hcovers⟩
      obtain ⟨hmem, hf⟩ := List.mem_filter.mp hn
      exact ⟨(beq_iff_eq.mp hf).symm.trans hcovers.1, n, hmem, hcovers⟩
    · rintro ⟨rfl, n, hn, hcovers⟩
      exact ⟨n, List.mem_filter.mpr ⟨hn, beq_iff_eq.mpr hcovers.1⟩, hcovers⟩
  unfold blocksOf
  dsimp only
  generalize ns.filter (·.family == family) = ms at hofFamily hcoveredFamily
  rw [← hcoveredFamily]
  have hhosts : Uniform family (ms.filter Network.isHost) := fun n hn => hofFamily n (List.mem_filter.mp hn).1
  have hgiven : Uniform family (hostBlocks family (ms.filter Network.isHost) ++ ms.filter (!·.isHost)) :=
    List.forall_mem_append.mpr ⟨hostBlocks_uniform, fun n hn => hofFamily n (List.mem_filter.mp hn).1⟩
  have hgivenCovered : Covered (hostBlocks family (ms.filter Network.isHost) ++ ms.filter (!·.isHost)) f v ↔ Covered ms f v := by
    rw [Network.covered_append, covered_hostBlocks hhosts fun n hn => (List.mem_filter.mp hn).2, ← Network.covered_append]
    exact Network.covered_perm (List.filter_append_perm Network.isHost ms)
  generalize hostBlocks family (ms.filter Network.isHost) ++ ms.filter (!·.isHost) = given at hgiven hgivenCovered
  obtain ⟨hkept, hparents, hcovered⟩ := joined (f := f) (v := v) hgiven
  generalize given.foldr join [] = kept at hkept hparents hcovered
  have hordered : Uniform family (inOrder kept) := fun n hn => hkept n ((inOrder_perm kept).mem_iff.mp hn)
  obtain ⟨hapart, hcoveredOutermost⟩ := outermost_apart (f := f) (v := v) (fun n hn => (hordered n hn).1) (inOrder_sorted hkept)
  have hsublist := outermost_sublist (inOrder kept)
  refine ⟨fun n hn => hordered n (hsublist.subset hn), hapart, ?_, ?_⟩
  · exact (((inOrder_perm kept).map Network.parent).nodup_iff.mpr hparents).sublist (hsublist.map _)
  · rw [hcoveredOutermost, Network.covered_perm (inOrder_perm kept), hcovered, hgivenCovered]

theorem covered_cover (hscope : ∀ n ∈ ns, n.scope = none) : Covered (cover ns) f v ↔ Covered ns f v := by
  obtain ⟨-, -, -, h4⟩ := blocksOf_spec .v4 f v hscope
  obtain ⟨-, -, -, h6⟩ := blocksOf_spec .v6 f v hscope
  rw [cover, Network.covered_perm (Sequence.sort_perm _ _), Network.covered_append, h4, h6]
  cases f <;> simp

/-- The cover of networks without scope ids is in lowest terms. -/
theorem lowest_cover (hscope : ∀ n ∈ ns, n.scope = none) : Network.Lowest (cover ns) := by
  obtain ⟨h4, hapart4, hparents4, -⟩ := blocksOf_spec .v4 .v4 0 hscope
  obtain ⟨h6, hapart6, hparents6, -⟩ := blocksOf_spec .v6 .v6 0 hscope
  have hperm := Sequence.sort_perm Network.le (blocksOf .v4 ns ++ blocksOf .v6 ns)
  have hbehind : ∀ {m n : Network}, m.last < n.base → m.overlaps n = false := by
    intro m n hlt
    rw [Bool.eq_false_iff, ne_eq, Network.overlaps_iff]
    omega
  have hsymm : ∀ {m n : Network}, m.overlaps n = false → n.overlaps m = false := by
    intro m n h
    rw [Bool.eq_false_iff, ne_eq, Network.overlaps_iff] at *
    exact fun ⟨hf, hl, hr⟩ => h ⟨hf.symm, hr, hl⟩
  refine ⟨fun n hn => ?_, ?_, ?_, Sequence.sort_pairwise Network.le_trans Network.le_total _⟩
  · rcases List.mem_append.mp (hperm.mem_iff.mp hn) with hn | hn
    · exact (h4 n hn).2
    · exact (h6 n hn).2
  · refine (hperm.pairwise_iff hsymm).mpr (List.pairwise_append.mpr ⟨hapart4.imp hbehind, hapart6.imp hbehind, fun m hm n hn => ?_⟩)
    rw [Bool.eq_false_iff, ne_eq, Network.overlaps_iff, (h4 m hm).1, (h6 n hn).1]
    exact fun h => nomatch h.1
  · refine (hperm.map Network.parent).nodup_iff.mpr ?_
    rw [List.map_append]
    refine List.nodup_append.mpr ⟨hparents4, hparents6, fun p hp q hq heq => ?_⟩
    obtain ⟨m, hm, rfl⟩ := List.mem_map.mp hp
    obtain ⟨n, hn, rfl⟩ := List.mem_map.mp hq
    have hfamily := congrArg Network.family heq
    rw [Network.parent_family, Network.parent_family, (h4 m hm).1, (h6 n hn).1] at hfamily
    cases hfamily

/-- The cover depends on the addresses that are covered only. -/
theorem cover_congr {ms : List Network} (hscope : ∀ n ∈ ns, n.scope = none) (hscope' : ∀ n ∈ ms, n.scope = none)
    (hsame : ∀ f v, Covered ms f v ↔ Covered ns f v) : cover ms = cover ns := by
  refine (lowest_cover hscope).unique (lowest_cover hscope') fun f v => ?_
  rw [covered_cover hscope, covered_cover hscope', hsame]

end Cover

namespace Network

open Text (strip)

variable {texts : List String} {ns : List (String × Network)}

/-! ## Texts -/

theorem consolidate_eq (h : readAll (texts.map strip) = .ok ns) :
    consolidate texts = .ok ((Cover.cover (ns.map (·.2))).map normal) := by
  rw [consolidate, h]
  rfl

theorem strip_normal {n : Network} (h : n.scope = none) : strip n.normal = n.normal :=
  Text.strip_of_noBlank fun _ hc => (plain_normal h hc).1

theorem map_strip_normal {out : List Network} (h : ∀ n ∈ out, n.scope = none) : (out.map normal).map strip = out.map normal := by
  rw [List.map_map]
  exact List.map_congr_left fun n hn => strip_normal (h n hn)

theorem normalize_normal {n : Network} (h : n.scope = none) : normalize n.normal = .ok n.normal := by
  rw [normalize, strip_normal h, read_normal (spellable_of_unscoped h), Except.map]

theorem covered_map_snd {family : Family} {value : Nat} :
    Covered (ns.map (·.2)) family value ↔ ∃ e ∈ ns, e.2.Covers family value := by
  constructor
  · rintro ⟨n, hn, hcovers⟩
    obtain ⟨e, he, rfl⟩ := List.mem_map.mp hn
    exact ⟨e, he, hcovers⟩
  · rintro ⟨e, he, hcovers⟩
    exact ⟨e.2, List.mem_map_of_mem he, hcovers⟩

/-- The result depends on which texts there are only, not on their order or number. -/
theorem consolidate_congr (h : readAll (texts.map strip) = .ok ns) (hscope : ∀ e ∈ ns, e.2.scope = none)
    {texts' : List String} (hsame : ∀ t, t ∈ texts' ↔ t ∈ texts) : consolidate texts' = consolidate texts := by
  have hmem : ∀ {t}, t ∈ texts'.map strip ↔ t ∈ texts.map strip := by
    intro t
    simp only [List.mem_map, hsame]
  obtain ⟨ns', h'⟩ : ∃ ns', readAll (texts'.map strip) = .ok ns' := by
    refine exists_readAll fun t ht => ?_
    obtain ⟨htexts, hentries⟩ := readAll_iff.mp h
    rw [hmem, htexts] at ht
    obtain ⟨e, he, rfl⟩ := List.mem_map.mp ht
    exact ⟨e.2, hentries e he⟩
  have hentry : ∀ e, e ∈ ns' ↔ e ∈ ns := fun e => by rw [mem_readAll h', mem_readAll h, hmem]
  have hscope' : ∀ e ∈ ns', e.2.scope = none := fun e he => hscope e ((hentry e).mp he)
  rw [consolidate_eq h', consolidate_eq h]
  rw [Cover.cover_congr (List.forall_mem_map.mpr hscope) (List.forall_mem_map.mpr hscope') fun f v => ?_]
  rw [covered_map_snd, covered_map_snd]
  exact exists_congr fun e => and_congr_left fun _ => hentry e

/-- Blocks that are the cover of others are their own cover. -/
theorem consolidate_again {given : List Network} (hscope : ∀ n ∈ given, n.scope = none) :
    consolidate ((Cover.cover given).map normal) = .ok ((Cover.cover given).map normal) := by
  have hunscoped := (Cover.lowest_cover hscope).unscoped
  have hread : readAll (((Cover.cover given).map normal).map strip) = .ok ((Cover.cover given).map fun n => (n.normal, n)) := by
    rw [map_strip_normal hunscoped]
    exact readAll_normal fun n hn => spellable_of_unscoped (hunscoped n hn)
  have hsecond : ((Cover.cover given).map fun n => (n.normal, n)).map (·.2) = Cover.cover given := by
    rw [List.map_map]
    exact List.map_id _
  rw [consolidate_eq hread, hsecond, Cover.cover_congr hscope hunscoped fun f v => Cover.covered_cover hscope]

/-- Consolidating gives the fewest blocks for exactly the addresses that are given: in order, apart from each
other, in normal form, and the same for every list of the same texts and for the result itself. -/
theorem consolidation_exact (h : readAll (texts.map strip) = .ok ns) (hscope : ∀ e ∈ ns, e.2.scope = none) :
    ∃ out : List Network, consolidate texts = .ok (out.map normal) ∧
      (∀ family value, Covered out family value ↔ ∃ e ∈ ns, e.2.Covers family value) ∧
      out.Pairwise (fun m n => ∀ family value, ¬ (m.Covers family value ∧ n.Covers family value)) ∧
      (∀ blocks : List Network, (∀ family value, Covered blocks family value ↔ ∃ e ∈ ns, e.2.Covers family value) →
        out.length ≤ blocks.length) ∧
      out.Pairwise (fun m n => m.le n = true) ∧
      (∀ n ∈ out, read n.normal = .ok n ∧ normalize n.normal = .ok n.normal) ∧
      (∀ texts', (∀ t, t ∈ texts' ↔ t ∈ texts) → consolidate texts' = consolidate texts) ∧
      consolidate (out.map normal) = .ok (out.map normal) := by
  have hgiven : ∀ n ∈ ns.map (·.2), n.scope = none := List.forall_mem_map.mpr hscope
  have hlowest := Cover.lowest_cover hgiven
  have hcovered : ∀ family value, Covered (Cover.cover (ns.map (·.2))) family value ↔ ∃ e ∈ ns, e.2.Covers family value :=
    fun family value => (Cover.covered_cover hgiven).trans covered_map_snd
  have hagain := consolidate_again hgiven
  have hresult := consolidate_eq h
  generalize Cover.cover (ns.map (·.2)) = out at hlowest hcovered hagain hresult
  refine ⟨out, hresult, hcovered, ?_, fun blocks hblocks => ?_, hlowest.ordered, fun n hn => ?_,
    fun texts' hsame => consolidate_congr h hscope hsame, hagain⟩
  · refine hlowest.apart.imp fun {m n} hapart family value hboth => ?_
    exact absurd (overlaps_of_covers hboth.1 hboth.2) (Bool.eq_false_iff.mp hapart)
  · exact hlowest.length_le fun family value => (hblocks family value).trans (hcovered family value).symm
  · have hnone := hlowest.unscoped n hn
    exact ⟨read_normal (spellable_of_unscoped hnone), normalize_normal hnone⟩

/-- Two halves of a block with an address of one of them, and an IPv6 address. -/
theorem consolidation_exact_halves :
    ∃ out : List Network, consolidate ["192.0.2.128/25", "2001:db8::1", "192.0.2.5", "192.0.2.0/25 "] = .ok (out.map normal) ∧
      Covered out .v4 0xc0000205 ∧ ¬ Covered out .v4 0xc0000300 ∧ consolidate (out.map normal) = .ok (out.map normal) := by
  have hread : readAll (["192.0.2.128/25", "2001:db8::1", "192.0.2.5", "192.0.2.0/25 "].map strip) = .ok
      [("192.0.2.128/25", (Address.ofNat .v4 0xc0000280 none).cut 25 (by decide)),
        ("2001:db8::1", (Address.ofNat .v6 0x20010db8000000000000000000000001 none).host),
        ("192.0.2.5", (Address.ofNat .v4 0xc0000205 none).host),
        ("192.0.2.0/25", (Address.ofNat .v4 0xc0000200 none).cut 25 (by decide))] := by
    decide +kernel
  obtain ⟨out, hresult, hcovered, -, -, -, -, -, hagain⟩ := consolidation_exact hread (by decide +kernel)
  refine ⟨out, hresult, (hcovered _ _).mpr (by decide +kernel), fun h => ?_, hagain⟩
  exact absurd ((hcovered _ _).mp h) (by decide +kernel)

end Network

end SenderPolicy
