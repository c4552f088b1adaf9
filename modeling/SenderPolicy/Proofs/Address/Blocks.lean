/-
  SenderPolicy.Proofs.Address.Blocks — how blocks lie to each other, and lists of blocks in lowest terms.

  The first address of a block is a multiple of its size, and sizes are powers of two. So a block lies within a
  block that is no smaller or apart from it, and every block below the one of all addresses is one of the two
  halves of its parent. A list is in lowest terms if no two of its blocks overlap, no two are the halves of one
  block, and they stand in order.
  - `within_or_apart`: of two blocks the smaller one lies within the other or apart from it.
  - `halves`: different blocks with the same parent make up that parent.
  - `Lowest.holds`: what is covered by a list in lowest terms, block by block, lies within one of its blocks.
  - `Lowest.length_le`: no list of blocks for the same addresses is shorter.
  - `Lowest.unique`: no other list in lowest terms covers the same addresses.
-/

import Mathlib.Data.List.Nodup
import Mathlib.Data.List.Pairwise
import Mathlib.Data.List.Perm.Subperm
import Mathlib.Tactic.Ring
import SenderPolicy.Address.Cover

namespace SenderPolicy

/-- Different multiples lie at least one step apart. -/
theorem add_le_of_dvd {s a b : Nat} (ha : s ∣ a) (hb : s ∣ b) (h : a < b) : a + s ≤ b := by
  have hle := Nat.le_of_dvd (by omega) (Nat.dvd_sub hb ha)
  omega

theorem span_dvd {m n : Nat} (h : m ≤ n) : span m ∣ span n := Nat.pow_dvd_pow 2 h

theorem span_le {m n : Nat} (h : m ≤ n) : span m ≤ span n := Nat.le_of_dvd (span_pos n) (span_dvd h)

namespace Network

variable {m n k : Network}

/-- Whether one of the blocks holds the address. -/
def Covered (ns : List Network) (family : Family) (value : Nat) : Prop := ∃ n ∈ ns, n.Covers family value

/-- Whether all addresses of a block are in another. -/
structure Within (m n : Network) : Prop where
  family : m.family = n.family
  base : n.base ≤ m.base
  last : m.last ≤ n.last

theorem eq_of_block (hfamily : m.family = n.family) (hbase : m.base = n.base) (hlength : m.length = n.length)
    (hscope : m.scope = n.scope) : m = n := by
  cases m; cases n
  cases hfamily; cases hbase; cases hlength; cases hscope
  rfl

theorem base_le_last (n : Network) : n.base ≤ n.last := Nat.le_add_right _ _

theorem succ_last (n : Network) : n.last + 1 = n.base + n.size := by
  have hpos := n.size_pos
  unfold last
  omega

theorem covers_base (n : Network) : n.Covers n.family n.base := ⟨rfl, le_rfl, n.base_le_last⟩

theorem Within.refl (n : Network) : n.Within n := ⟨rfl, le_rfl, le_rfl⟩

theorem Within.trans (h : m.Within n) (h' : n.Within k) : m.Within k :=
  ⟨h.family.trans h'.family, h'.base.trans h.base, h.last.trans h'.last⟩

theorem Within.covers (h : m.Within n) {family : Family} {value : Nat} (hm : m.Covers family value) : n.Covers family value :=
  ⟨h.family ▸ hm.1, h.base.trans hm.2.1, hm.2.2.trans h.last⟩

/-! ## Smaller and larger blocks -/

theorem size_dvd (hfamily : m.family = n.family) (h : n.length ≤ m.length) : m.size ∣ n.size := by
  unfold size
  rw [hfamily]
  exact span_dvd (by omega)

/-- Of two blocks of a family, the smaller one lies within the other or apart from it. -/
theorem within_or_apart (hfamily : m.family = n.family) (h : n.length ≤ m.length) :
    m.Within n ∨ m.last < n.base ∨ n.last < m.base := by
  have hm := m.succ_last
  have hn := n.succ_last
  have hdvd := size_dvd hfamily h
  have hstart : m.size ∣ n.base := hdvd.trans n.aligned
  by_cases hbefore : m.base < n.base
  · have hgap := add_le_of_dvd m.aligned hstart hbefore
    change m.base + m.size ≤ n.base at hgap
    omega
  by_cases hbehind : n.last < m.base
  · exact .inr (.inr hbehind)
  · have hgap := add_le_of_dvd m.aligned (Nat.dvd_add hstart hdvd) (by omega)
    change m.base + m.size ≤ n.base + n.size at hgap
    exact .inl ⟨hfamily, by omega, by omega⟩

/-- Of two blocks with an address in common, the smaller one lies within the other. -/
theorem within_of_covers {family : Family} {value : Nat} (hm : m.Covers family value) (hn : n.Covers family value)
    (h : n.length ≤ m.length) : m.Within n := by
  rcases within_or_apart (hm.1.trans hn.1.symm) h with hwithin | hapart
  · exact hwithin
  · have hm' := hm.2
    have hn' := hn.2
    omega

theorem length_le_of_within (h : m.Within n) : n.length ≤ m.length := by
  have hsize : m.size ≤ n.size := by
    have hm := m.succ_last
    have hn := n.succ_last
    have hbase := h.base
    have hlast := h.last
    omega
  by_contra hlt
  have hle := m.length_le
  have hle' := n.length_le
  have hdouble : span (m.family.width - m.length) ≥ span (n.family.width - n.length + 1) := by
    have hwidth := congrArg Family.width h.family
    exact span_le (by omega)
  rw [span_succ] at hdouble
  have hpos := n.size_pos
  change 2 * n.size ≤ m.size at hdouble
  omega

theorem Within.base_eq (h : m.Within n) (hlength : m.length = n.length) : m.base = n.base := by
  have hm := m.succ_last
  have hn := n.succ_last
  have hsize : m.size = n.size := by
    unfold size
    rw [h.family, hlength]
  have hbase := h.base
  have hlast := h.last
  omega

/-- A block within one of the same length is the same block. -/
theorem Within.symm (h : m.Within n) (hlength : m.length = n.length) : n.Within m := by
  have hbase := h.base_eq hlength
  have hm := m.succ_last
  have hn := n.succ_last
  have hsize : m.size = n.size := by
    unfold size
    rw [h.family, hlength]
  exact ⟨h.family.symm, hbase.le, by omega⟩

theorem overlaps_iff : m.overlaps n = true ↔ m.family = n.family ∧ m.base ≤ n.last ∧ n.base ≤ m.last := by
  simp [overlaps, and_assoc]

theorem overlaps_of_covers {family : Family} {value : Nat} (hm : m.Covers family value) (hn : n.Covers family value) :
    m.overlaps n = true :=
  overlaps_iff.mpr ⟨hm.1.trans hn.1.symm, hm.2.1.trans hn.2.2, hn.2.1.trans hm.2.2⟩

/-! ## Parents -/

theorem parent_family (n : Network) : n.parent.family = n.family := by
  unfold parent
  split <;> rfl

theorem parent_scope (h : n.scope = none) : n.parent.scope = none := by
  unfold parent
  split
  · exact h
  · simp [Address.cut]

/-- A block with a parent above it is its lower or its upper half. -/
theorem parent_halves (h : n.length ≠ 0) :
    n.parent.size = 2 * n.size ∧ (n.base = n.parent.base ∨ n.base = n.parent.base + n.size) := by
  have hlength : n.family.width - (n.length - 1) = n.family.width - n.length + 1 := by
    have hle := n.length_le
    omega
  have hsize : n.parent.size = 2 * n.size := by
    unfold size
    rw [parent_family, Cover.parent_length h, hlength, span_succ]
  have hbase : n.parent.base = n.base / n.parent.size * n.parent.size := by
    have hcut : n.parent.size = span (n.family.width - (n.length - 1)) := by
      rw [size, parent_family, Cover.parent_length h]
    rw [hcut]
    simp only [parent, if_neg h, Address.cut_base]
  refine ⟨hsize, ?_⟩
  obtain ⟨q, hq⟩ := n.aligned
  change n.base = n.size * q at hq
  have hpos := n.size_pos
  have hmod := Nat.div_add_mod q 2
  have hhalf : n.base / n.parent.size = q / 2 := by
    rw [hq, hsize, Nat.mul_comm 2, Nat.mul_div_mul_left q 2 hpos]
  rw [hbase, hhalf, hsize]
  have hbit : q % 2 = 0 ∨ q % 2 = 1 := by omega
  have hsplit : n.base = q / 2 * (2 * n.size) + q % 2 * n.size := by
    calc n.base = n.size * (2 * (q / 2) + q % 2) := by rw [hmod, hq]
      _ = q / 2 * (2 * n.size) + q % 2 * n.size := by ring
  rcases hbit with hbit | hbit
  · left
    rw [hsplit, hbit]
    ring
  · right
    rw [hsplit, hbit]
    ring

theorem within_parent (n : Network) : n.Within n.parent := by
  by_cases h : n.length = 0
  · rw [Cover.parent_of_length h]
    exact .refl n
  · obtain ⟨hsize, hbase⟩ := parent_halves h
    have hn := n.succ_last
    have hp := n.parent.succ_last
    exact ⟨n.parent_family.symm, by omega, by omega⟩

/-- A block that lies within a larger one lies there with its parent. -/
theorem parent_within (h : m.Within n) (hlt : n.length < m.length) : m.parent.Within n := by
  refine within_of_covers (m.within_parent.covers m.covers_base) (h.covers m.covers_base) ?_
  rw [Cover.parent_length (by omega)]
  omega

/-- Halves of a block have the same parent. -/
theorem parent_eq (hm : m.Within k) (hn : n.Within k) (hlength : m.length = k.length + 1) (hlength' : n.length = k.length + 1)
    (hscope : m.scope = none) (hscope' : n.scope = none) : m.parent = n.parent := by
  have hparent : m.parent.length = k.length := by rw [Cover.parent_length (by omega), hlength, Nat.add_sub_cancel]
  have hparent' : n.parent.length = k.length := by rw [Cover.parent_length (by omega), hlength', Nat.add_sub_cancel]
  have hbase := (parent_within hm (by omega)).base_eq hparent
  have hbase' := (parent_within hn (by omega)).base_eq hparent'
  refine eq_of_block ?_ (hbase.trans hbase'.symm) (hparent.trans hparent'.symm) ?_
  · rw [parent_family, parent_family, hm.family, hn.family]
  · rw [parent_scope hscope, parent_scope hscope']

/-- A block of more than one address has a lower and an upper half. -/
theorem exists_halves (h : n.length < n.family.width) :
    ∃ low high : Network, low.Within n ∧ high.Within n ∧ low.length = n.length + 1 ∧ high.length = n.length + 1 ∧
      low.base = n.base ∧ high.last = n.last := by
  obtain ⟨bits, hbits⟩ : ∃ bits, n.family.width - n.length = bits + 1 := ⟨n.family.width - n.length - 1, by omega⟩
  have hsize : n.size = 2 * span bits := by rw [size, hbits, span_succ]
  have hlast := n.succ_last
  have hpos := span_pos bits
  have haligned : span bits ∣ n.base := Nat.dvd_trans ⟨2, hsize.trans (Nat.mul_comm _ _)⟩ n.aligned
  have hroom : n.base + n.size ≤ span n.family.width := add_le_of_dvd n.aligned (span_dvd (Nat.sub_le _ _)) n.base_lt
  have hhalf : ∀ {base}, span bits ∣ base → n.base ≤ base → base + span bits ≤ n.base + n.size →
      ∃ half : Network, half.Within n ∧ half.length = n.length + 1 ∧ half.base = base ∧ half.last = base + (span bits - 1) := by
    intro base hbase hfrom hto
    obtain ⟨hf, hb, hl⟩ := @Cover.block_spec n.family bits base (by omega) hbase (by omega)
    exact ⟨_, ⟨hf, by omega, by omega⟩, show n.family.width - bits = _ by omega, hb, hl⟩
  obtain ⟨low, hlow, hlength, hbase, -⟩ := hhalf haligned le_rfl (by omega)
  obtain ⟨high, hhigh, hlength', -, hend⟩ := hhalf (Nat.dvd_add haligned (Nat.dvd_refl _)) (Nat.le_add_right _ _) (by omega)
  exact ⟨low, high, hlow, hhigh, hlength, hlength', hbase, by omega⟩

/-- Two different blocks with the same parent make it up. -/
theorem halves (hne : m ≠ n) (hm : m.scope = none) (hn : n.scope = none) (hparent : m.parent = n.parent)
    {family : Family} {value : Nat} : n.parent.Covers family value ↔ m.Covers family value ∨ n.Covers family value := by
  constructor
  · intro h
    by_cases hzero : n.length = 0
    · rw [Cover.parent_of_length hzero] at h
      exact .inr h
    by_cases hzero' : m.length = 0
    · rw [← hparent, Cover.parent_of_length hzero'] at h
      exact .inl h
    obtain ⟨hsize, hbase⟩ := parent_halves hzero
    obtain ⟨hsize', hbase'⟩ := parent_halves hzero'
    have hfamily : m.family = n.family := by rw [← m.parent_family, hparent, n.parent_family]
    have hlength : m.length = n.length := by
      have hlengths := congrArg Network.length hparent
      rw [Cover.parent_length hzero, Cover.parent_length hzero'] at hlengths
      omega
    have hbases : m.base ≠ n.base := fun hbases => hne (eq_of_block hfamily hbases hlength (hm.trans hn.symm))
    rw [hparent] at hsize' hbase'
    have hlast := n.parent.succ_last
    have hlastm := m.succ_last
    have hlastn := n.succ_last
    obtain ⟨hin, hfrom, hto⟩ := h
    rw [parent_family] at hin
    by_cases hv : m.base ≤ value ∧ value ≤ m.last
    · exact .inl ⟨hfamily.trans hin, hv⟩
    · exact .inr ⟨hin, by omega, by omega⟩
  · rintro (h | h)
    · exact (hparent ▸ m.within_parent).covers h
    · exact n.within_parent.covers h

/-! ## Order -/

theorem le_iff : m.le n = true ↔ m.family.version < n.family.version ∨
    m.family.version = n.family.version ∧ (m.base < n.base ∨ m.base = n.base ∧ m.length ≤ n.length) := by
  unfold le
  by_cases hv : m.family.version = n.family.version
  · by_cases hb : m.base = n.base <;> simp [hv, hb]
  · simp [hv]

theorem le_trans (m n k : Network) (h : m.le n = true) (h' : n.le k = true) : m.le k = true := by
  rw [le_iff] at *
  omega

theorem le_total (m n : Network) : m.le n = true ∨ n.le m = true := by
  rw [le_iff, le_iff]
  omega

theorem family_eq_of_version (h : m.family.version = n.family.version) : m.family = n.family := by
  cases hm : m.family <;> cases hn : n.family <;> rw [hm, hn] at h <;> first | rfl | cases h

/-- Blocks that are equal in the order differ in their scope ids only. -/
theorem le_antisymm (hscope : m.scope = n.scope) (h : m.le n = true) (h' : n.le m = true) : m = n := by
  rw [le_iff] at h h'
  exact eq_of_block (family_eq_of_version (by omega)) (by omega) (by omega) hscope

/-! ## Lowest terms -/

/-- A list of blocks that cannot be made shorter, in order. -/
structure Lowest (ns : List Network) : Prop where
  unscoped : ∀ n ∈ ns, n.scope = none
  apart : ns.Pairwise (fun m n => m.overlaps n = false)
  parents : (ns.map parent).Nodup
  ordered : ns.Pairwise (fun m n => m.le n = true)

namespace Lowest

variable {ns ms : List Network}

theorem nodup (h : Lowest ns) : ns.Nodup := h.parents.of_map _

theorem eq_of_covers (h : Lowest ns) (hm : m ∈ ns) (hn : n ∈ ns) {family : Family} {value : Nat}
    (hcovers : m.Covers family value) (hcovers' : n.Covers family value) : m = n := by
  by_contra hne
  have hsymm : Std.Symm fun m n : Network => m.overlaps n = false := by
    refine ⟨fun a b hab => ?_⟩
    rw [Bool.eq_false_iff, ne_eq, overlaps_iff] at *
    exact fun ⟨hf, hl, hr⟩ => hab ⟨hf.symm, hr, hl⟩
  have hapart := h.apart.forall hm hn hne
  rw [overlaps_of_covers hcovers hcovers'] at hapart
  cases hapart

/-- What is covered lies within one block. -/
theorem holds (h : Lowest ns) (hcovered : ∀ value, n.Covers n.family value → Covered ns n.family value) :
    ∃ k ∈ ns, n.Within k := by
  -- By induction on the size: each half lies in a block of the list. If neither of these is larger than a half,
  -- they are the two halves, and then they have the same parent.
  induction hbits : n.family.width - n.length generalizing n with
  | zero =>
    obtain ⟨k, hk, hbase⟩ := hcovered _ n.covers_base
    have hlength := n.length_le
    have hlength' := k.length_le
    have hwidth := congrArg Family.width hbase.1
    exact ⟨k, hk, within_of_covers n.covers_base hbase (by omega)⟩
  | succ bits ih =>
    obtain ⟨low, high, hlow, hhigh, hlowlength, hhighlength, hbase, hlast⟩ := n.exists_halves (by omega)
    have hhalf : ∀ {half : Network}, half.Within n → half.length = n.length + 1 →
        ∃ k ∈ ns, half.Within k ∧ (n.Within k ∨ (k.Within n ∧ k.length = n.length + 1)) := by
      intro half hwithin hlength
      have hwidth := congrArg Family.width hwithin.family
      obtain ⟨k, hk, hhalfk⟩ := ih (fun value hv => hwithin.family ▸ hcovered value (hwithin.covers (hwithin.family ▸ hv))) (by omega)
      have hle := length_le_of_within hhalfk
      refine ⟨k, hk, hhalfk, ?_⟩
      by_cases hlarge : k.length ≤ n.length
      · exact .inl (within_of_covers (hwithin.covers half.covers_base) (hhalfk.covers half.covers_base) hlarge)
      · exact .inr ⟨(hhalfk.symm (by omega)).trans hwithin, by omega⟩
    obtain ⟨k, hk, hlowk, hwithin | ⟨hkn, hlength⟩⟩ := hhalf hlow hlowlength
    · exact ⟨k, hk, hwithin⟩
    obtain ⟨k', hk', hhighk, hwithin | ⟨hkn', hlength'⟩⟩ := hhalf hhigh hhighlength
    · exact ⟨k', hk', hwithin⟩
    have hparent := parent_eq hkn hkn' hlength hlength' (h.unscoped k hk) (h.unscoped k' hk')
    obtain rfl := List.inj_on_of_nodup_map h.parents hk hk' hparent
    have hfrom := hlowk.base
    have hto := hhighk.last
    exact ⟨k, hk, hkn.family.symm, by omega, by omega⟩

/-- Every block of a list in lowest terms has a block within it in every list for the same addresses. -/
theorem exists_within (h : Lowest ns) (hsame : ∀ family value, Covered ms family value ↔ Covered ns family value) (hn : n ∈ ns) :
    ∃ m ∈ ms, m.Within n := by
  obtain ⟨m, hm, hbase⟩ := (hsame _ _).mpr ⟨n, hn, n.covers_base⟩
  obtain ⟨k, hk, hwithin⟩ := h.holds fun value hv => (hsame _ _).mp ⟨m, hm, hv⟩
  obtain rfl := h.eq_of_covers hk hn (hwithin.covers hbase) n.covers_base
  exact ⟨m, hm, hwithin⟩

/-- No list of blocks for the same addresses is shorter. -/
theorem length_le (h : Lowest ns) (hsame : ∀ family value, Covered ms family value ↔ Covered ns family value) :
    ns.length ≤ ms.length := by
  have hchoice : ∀ n, ∃ m, n ∈ ns → m ∈ ms ∧ m.Within n := by
    intro n
    by_cases hn : n ∈ ns
    · obtain ⟨m, hm, hwithin⟩ := h.exists_within hsame hn
      exact ⟨m, fun _ => ⟨hm, hwithin⟩⟩
    · exact ⟨n, fun hn' => absurd hn' hn⟩
  choose inner hinner using hchoice
  have hinjective : ∀ m ∈ ns, ∀ n ∈ ns, inner m = inner n → m = n := by
    intro m hm n hn heq
    have hwithin := (hinner m hm).2
    rw [heq] at hwithin
    exact h.eq_of_covers hm hn (hwithin.covers (inner n).covers_base) ((hinner n hn).2.covers (inner n).covers_base)
  have hsubset : ns.map inner ⊆ ms := by
    intro m hm
    obtain ⟨n, hn, rfl⟩ := List.mem_map.mp hm
    exact (hinner n hn).1
  calc ns.length = (ns.map inner).length := (List.length_map _).symm
    _ ≤ ms.length := (List.subperm_of_subset (h.nodup.map_on hinjective) hsubset).length_le

theorem mem_of_mem (h : Lowest ns) (h' : Lowest ms) (hsame : ∀ family value, Covered ms family value ↔ Covered ns family value)
    (hn : n ∈ ns) : n ∈ ms := by
  obtain ⟨m, hm, hmn⟩ := h.exists_within hsame hn
  obtain ⟨k, hk, hkm⟩ := h'.exists_within (fun family value => (hsame family value).symm) hm
  obtain rfl := h.eq_of_covers hk hn k.covers_base ((hkm.trans hmn).covers k.covers_base)
  have hlength : m.length = k.length := Nat.le_antisymm (length_le_of_within hkm) (length_le_of_within hmn)
  obtain rfl := eq_of_block hmn.family (hmn.base_eq hlength) hlength ((h'.unscoped m hm).trans (h.unscoped k hk).symm)
  exact hm

/-- A list in lowest terms is determined by the addresses that it covers. -/
theorem unique (h : Lowest ns) (h' : Lowest ms) (hsame : ∀ family value, Covered ms family value ↔ Covered ns family value) :
    ms = ns := by
  have hperm : ms.Perm ns := (List.perm_ext_iff_of_nodup h'.nodup h.nodup).mpr fun n =>
    ⟨h'.mem_of_mem h fun family value => (hsame family value).symm, h.mem_of_mem h' hsame⟩
  exact hperm.eq_of_pairwise (fun a b ha hb => le_antisymm ((h'.unscoped a ha).trans (h.unscoped b hb).symm)) h'.ordered h.ordered

end Lowest

end Network

end SenderPolicy
