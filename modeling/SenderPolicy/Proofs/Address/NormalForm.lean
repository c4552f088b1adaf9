/-
  SenderPolicy.Proofs.Address.NormalForm — the texts that spell a block, and the one in normal form.

  A block is spelled by any of its addresses with its length, which may have zeros in front; for IPv4 a netmask
  or a hostmask may stand for the length. An address alone spells the block of nothing else. Of all these texts
  one is the normal form.
  - `ofText?_iff`: the reader accepts exactly these spellings, scope ids aside.
  - `denotes_iff`: so a text without a percent sign denotes one block or none.
  - `normal_form_canonical`: two texts have one normal form exactly if they denote one block, which is what the
    normal form denotes too.
-/

import SenderPolicy.Proofs.Address.Consolidation
import SenderPolicy.Proofs.Address.Spelling

namespace SenderPolicy

open Text

namespace Network

open Address (SpellsV4 readV4_iff)

/-! ## Spellings -/

/-- Decimal digits, maybe with zeros in front, or for IPv4 a netmask, or a hostmask that is no netmask. -/
inductive SpellsLength : Family → List Char → Nat → Prop where
  | digits {family : Family} {cs : List Char} : cs ≠ [] → (∀ c ∈ cs, c.isDigit = true) → cs.length ≤ 4300 →
      Address.decimal cs ≤ family.width → SpellsLength family cs (Address.decimal cs)
  | netmask {cs : List Char} {l : Nat} : l ≤ 32 → Address.SpellsV4 cs (span 32 - span (32 - l)) → SpellsLength .v4 cs l
  | hostmask {cs : List Char} {l : Nat} : 0 < l → l < 32 → Address.SpellsV4 cs (span (32 - l) - 1) → SpellsLength .v4 cs l

/-- The text spells the block: an address alone, or any address of the block with the length of the block. -/
inductive Spells : List Char → Network → Prop where
  | host {cs : List Char} {a : Address} : Address.Spells cs a → Spells cs a.host
  | block {cs ls : List Char} {a : Address} {l : Nat} : Address.Spells cs a → SpellsLength a.family ls l →
      (h : l ≤ a.family.width) → Spells (cs ++ '/' :: ls) (a.cut l h)

/-- What a text denotes that may have white space around it. -/
def Denotes (text : String) (n : Network) : Prop := Spells (strip text).toList n

/-! ## Lengths -/

theorem length?_iff (family : Family) {cs : List Char} {l : Nat} : length? family.width cs = some l ↔
    cs ≠ [] ∧ (∀ c ∈ cs, c.isDigit = true) ∧ cs.length ≤ 4300 ∧ Address.decimal cs ≤ family.width ∧ l = Address.decimal cs := by
  unfold length? Address.isDecimalText
  constructor
  · intro h
    split at h
    · rename_i hall
      cases h
      simp only [Bool.and_eq_true, decide_eq_true_eq, Bool.not_eq_true', List.isEmpty_eq_false_iff, List.all_eq_true] at hall
      exact ⟨hall.1.1.1, hall.1.1.2, hall.1.2, hall.2, rfl⟩
    · cases h
  · rintro ⟨hne, hdigits, hshort, hle, rfl⟩
    rw [if_pos]
    simp only [Bool.and_eq_true, decide_eq_true_eq, Bool.not_eq_true', List.isEmpty_eq_false_iff, List.all_eq_true]
    exact ⟨⟨⟨hne, hdigits⟩, hshort⟩, hle⟩

theorem lengthOfMask?_eq_some {mask l : Nat} (h : lengthOfMask? mask = some l) : l ≤ 32 ∧ mask = span 32 - span (32 - l) := by
  have hfound := List.find?_some h
  have hmem := List.mem_range.mp (List.mem_of_find?_eq_some h)
  exact ⟨by omega, by simpa using hfound⟩

theorem lengthOfMask?_netmask : ∀ l < 33, lengthOfMask? (span 32 - span (32 - l)) = some l := by decide

theorem lengthOfMask?_hostmask : ∀ l < 32, 0 < l → lengthOfMask? (span (32 - l) - 1) = none ∧
    span 32 - 1 - (span (32 - l) - 1) = span 32 - span (32 - l) := by decide

theorem maskLength?_iff {cs : List Char} {l : Nat} : maskLength? cs = some l ↔
    (l ≤ 32 ∧ SpellsV4 cs (span 32 - span (32 - l))) ∨ (0 < l ∧ l < 32 ∧ SpellsV4 cs (span (32 - l) - 1)) := by
  unfold maskLength?
  constructor
  · intro h
    split at h
    · rename_i n hread
      have hspelled := readV4_iff.mp hread
      have hn : n < span 32 := (Address.spellsV4_iff.mp hspelled).1
      cases hmask : lengthOfMask? n with
      | some m =>
        rw [hmask] at h
        cases h
        obtain ⟨hle, rfl⟩ := lengthOfMask?_eq_some hmask
        exact .inl ⟨hle, hspelled⟩
      | none =>
        rw [hmask] at h
        obtain ⟨hle, hhost⟩ := lengthOfMask?_eq_some h
        have hpos := span_pos (32 - l)
        have hspan : span (32 - l) ≤ span 32 := Nat.pow_le_pow_right (by decide) (Nat.sub_le 32 l)
        obtain rfl : n = span (32 - l) - 1 := by omega
        -- The masks of no and of all bits are netmasks of the other length.
        have hzero : l ≠ 0 := by
          rintro rfl
          rw [show span (32 - 0) - 1 = span 32 - span (32 - 32) from rfl, lengthOfMask?_netmask 32 (by decide)] at hmask
          cases hmask
        have hfull : l ≠ 32 := by
          rintro rfl
          rw [show span (32 - 32) - 1 = span 32 - span (32 - 0) from rfl, lengthOfMask?_netmask 0 (by decide)] at hmask
          cases hmask
        exact .inr ⟨by omega, by omega, hspelled⟩
    · cases h
  · rintro (⟨hle, h⟩ | ⟨hpos, hlt, h⟩)
    · rw [readV4_iff.mpr h]
      dsimp only
      rw [lengthOfMask?_netmask l (by omega)]
      rfl
    · obtain ⟨hnone, hsame⟩ := lengthOfMask?_hostmask l hlt hpos
      rw [readV4_iff.mpr h]
      dsimp only
      rw [hnone, hsame]
      exact lengthOfMask?_netmask l (by omega)

theorem spellsLength_of_length? (family : Family) {cs : List Char} {l : Nat} (h : length? family.width cs = some l) :
    SpellsLength family cs l := by
  obtain ⟨hne, hdigits, hshort, hle, rfl⟩ := (length?_iff family).mp h
  exact .digits hne hdigits hshort hle

theorem length_v6_iff {cs : List Char} {l : Nat} : length? 128 cs = some l ↔ SpellsLength .v6 cs l := by
  refine ⟨spellsLength_of_length? .v6, fun h => ?_⟩
  cases h with
  | digits hne hdigits hshort hle => exact (length?_iff .v6).mpr ⟨hne, hdigits, hshort, hle, rfl⟩

/-- A mask has dots, so it is no length in digits. -/
theorem length?_mask {cs : List Char} {m : Nat} (h : SpellsV4 cs m) : length? 32 cs = none := by
  cases hlength : length? 32 cs with
  | none => rfl
  | some l =>
    have hdigits := ((length?_iff .v4).mp hlength).2.1
    exact absurd (hdigits _ (Address.dot_mem_v4 h)) (by decide)

theorem length_v4_iff {cs : List Char} {l : Nat} :
    ((length? 32 cs).orElse fun _ => maskLength? cs) = some l ↔ SpellsLength .v4 cs l := by
  constructor
  · intro h
    cases hlength : length? 32 cs with
    | some m =>
      rw [hlength] at h
      exact spellsLength_of_length? .v4 (hlength.trans h)
    | none =>
      rw [hlength] at h
      rcases maskLength?_iff.mp h with ⟨hle, h⟩ | ⟨hpos, hlt, h⟩
      · exact .netmask hle h
      · exact .hostmask hpos hlt h
  · intro h
    cases h with
    | digits hne hdigits hshort hle =>
      have hlength : length? 32 cs = some (Address.decimal cs) :=
        (length?_iff .v4).mpr ⟨hne, hdigits, hshort, hle, rfl⟩
      rw [hlength]
      rfl
    | netmask hle h =>
      rw [length?_mask h]
      exact maskLength?_iff.mpr (.inl ⟨hle, h⟩)
    | hostmask hpos hlt h =>
      rw [length?_mask h]
      exact maskLength?_iff.mpr (.inr ⟨hpos, hlt, h⟩)

theorem slash_not_mem_length {family : Family} {cs : List Char} {l : Nat} (h : SpellsLength family cs l) : '/' ∉ cs := by
  cases h with
  | digits hne hdigits hshort hle => exact fun hm => absurd (hdigits _ hm) (by decide)
  | netmask hle h => exact Address.not_mem_v4 h (by decide) (by decide)
  | hostmask hpos hlt h => exact Address.not_mem_v4 h (by decide) (by decide)

/-! ## Blocks -/

theorem slash_not_mem_address {cs : List Char} {a : Address} (h : Address.Spells cs a) : '/' ∉ cs := by
  cases h with
  | v4 h => exact Address.not_mem_v4 h (by decide) (by decide)
  | v6 h => exact Address.not_mem_spelledV6 h (by decide) (by decide) (by decide)

theorem splitOn_length {cs ls : List Char} (hcs : '/' ∉ cs) (hls : '/' ∉ ls) : (cs ++ '/' :: ls).splitOn '/' = [cs, ls] := by
  rw [List.splitOn_eq_splitOnP, List.splitOnP_append_cons _ _ (by decide), ← List.splitOn_eq_splitOnP,
    ← List.splitOn_eq_splitOnP, splitOn_slash hcs, splitOn_slash hls]
  rfl

theorem make?_eq_some {a : Address} {length : Option Nat} {n : Network} :
    make? a length = some n ↔ ∃ l, length = some l ∧ ∃ h : l ≤ a.family.width, n = a.cut l h := by
  unfold make?
  cases length with
  | none => simp
  | some l =>
    by_cases h : l ≤ a.family.width
    · simp [h, eq_comm]
    · simp [h]

/-- The reader accepts the spellings of a block, and no other text without a percent sign. -/
theorem ofText?_iff {s : String} (hs : '%' ∉ s.toList) {n : Network} : ofText? s = some n ↔ Spells s.toList n := by
  have hjoin : ['/'].intercalate (s.toList.splitOn '/') = s.toList := List.intercalate_splitOn '/'
  unfold ofText?
  generalize s.toList = text at hs hjoin ⊢
  constructor
  · intro h
    split at h
    · rename_i address hsplit
      obtain rfl : address = text := by rwa [hsplit, List.intercalate_singleton] at hjoin
      rcases Address.read_cases hs with ⟨m, e, hm, h4, h6⟩ | ⟨m, e, hm, h4, h6⟩ | ⟨e, e', h4, h6⟩
      · rw [h4] at h
        cases h
        exact .host (.v4 hm)
      · rw [h4, h6] at h
        cases h
        exact .host (.v6 hm)
      · rw [h4, h6] at h
        cases h
    · rename_i address length hsplit
      obtain rfl : address ++ '/' :: length = text := by simpa [hsplit, List.intercalate_cons_cons] using hjoin
      have haddress : '%' ∉ address := fun hm => hs (List.mem_append_left _ hm)
      dsimp only at h
      rcases Address.read_cases haddress with ⟨m, e, hm, h4, h6⟩ | ⟨m, e, hm, h4, h6⟩ | ⟨e, e', h4, h6⟩
      · rw [h4, h6] at h
        dsimp only at h
        have hmake : make? (.ofNat .v4 m none) ((length? 32 length).orElse fun _ => maskLength? length) = some n := by
          cases hread : make? (.ofNat .v4 m none) ((length? 32 length).orElse fun _ => maskLength? length) with
          | none => rw [hread] at h; cases h
          | some found => rwa [hread] at h
        obtain ⟨l, hl, hle, rfl⟩ := make?_eq_some.mp hmake
        exact .block (.v4 hm) (length_v4_iff.mp hl) hle
      · rw [h4, h6] at h
        obtain ⟨l, hl, hle, rfl⟩ := make?_eq_some.mp h
        exact .block (.v6 hm) (length_v6_iff.mp hl) hle
      · rw [h4, h6] at h
        cases h
    · cases h
  · intro h
    cases h with
    | host ha =>
      rw [splitOn_slash (slash_not_mem_address ha)]
      dsimp only
      cases ha with
      | v4 h => rw [readV4_iff.mpr h]
      | v6 h =>
        obtain ⟨e, he⟩ := Address.readV4_of_v6 h
        rw [he, (Address.readScoped_iff hs).mpr ⟨h, rfl⟩]
    | @block cs ls a l ha hlength hle =>
      have hcs : '%' ∉ cs := fun hm => hs (List.mem_append_left _ hm)
      rw [splitOn_length (slash_not_mem_address ha) (slash_not_mem_length hlength)]
      dsimp only
      cases ha with
      | v4 h =>
        rw [readV4_iff.mpr h]
        dsimp only
        rw [make?_eq_some.mpr ⟨l, length_v4_iff.mpr hlength, hle, rfl⟩]
        rfl
      | v6 h =>
        obtain ⟨e, he⟩ := Address.readV4_of_v6 h
        rw [he, (Address.readScoped_iff hcs).mpr ⟨h, rfl⟩]
        exact make?_eq_some.mpr ⟨l, length_v6_iff.mpr hlength, hle, rfl⟩

theorem Spells.unscoped {cs : List Char} {n : Network} (h : Spells cs n) : n.scope = none := by
  cases h with
  | host ha => exact (if_pos (Nat.div_mul_cancel (by simp [span]))).trans ha.unscoped
  | block ha _ _ => exact ite_eq_right_iff.mpr fun _ => ha.unscoped

/-! ## Normal forms -/

theorem percent_not_mem_strip {s : String} (hs : '%' ∉ s.toList) : '%' ∉ (strip s).toList := by
  rw [strip, String.toList_ofList]
  exact fun hm => hs ((trim_sublist _ _).subset hm)

theorem denotes_iff {s : String} (hs : '%' ∉ s.toList) {n : Network} : Denotes s n ↔ read (strip s) = .ok n := by
  rw [Denotes, ← ofText?_iff (percent_not_mem_strip hs), read]
  cases ofText? (strip s) <;> simp

theorem normalize_eq_ok {s t : String} (hs : '%' ∉ s.toList) : normalize s = .ok t ↔ ∃ n, Denotes s n ∧ n.normal = t := by
  simp only [denotes_iff hs]
  rw [normalize]
  cases read (strip s) <;> simp [Except.map]

theorem Denotes.unique {s : String} (hs : '%' ∉ s.toList) {m n : Network} (hm : Denotes s m) (hn : Denotes s n) : n = m := by
  rw [denotes_iff hs] at hm hn
  exact Except.ok.inj (hn.symm.trans hm)

theorem denotes_normal {n : Network} (h : n.scope = none) : Denotes n.normal n := by
  rw [denotes_iff (percent_not_mem_normal h), strip_normal h]
  exact read_normal (spellable_of_unscoped h)

/-- Blocks without scope ids are their family, first address and length. -/
theorem eq_of_unscoped {m n : Network} (hm : m.scope = none) (hn : n.scope = none) (hfamily : m.family = n.family)
    (hbase : m.base = n.base) (hlength : m.length = n.length) : m = n := by
  cases m
  cases n
  cases hfamily
  cases hbase
  cases hlength
  cases hm
  cases hn
  rfl

/-- Texts without scope ids have a normal form exactly if they denote a block. They have the same one exactly if the
blocks have the same family, first address and length; the normal form denotes the block of its text, and is its
own normal form. -/
theorem normal_form_canonical {v w : String} (hv : '%' ∉ v.toList) (hw : '%' ∉ w.toList) :
    ((∃ s, normalize v = .ok s) ↔ ∃ m, Denotes v m) ∧
    ∀ s t, normalize v = .ok s → normalize w = .ok t →
      ∃ m n, (∀ m', Denotes v m' ↔ m' = m) ∧ (∀ n', Denotes w n' ↔ n' = n) ∧
        (s = t ↔ m.family = n.family ∧ m.base = n.base ∧ m.length = n.length) ∧
        (∀ m', Denotes s m' ↔ m' = m) ∧ normalize s = .ok s := by
  have hdenoted : ∀ {x : String} {n : Network}, '%' ∉ x.toList → Denotes x n → ∀ n', Denotes x n' ↔ n' = n := by
    intro x n hx hn n'
    exact ⟨fun hn' => hn.unique hx hn', fun he => he ▸ hn⟩
  refine ⟨?_, ?_⟩
  · simp only [normalize_eq_ok hv]
    exact ⟨fun ⟨_, m, hm, _⟩ => ⟨m, hm⟩, fun ⟨m, hm⟩ => ⟨_, m, hm, rfl⟩⟩
  · intro s t hs ht
    obtain ⟨m, hm, rfl⟩ := (normalize_eq_ok hv).mp hs
    obtain ⟨n, hn, rfl⟩ := (normalize_eq_ok hw).mp ht
    have hmscope : m.scope = none := Spells.unscoped hm
    have hnscope : n.scope = none := Spells.unscoped hn
    refine ⟨m, n, hdenoted hv hm, hdenoted hw hn, ⟨?_, ?_⟩,
      hdenoted (percent_not_mem_normal hmscope) (denotes_normal hmscope), normalize_normal hmscope⟩
    · intro he
      cases normal_injective (spellable_of_unscoped hmscope) (spellable_of_unscoped hnscope) he
      exact ⟨rfl, rfl, rfl⟩
    · rintro ⟨hfamily, hbase, hlength⟩
      rw [eq_of_unscoped hmscope hnscope hfamily hbase hlength]

theorem normal_form_canonical_embedded :
    normalize "2001:DB8::FFFF:1.2.3.4/112" = .ok "2001:db8::ffff:102:0/112" ∧
    normalize " 2001:0db8:0:0:0:ffff:102:9/0112" = .ok "2001:db8::ffff:102:0/112" ∧
    ∃ m n, Denotes "2001:DB8::FFFF:1.2.3.4/112" m ∧ Denotes " 2001:0db8:0:0:0:ffff:102:9/0112" n ∧
      m.family = n.family ∧ m.base = n.base ∧ m.length = n.length := by
  have hv : normalize "2001:DB8::FFFF:1.2.3.4/112" = .ok "2001:db8::ffff:102:0/112" := by decide +kernel
  have hw : normalize " 2001:0db8:0:0:0:ffff:102:9/0112" = .ok "2001:db8::ffff:102:0/112" := by decide +kernel
  obtain ⟨m, n, hm, hn, hsame, _⟩ := (normal_form_canonical (by decide) (by decide)).2 _ _ hv hw
  exact ⟨hv, hw, m, n, (hm m).mpr rfl, (hn n).mpr rfl, hsame.mp rfl⟩

end Network

end SenderPolicy
