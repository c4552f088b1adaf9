/-
  SenderPolicy.Proofs.Flatten.Masking — the networks around addresses, exactly.

  The length that a term gives for a family is cut off from the addresses of this family and no others, and
  without one an address stands for itself. The network is found by arithmetic, and it is the one that would be
  read from the text of the address with the length behind it.
  - `around_iff`: of all blocks of so many addresses one holds the address.
  - `lengthOf?_digits`: what a text of digits says, and that it says nothing beyond the width of the family.
  - `normalize_behind`: writing the address with the length, and reading that, comes to the same.
  - `masking_exact`: which addresses can be widened, and to what.
-/

import SenderPolicy.Proofs.Address.NormalForm
import SenderPolicy.Proofs.Flatten.Branches

namespace SenderPolicy

open Text

/-! ## Blocks around an address -/

/-- The block holds the address, in its family, and as many addresses as the bits behind `length` tell apart. -/
structure Network.Around (n : Network) (a : Address) (length : Nat) : Prop where
  unscoped : n.scope = none
  covers : n.Covers a.family a.value
  size : n.size = 2 ^ (a.family.width - length)

namespace Network.Around

variable {m n : Network} {a : Address} {l : Nat}

theorem length_eq (h : n.Around a l) (hl : l ≤ a.family.width) : n.length = l := by
  have hwidth : n.family.width = a.family.width := congrArg Family.width h.covers.1
  have hbits : n.family.width - n.length = a.family.width - l := Nat.pow_right_injective (le_refl 2) h.size
  have hlength := n.length_le
  omega

theorem unique (hm : m.Around a l) (hn : n.Around a l) (hl : l ≤ a.family.width) : m = n := by
  have hlength : m.length = n.length := (hm.length_eq hl).trans (hn.length_eq hl).symm
  have hwithin : m.Within n := Network.within_of_covers hm.covers hn.covers hlength.symm.le
  exact Network.eq_of_unscoped hm.unscoped hn.unscoped hwithin.family (hwithin.base_eq hlength) hlength

end Network.Around

theorem Address.around_cut {a : Address} (ha : a.scope = none) {l : Nat} (hl : l ≤ a.family.width) : (a.cut l hl).Around a l where
  unscoped := ite_eq_right_iff.mpr fun _ => ha
  covers := a.mem_cut l hl
  size := rfl

/-- Of all blocks of so many addresses one holds the address. -/
theorem Network.around_iff {a : Address} (ha : a.scope = none) {l : Nat} (hl : l ≤ a.family.width) {n : Network} :
    n.Around a l ↔ n = a.cut l hl :=
  ⟨fun h => h.unique (Address.around_cut ha hl) hl, fun h => h ▸ Address.around_cut ha hl⟩

namespace Flatten

open Policy (byFamily)

/-! ## Lengths -/

/-- One to three decimal digits, which is what a term can have for a length. -/
structure IsLengthText (p : String) : Prop where
  nonempty : p.toList ≠ []
  short : p.toList.length ≤ 3
  digits : ∀ c ∈ p.toList, c.isDigit = true

/-- The length that is given for a family; without one it is that of a single address. -/
def lengthGiven (family : Family) (p : Option String) : Nat := p.elim family.width fun p => Address.decimal p.toList

variable {p : String}

/-- What a text of digits says, and that it says nothing beyond the width of the family. -/
theorem lengthOf?_digits (family : Family) (hp : IsLengthText p) :
    lengthOf? family p = if Address.decimal p.toList ≤ family.width then some (Address.decimal p.toList) else none := by
  have htrim : trimEnd isBlank p.toList = p.toList := by
    refine trimEnd_self fun c hc => ?_
    exact (plain_of_hex (hexValue?_digit (hp.digits c (List.mem_of_getLast? hc)))).1
  -- Digits are no mask: a mask has dots.
  have hmask : Network.maskLength? p.toList = none := by
    cases hm : Network.maskLength? p.toList with
    | none => rfl
    | some l =>
      have hdot : '.' ∈ p.toList := by
        rcases Network.maskLength?_iff.mp hm with ⟨-, h⟩ | ⟨-, -, h⟩ <;> exact Address.dot_mem_v4 h
      exact absurd (hp.digits _ hdot) (by decide)
  have hlength : Network.length? family.width p.toList
      = if Address.decimal p.toList ≤ family.width then some (Address.decimal p.toList) else none := by
    have hshort := hp.short
    split
    · rename_i hle
      exact (Network.length?_iff family).mpr ⟨hp.nonempty, hp.digits, by omega, hle, rfl⟩
    · rename_i hle
      cases hl : Network.length? family.width p.toList with
      | none => rfl
      | some l => exact absurd ((Network.length?_iff family).mp hl).2.2.2.1 hle
  unfold lengthOf?
  rw [htrim]
  cases family with
  | v4 =>
    dsimp only
    rw [hmask]
    refine Eq.trans ?_ hlength
    show (Network.length? 32 p.toList).orElse _ = Network.length? 32 p.toList
    cases Network.length? 32 p.toList <;> rfl
  | v6 => exact hlength

/-! ## One address -/

variable {a : Address} {given : Option String} {n : Network}

theorem maskAddress_eq (hp : ∀ p ∈ given, IsLengthText p) (hle : lengthGiven a.family given ≤ a.family.width) :
    maskAddress a given = .ok (a.cut (lengthGiven a.family given) hle) := by
  cases given with
  | none => rfl
  | some p =>
    have hle' : Address.decimal p.toList ≤ a.family.width := hle
    have hmake : Network.make? a (lengthOf? a.family p) = some (a.cut (Address.decimal p.toList) hle') := by
      rw [lengthOf?_digits a.family (hp p rfl), if_pos hle']
      exact dif_pos hle'
    unfold maskAddress
    dsimp only
    rw [hmake]
    rfl

theorem maskAddress_error (hp : ∀ p ∈ given, IsLengthText p) (hlt : a.family.width < lengthGiven a.family given) :
    ∃ e, maskAddress a given = .error e := by
  cases given with
  | none => exact absurd hlt (Nat.lt_irrefl _)
  | some p =>
    have hlength : lengthOf? a.family p = none := by
      rw [lengthOf?_digits a.family (hp p rfl)]
      exact if_neg (Nat.not_le.mpr hlt)
    unfold maskAddress
    dsimp only
    rw [hlength]
    exact ⟨_, rfl⟩

theorem maskAddress_ok_iff (ha : a.scope = none) (hp : ∀ p ∈ given, IsLengthText p) :
    maskAddress a given = .ok n ↔
      lengthGiven a.family given ≤ a.family.width ∧ n.Around a (lengthGiven a.family given) := by
  by_cases hle : lengthGiven a.family given ≤ a.family.width
  · rw [maskAddress_eq hp hle, Network.around_iff ha hle, and_iff_right hle, Except.ok.injEq]
    exact eq_comm
  · obtain ⟨e, he⟩ := maskAddress_error hp (Nat.lt_of_not_le hle)
    rw [he]
    exact iff_of_false (fun h => nomatch h) fun h => hle h.1

theorem lengthGiven_le_iff {family : Family} :
    lengthGiven family given ≤ family.width ↔ ∀ p ∈ given, Address.decimal p.toList ≤ family.width := by
  cases given <;> simp [lengthGiven]

theorem exists_maskAddress_iff (ha : a.scope = none) (hp : ∀ p ∈ given, IsLengthText p) :
    (∃ n, maskAddress a given = .ok n) ↔ ∀ p ∈ given, Address.decimal p.toList ≤ a.family.width := by
  rw [← lengthGiven_le_iff]
  constructor
  · rintro ⟨n, hn⟩
    exact ((maskAddress_ok_iff ha hp).mp hn).1
  · intro hle
    exact ⟨_, maskAddress_eq hp hle⟩

/-- Writing the address with the length, and reading that, comes to the same. -/
theorem normalize_behind (ha : a.scope = none) (hp : IsLengthText p) (hle : Address.decimal p.toList ≤ a.family.width)
    (hn : n.Around a (Address.decimal p.toList)) : Network.normalize (a.text ++ "/" ++ p) = .ok n.normal := by
  rw [(Network.around_iff ha hle).mp hn]
  have hspelled := Address.spells_text ha
  have htext : (a.text ++ "/" ++ p).toList = a.text.toList ++ '/' :: p.toList := by simp
  have hplain : ∀ c ∈ (a.text ++ "/" ++ p).toList, isBlank c = false ∧ c ≠ '%' := by
    rw [htext]
    intro c hc
    rcases List.mem_append.mp hc with hc | hc
    · exact hspelled.plain hc
    rcases List.mem_cons.mp hc with rfl | hc
    · decide
    · have hdigit := hp.digits c hc
      refine ⟨(plain_of_hex (hexValue?_digit hdigit)).1, ?_⟩
      rintro rfl
      cases hdigit
  have hshort := hp.short
  refine (Network.normalize_eq_ok fun hm => (hplain _ hm).2 rfl).mpr ⟨_, ?_, rfl⟩
  unfold Network.Denotes
  rw [strip_of_noBlank fun c hc => (hplain c hc).1, htext]
  exact .block hspelled (.digits hp.nonempty hp.digits (by omega) hle) hle

/-! ## Lists of addresses -/

variable {v4 v6 : Option String} {texts : List String} {as : List Address} {ns : List Network}

theorem maskAll_ok_iff : maskAll v4 v6 texts = .ok ns ↔ List.Forall₂ (fun t n => mask v4 v6 t = .ok n) texts ns := by
  refine ⟨maskAll_ok, fun h => ?_⟩
  induction h with
  | nil => rfl
  | cons hn _ ih =>
    unfold maskAll
    rw [hn, ih]
    rfl

theorem exists_maskAll_iff : (∃ ns, maskAll v4 v6 texts = .ok ns) ↔ ∀ t ∈ texts, ∃ n, mask v4 v6 t = .ok n := by
  simp only [maskAll_ok_iff]
  induction texts with
  | nil => simp
  | cons t ts ih =>
    rw [List.forall_mem_cons, ← ih]
    constructor
    · rintro ⟨_, hn⟩
      cases hn with
      | cons hn hns => exact ⟨⟨_, hn⟩, _, hns⟩
    · rintro ⟨⟨n, hn⟩, ns, hns⟩
      exact ⟨n :: ns, .cons hn hns⟩

theorem mask_spelled {t : String} (h : Address.Spells t.toList a) :
    mask v4 v6 t = maskAddress a (byFamily v4 v6 a.family) := by
  unfold mask
  rw [Address.ofText?_spelled h]
  rfl

/-- The text is the normal form of the only block of this length around the address, and denotes nothing else. -/
def WrittenAround (a : Address) (length : Nat) (out : String) : Prop :=
  ∃ n : Network, (∀ m : Network, m.Around a length ↔ m = n) ∧ (∀ m, Network.Denotes out m ↔ m = n) ∧
    Network.normalize out = .ok out

theorem writtenAround_normal {l : Nat} (ha : a.scope = none) (hl : l ≤ a.family.width) (hn : n.Around a l) :
    WrittenAround a l n.normal := by
  have hn' : n = a.cut l hl := (Network.around_iff ha hl).mp hn
  refine ⟨n, fun m => ?_, fun m => ⟨fun hm => ?_, fun hm => ?_⟩, Network.normalize_normal hn.unscoped⟩
  · rw [Network.around_iff ha hl, hn']
  · exact (Network.denotes_normal hn.unscoped).unique (percent_not_mem_normal hn.unscoped) hm
  · rw [hm]
    exact Network.denotes_normal hn.unscoped

/-- Texts of addresses without scope ids can be widened exactly if no address meets a length beyond the width of its
family. Then each of them, in order, gives the normal form of the only block of its family that holds it and has as
many addresses as the length says, or of the address alone; which is what is read from the address with the length
behind it. -/
theorem masking_exact (h4 : ∀ p ∈ v4, IsLengthText p) (h6 : ∀ p ∈ v6, IsLengthText p)
    (hspelled : List.Forall₂ (fun t a => Address.Spells t.toList a) texts as) :
    ((∃ ns, maskAll v4 v6 texts = .ok ns) ↔
      ∀ a ∈ as, ∀ p ∈ byFamily v4 v6 a.family, Address.decimal p.toList ≤ a.family.width) ∧
    ∀ ns, maskAll v4 v6 texts = .ok ns → List.Forall₂ (fun a out =>
      WrittenAround a (lengthGiven a.family (byFamily v4 v6 a.family)) out ∧
        ∀ p ∈ byFamily v4 v6 a.family, Network.normalize (a.text ++ "/" ++ p) = .ok out) as (ns.map Network.normal) := by
  have hgiven : ∀ family, ∀ p ∈ byFamily v4 v6 family, IsLengthText p := by
    intro family
    cases family with
    | v4 => exact h4
    | v6 => exact h6
  constructor
  · rw [exists_maskAll_iff]
    clear h4 h6
    induction hspelled with
    | nil => simp
    | @cons t a ts as ht _ ih =>
      rw [List.forall_mem_cons, List.forall_mem_cons, ih, mask_spelled ht]
      exact and_congr_left fun _ => exists_maskAddress_iff ht.unscoped (hgiven a.family)
  · intro ns hns
    have hmasked := maskAll_ok hns
    clear hns h4 h6
    induction hspelled generalizing ns with
    | nil =>
      cases hmasked
      exact .nil
    | @cons t a ts as ht _ ih =>
      cases hmasked with
      | @cons _ n _ ns hn hrest =>
        rw [mask_spelled ht] at hn
        obtain ⟨hle, haround⟩ := (maskAddress_ok_iff ht.unscoped (hgiven a.family)).mp hn
        refine .cons ⟨writtenAround_normal ht.unscoped hle haround, fun p hp => ?_⟩ (ih ns hrest)
        have hlength : lengthGiven a.family (byFamily v4 v6 a.family) = Address.decimal p.toList :=
          congrArg (lengthGiven a.family) hp
        rw [hlength] at hle haround
        exact normalize_behind ht.unscoped (hgiven a.family p hp) hle haround

/-- An IPv4 address with a length of 0, in two digits, and an IPv6 address without one. -/
theorem masking_exact_whole :
    (∀ p ∈ some "00", IsLengthText p) ∧ (∀ p ∈ (none : Option String), IsLengthText p) ∧
    List.Forall₂ (fun t a => Address.Spells t.toList a) ["255.0.0.1", "::FFFF:1.2.3.4"]
      [.ofNat .v4 0xff000001 none, .ofNat .v6 0xffff01020304 none] ∧
    WrittenAround (.ofNat .v4 0xff000001 none) 0 "0.0.0.0/0" ∧
    WrittenAround (.ofNat .v6 0xffff01020304 none) 128 "::ffff:102:304" := by
  have h4 : ∀ p ∈ some "00", IsLengthText p := by
    rintro p hp
    obtain rfl := Option.some.inj hp
    exact ⟨by decide, by decide, List.all_eq_true.mp rfl⟩
  have h6 : ∀ p ∈ (none : Option String), IsLengthText p := fun p hp => nomatch hp
  have hspelled : List.Forall₂ (fun t a => Address.Spells t.toList a) ["255.0.0.1", "::FFFF:1.2.3.4"]
      [.ofNat .v4 0xff000001 none, .ofNat .v6 0xffff01020304 none] :=
    .cons (.v4 (Address.readV4_iff.mp (by rfl))) (.cons (.v6 (Address.readV6_iff.mp (by rfl))) .nil)
  obtain ⟨hiff, hnetworks⟩ := masking_exact h4 h6 hspelled
  obtain ⟨ns, hns⟩ := hiff.mpr (by decide)
  have htexts : (maskAll (some "00") none ["255.0.0.1", "::FFFF:1.2.3.4"]).toOption.map (·.map Network.normal)
      = some ["0.0.0.0/0", "::ffff:102:304"] := by decide +kernel
  rw [hns] at htexts
  have hnormal : ns.map Network.normal = ["0.0.0.0/0", "::ffff:102:304"] := Option.some.inj htexts
  have hwritten := hnetworks ns hns
  rw [hnormal] at hwritten
  cases hwritten with
  | cons hfirst hrest =>
    cases hrest with
    | cons hsecond _ => exact ⟨h4, h6, hspelled, hfirst.1, hsecond.1⟩

end Flatten

end SenderPolicy
