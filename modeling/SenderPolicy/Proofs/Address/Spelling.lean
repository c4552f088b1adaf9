/-
  SenderPolicy.Proofs.Address.Spelling — the texts that spell an address.

  An IPv4 address has one spelling. An IPv6 address has many: its digits may be of either case, its groups may
  have zeros in front, one gap may stand for zero groups wherever they are, and the last two groups may be
  written as IPv4. What spells what is said here without the reader.
  - `readV4_iff`, `readV6_iff`: the reader accepts exactly these spellings.
  - `read_cases`: a text without a scope id spells an address of one family at most.
  - `ofText?_spelled`, `spells_text`: what spells an address is read as it, and its own text spells it.
-/

import Mathlib.Data.List.Forall2
import Mathlib.Data.List.Induction
import SenderPolicy.Proofs.Address.ReadBack

namespace SenderPolicy

open Text

/-! ## Spellings -/

namespace Address

/-- Four octets between dots, in decimal digits without zeros in front. -/
def SpellsV4 (cs : List Char) (n : Nat) : Prop :=
  ∃ a b c d, a < 256 ∧ b < 256 ∧ c < 256 ∧ d < 256 ∧
    cs = joinWith '.' ([a, b, c, d].map (Nat.toDigits 10)) ∧ n = 256 * (256 * (256 * a + b) + c) + d

/-- One to four hexadecimal digits, of either case. -/
structure SpellsGroup (p : List Char) (g : Nat) : Prop where
  nonempty : p ≠ []
  short : p.length ≤ 4
  digits : ∀ c ∈ p, (hexValue? c).isSome = true
  value : hexAfter 0 p = g

/-- Groups, the last two of which may be written as IPv4. -/
inductive SpellsGroups : List (List Char) → List Nat → Prop where
  | plain {ps : List (List Char)} {gs : List Nat} : List.Forall₂ SpellsGroup ps gs → SpellsGroups ps gs
  | embedded {ps : List (List Char)} {gs : List Nat} {q : List Char} {m : Nat} :
      List.Forall₂ SpellsGroup ps gs → SpellsV4 q m → SpellsGroups (ps ++ [q]) (gs ++ [m / span 16, m % span 16])

def ofGroups (gs : List Nat) : Nat := gs.foldl (fun n g => span 16 * n + g) 0

/-- Eight groups between colons, or fewer around a gap that stands for the zeros between them. -/
inductive SpellsV6 : List Char → Nat → Prop where
  | whole {ps : List (List Char)} {gs : List Nat} :
      SpellsGroups ps gs → gs.length = 8 → SpellsV6 (joinWith ':' ps) (ofGroups gs)
  | gap {high low : List (List Char)} {gs ks : List Nat} :
      List.Forall₂ SpellsGroup high gs → SpellsGroups low ks → gs.length + ks.length ≤ 7 →
      SpellsV6 (joinWith ':' high ++ ':' :: ':' :: joinWith ':' low)
        (ofGroups (gs ++ List.replicate (8 - (gs.length + ks.length)) 0 ++ ks))

/-- The text spells the address, which has no scope id. -/
inductive Spells : List Char → Address → Prop where
  | v4 {cs : List Char} {n : Nat} : SpellsV4 cs n → Spells cs (ofNat .v4 n none)
  | v6 {cs : List Char} {n : Nat} : SpellsV6 cs n → Spells cs (ofNat .v6 n none)

end Address

/-! ## IPv4 -/

namespace Address

theorem digitChar_digit {c : Char} (h : c.isDigit = true) :
    c.toNat - '0'.toNat < 10 ∧ Nat.digitChar (c.toNat - '0'.toNat) = c := by
  simp only [Char.isDigit, Bool.and_eq_true, decide_eq_true_eq, ge_iff_le, UInt32.le_iff_toNat_le] at h
  have hlow : 48 ≤ c.toNat := h.1
  have hhigh : c.toNat ≤ 57 := h.2
  have hall : ∀ n < 58, 48 ≤ n → Nat.digitChar (n - 48) = Char.ofNat n := by decide
  refine ⟨show c.toNat - 48 < 10 by omega, ?_⟩
  have hc := hall c.toNat (by omega) hlow
  rwa [Char.ofNat_toNat] at hc

theorem decimal_concat (cs : List Char) (c : Char) : decimal (cs ++ [c]) = 10 * decimal cs + (c.toNat - '0'.toNat) := by
  simp [decimal]

/-- Digits without a zero in front are those of their number. -/
theorem toDigits_decimal {cs : List Char} (hne : cs ≠ []) (hdigits : ∀ c ∈ cs, c.isDigit = true)
    (hzero : cs = ['0'] ∨ cs.head? ≠ some '0') : Nat.toDigits 10 (decimal cs) = cs := by
  induction cs using List.reverseRecOn with
  | nil => exact absurd rfl hne
  | append_singleton cs c ih =>
    obtain ⟨hlt, hc⟩ := digitChar_digit (hdigits c (by simp))
    rw [decimal_concat]
    by_cases hcs : cs = []
    · subst hcs
      rw [show 10 * decimal [] + (c.toNat - '0'.toNat) = c.toNat - '0'.toNat from Nat.zero_add _,
        Nat.toDigits_of_lt_base hlt, hc]
      rfl
    · have hhead : cs.head? ≠ some '0' := by
        rcases hzero with h | h
        · exact absurd (congrArg List.length h) (by have := List.length_pos_iff.mpr hcs; simp; omega)
        · rwa [List.head?_append_of_ne_nil _ hcs] at h
      have hsame := ih hcs (fun d hd => hdigits d (List.mem_append_left _ hd)) (.inr hhead)
      have hpos : 0 < decimal cs := by
        rw [Nat.pos_iff_ne_zero]
        intro h0
        rw [h0] at hsame
        rw [← hsame] at hhead
        exact hhead rfl
      rw [← Nat.toDigits_append_toDigits (by decide) hpos hlt, hsame, Nat.toDigits_of_lt_base hlt, hc]

theorem readOctet_ok {cs : List Char} {o : Nat} (h : readOctet cs = .ok o) : o < 256 ∧ cs = Nat.toDigits 10 o := by
  unfold readOctet at h
  dsimp only at h
  split at h
  · cases h
  rename_i hne
  split at h
  · cases h
  rename_i hdigits
  split at h
  · cases h
  split at h
  · cases h
  rename_i hzero
  split at h
  · cases h
  cases h
  refine ⟨by omega, (toDigits_decimal (by simpa using hne) (by simpa using hdigits) ?_).symm⟩
  rw [Bool.and_eq_true, not_and_or] at hzero
  exact hzero.imp (by simp) (by simp)

/-- Reading all parts is reading each of them. -/
theorem readAll_iff {ε : Type} {read : List Char → Except ε Nat} {ps : List (List Char)} {ns : List Nat} :
    readAll read ps = .ok ns ↔ List.Forall₂ (fun p n => read p = .ok n) ps ns := by
  induction ps generalizing ns with
  | nil =>
    rw [List.forall₂_nil_left_iff]
    exact ⟨fun h => (Except.ok.inj h).symm, fun h => by rw [h]; rfl⟩
  | cons p ps ih =>
    rw [List.forall₂_cons_left_iff]
    unfold readAll
    cases hp : read p with
    | error e => simp [bind, Except.bind]
    | ok n =>
      cases hps : readAll read ps with
      | error e =>
        simp only [bind, Except.bind, reduceCtorEq, false_iff]
        rintro ⟨m, ms, -, hms, -⟩
        rw [ih.mpr hms] at hps
        cases hps
      | ok ms =>
        simp only [bind, Except.bind, Except.ok.injEq]
        constructor
        · rintro rfl
          exact ⟨n, ms, rfl, ih.mp hps, rfl⟩
        · rintro ⟨m, ms', rfl, hms, rfl⟩
          rw [ih.mpr hms] at hps
          cases hps
          rfl

theorem spellsV4_iff {cs : List Char} {n : Nat} : SpellsV4 cs n ↔ n < span 32 ∧ cs = v4Text n := by
  have hspan : span 32 = 4294967296 := rfl
  constructor
  · rintro ⟨a, b, c, d, ha, hb, hc, hd, rfl, rfl⟩
    refine ⟨by omega, ?_⟩
    have hoctets : octets (256 * (256 * (256 * a + b) + c) + d) = [a, b, c, d] := by
      simp only [octets, show span 24 = 16777216 from rfl, show span 16 = 65536 from rfl, show span 8 = 256 from rfl,
        List.cons.injEq, and_true]
      omega
    rw [v4Text, hoctets]
  · rintro ⟨hn, rfl⟩
    have hlt := octets_lt n
    exact ⟨_, _, _, _, hlt _ (by simp [octets]), hlt _ (by simp [octets]), hlt _ (by simp [octets]), hlt _ (by simp [octets]),
      rfl, by simpa [octets] using (octets_value hn).symm⟩

theorem readV4_iff {cs : List Char} {n : Nat} : readV4 cs = .ok n ↔ SpellsV4 cs n := by
  constructor
  · intro h
    unfold readV4 at h
    dsimp only at h
    split at h
    · cases h
    split at h
    · cases h
    split at h
    · cases h
    rename_i hlength
    split at h
    · rename_i os hos
      cases h
      have hparts := readAll_iff.mp hos
      obtain ⟨a, b, c, d, rfl⟩ : ∃ a b c d, os = [a, b, c, d] :=
        List.length_eq_four.mp (by rw [← hparts.length_eq]; simpa using hlength)
      simp only [List.forall₂_cons_right_iff, List.forall₂_nil_right_iff] at hparts
      obtain ⟨pa, _, ha, ⟨pb, _, hb, ⟨pc, _, hc, ⟨pd, _, hd, rfl, rfl⟩, rfl⟩, rfl⟩, hsplit⟩ := hparts
      obtain ⟨hla, rfl⟩ := readOctet_ok ha
      obtain ⟨hlb, rfl⟩ := readOctet_ok hb
      obtain ⟨hlc, rfl⟩ := readOctet_ok hc
      obtain ⟨hld, rfl⟩ := readOctet_ok hd
      refine ⟨a, b, c, d, hla, hlb, hlc, hld, ?_, by simp⟩
      have hjoin : ['.'].intercalate (cs.splitOn '.') = cs := List.intercalate_splitOn '.'
      rw [← hjoin, hsplit]
      rfl
    · cases h
  · rw [spellsV4_iff]
    rintro ⟨hn, rfl⟩
    exact readV4_v4Text hn

/-! ## IPv6 -/

theorem readGroup_iff {p : List Char} {g : Nat} : readGroup p = .ok g ↔ SpellsGroup p g := by
  unfold readGroup
  dsimp only
  constructor
  · intro h
    split at h
    · cases h
    rename_i hdigits
    split at h
    · cases h
    rename_i hshort
    cases h
    rw [Bool.or_eq_true, not_or, Bool.not_eq_true', Bool.not_eq_false] at hdigits
    exact ⟨by simpa using hdigits.1, by omega, List.all_eq_true.mp hdigits.2, rfl⟩
  · rintro ⟨hne, hshort, hdigits, rfl⟩
    have hall : (p.isEmpty || !p.all fun c => (hexValue? c).isSome) = false := by
      rw [Bool.or_eq_false_iff, Bool.not_eq_false']
      exact ⟨List.isEmpty_eq_false_iff.mpr hne, List.all_eq_true.mpr hdigits⟩
    rw [if_neg (by rw [hall]; exact Bool.false_ne_true), if_neg (by omega)]
    rfl

theorem readAll_groups {ps : List (List Char)} {gs : List Nat} : readAll readGroup ps = .ok gs ↔ List.Forall₂ SpellsGroup ps gs := by
  simp only [readAll_iff, readGroup_iff]

theorem SpellsGroup.of_hex {g : Nat} (h : g < span 16) : SpellsGroup (hex g) g := readGroup_iff.mp (readGroup_hex h)

/-- Groups are not empty and hold nothing but hexadecimal digits. -/
theorem mem_groups {ps : List (List Char)} {gs : List Nat} (h : List.Forall₂ SpellsGroup ps gs) :
    ∀ p ∈ ps, p ≠ [] ∧ ∀ c ∈ p, (hexValue? c).isSome = true := by
  induction h with
  | nil => simp
  | cons hp _ ih => exact List.forall_mem_cons.mpr ⟨⟨hp.nonempty, hp.digits⟩, ih⟩

theorem not_mem_groups {ps : List (List Char)} {gs : List Nat} (h : List.Forall₂ SpellsGroup ps gs) {c : Char}
    (hc : hexValue? c = none) : ∀ p ∈ ps, c ∉ p := by
  intro p hp hm
  have hsome := (mem_groups h p hp).2 c hm
  rw [hc] at hsome
  cases hsome

/-- A side of the gap is as it stands, or nothing where an empty part stands for it. -/
theorem orEmpty_filter {ps : List (List Char)} (hne : ps ≠ []) (h : [] ∈ ps → ps = [[]]) :
    orEmpty (ps.filter (!·.isEmpty)) = ps := by
  by_cases hm : [] ∈ ps
  · rw [h hm]
    rfl
  · have hself : ps.filter (!·.isEmpty) = ps := by
      refine List.filter_eq_self.mpr fun p hp => ?_
      rw [Bool.not_eq_true', List.isEmpty_eq_false_iff]
      rintro rfl
      exact hm hp
    rw [hself, orEmpty, if_neg hne]

/-- The only empty part between the first and the last part of a text, and what stands around it. -/
theorem exists_gap {parts : List (List Char)}
    (hlength : 1 + ((parts.drop 1).dropLast.takeWhile (!·.isEmpty)).length ≤ (parts.drop 1).dropLast.length)
    (hone : ¬ ((parts.drop 1).dropLast.filter (·.isEmpty)).length > 1) :
    ∃ first before behind last, parts = (first :: before) ++ [] :: (behind ++ [last]) ∧
      (∀ p ∈ before, p ≠ []) ∧ (∀ p ∈ behind, p ≠ []) ∧ (parts.drop 1).dropLast.takeWhile (!·.isEmpty) = before := by
  cases parts with
  | nil => simp at hlength
  | cons first rest =>
    rw [List.drop_succ_cons, List.drop_zero] at *
    rcases List.eq_nil_or_concat rest with rfl | ⟨inner, last, rfl⟩
    · simp at hlength
    rw [List.concat_eq_append, List.dropLast_concat] at *
    have hparts := List.takeWhile_append_dropWhile (p := fun p : List Char => !p.isEmpty) (l := inner)
    have hbefore : ∀ p ∈ inner.takeWhile (!·.isEmpty), p ≠ [] := fun p hp => by
      simpa using List.all_eq_true.mp List.all_takeWhile p hp
    cases hd : inner.dropWhile (!·.isEmpty) with
    | nil =>
      rw [hd, List.append_nil] at hparts
      rw [hparts] at hlength
      omega
    | cons e behind =>
      have hempty := List.head?_dropWhile_not (fun p : List Char => !p.isEmpty) inner
      rw [hd] at hempty
      obtain rfl : e = [] := by simpa using hempty
      rw [hd] at hparts
      refine ⟨first, _, behind, last, ?_, hbefore, fun p hp => ?_, rfl⟩
      · conv_lhs => rw [← hparts]
        simp
      · rintro rfl
        have hsecond : 0 < (behind.filter (·.isEmpty)).length := List.length_pos_of_mem (List.mem_filter.mpr ⟨hp, rfl⟩)
        rw [← hparts, List.filter_append, List.filter_cons_of_pos rfl, List.length_append, List.length_cons] at hone
        omega

/-- Either no part is missing, or the zeros that are missing are filled in where an empty part stands. -/
theorem fillGap_ok {shown : String} {parts full : List (List Char)} (h : fillGap shown parts = .ok full) :
    (full = parts ∧ parts.length = 8) ∨
      ∃ high low : List (List Char), (∀ p ∈ high, p ≠ []) ∧ (∀ p ∈ low, p ≠ []) ∧ high.length + low.length ≤ 7 ∧
        parts = orEmpty high ++ [] :: orEmpty low ∧
        full = high ++ List.replicate (8 - (high.length + low.length)) ['0'] ++ low := by
  unfold fillGap at h
  dsimp only at h
  split at h
  · cases h
  rename_i hone
  split at h
  · rename_i hinner
    obtain ⟨first, before, behind, last, hparts, hbefore, hbehind, htake⟩ := exists_gap hinner hone
    have hhigh : parts.take (1 + before.length) = first :: before := by
      rw [hparts, Nat.add_comm, ← List.length_cons (a := first), List.take_left]
    have hlow : parts.drop (1 + before.length + 1) = behind ++ [last] := by
      rw [hparts, Nat.add_comm 1, ← List.length_cons (a := first), ← List.drop_drop, List.drop_left]
      rfl
    rw [htake, hhigh, hlow] at h
    split at h
    · cases h
    rename_i hleading
    split at h
    · cases h
    rename_i htrailing
    split at h
    · cases h
    rename_i hcount
    cases h
    refine .inr ⟨_, _, fun p hp => ?_, fun p hp => ?_, by omega, ?_, rfl⟩
    · simpa using (List.mem_filter.mp hp).2
    · simpa using (List.mem_filter.mp hp).2
    · rw [orEmpty_filter (List.cons_ne_nil _ _) fun hm => ?_, orEmpty_filter (by simp) fun hm => ?_, hparts]
      · rcases List.mem_append.mp hm with hm | hm
        · exact absurd rfl (hbehind [] hm)
        · obtain rfl := List.mem_singleton.mp hm
          cases behind with
          | nil => rfl
          | cons b bs =>
            rw [List.getLast?_concat] at htrailing
            exact absurd (by simp) htrailing
      · rcases List.mem_cons.mp hm with rfl | hm
        · cases before with
          | nil => rfl
          | cons b bs => simp at hleading
        · exact absurd rfl (hbefore [] hm)
  · split at h
    · cases h
    rename_i hlength
    split at h
    · cases h
    split at h
    · cases h
    cases h
    exact .inl ⟨rfl, by simpa using hlength⟩

/-- An IPv4 address at the end counts as the two groups that it is written as. -/
theorem unembed_ok {shown : String} {parts full : List (List Char)} (h : unembed shown parts = .ok full) :
    full = parts ∨ ∃ front q m, parts = front ++ [q] ∧ SpellsV4 q m ∧ full = front ++ [hex (m / span 16), hex (m % span 16)] := by
  unfold unembed at h
  dsimp only at h
  split at h
  · rename_i hdot
    split at h
    · rename_i m hm
      cases h
      have hne : parts ≠ [] := by
        rintro rfl
        simp at hdot
      refine .inr ⟨parts.dropLast, parts.getLast hne, m, (List.dropLast_append_getLast hne).symm, readV4_iff.mp ?_, rfl⟩
      rwa [List.getLastD_eq_getLast?, List.getLast?_eq_some_getLast hne] at hm
    · cases h
  · cases h
    exact .inl rfl

theorem dot_mem_v4 {q : List Char} {m : Nat} (h : SpellsV4 q m) : '.' ∈ q := by
  obtain ⟨a, b, c, d, -, -, -, -, rfl, -⟩ := h
  simp [joinWith]

theorem unembed_plain {front : List (List Char)} {q : List Char} (h : '.' ∉ q) (shown : String) :
    unembed shown (front ++ [q]) = .ok (front ++ [q]) := by
  unfold unembed
  dsimp only
  rw [List.getLastD_eq_getLast?, List.getLast?_concat, Option.getD_some, List.contains_eq_mem, decide_eq_false h]
  rfl

theorem unembed_v4 {front : List (List Char)} {q : List Char} {m : Nat} (h : SpellsV4 q m) (shown : String) :
    unembed shown (front ++ [q]) = .ok (front ++ [hex (m / span 16), hex (m % span 16)]) := by
  unfold unembed
  dsimp only
  rw [List.getLastD_eq_getLast?, List.getLast?_concat, Option.getD_some, List.contains_eq_mem,
    decide_eq_true (dot_mem_v4 h), readV4_iff.mpr h, List.dropLast_concat]
  rfl

theorem halves_groups {q : List Char} {m : Nat} (h : SpellsV4 q m) :
    List.Forall₂ SpellsGroup [hex (m / span 16), hex (m % span 16)] [m / span 16, m % span 16] := by
  have hm : m < span 32 := (spellsV4_iff.mp h).1
  rw [show span 32 = span 16 * span 16 from span_add 16 16] at hm
  exact .cons (.of_hex (Nat.div_lt_of_lt_mul hm)) (.cons (.of_hex (Nat.mod_lt _ (span_pos 16))) .nil)

/-- Where groups end a text, their parts are made groups of their own. -/
theorem SpellsGroups.unembed {ps : List (List Char)} {gs : List Nat} (h : SpellsGroups ps gs) (shown : String) :
    ∃ full, List.Forall₂ SpellsGroup full gs ∧
      ∀ front, Address.unembed shown (front ++ orEmpty ps) = .ok (front ++ orEmpty full) := by
  cases h with
  | plain h =>
    refine ⟨ps, h, fun front => ?_⟩
    obtain ⟨init, last, hlast⟩ : ∃ init last, orEmpty ps = init ++ [last] := by
      rcases List.eq_nil_or_concat (orEmpty ps) with he | ⟨init, last, he⟩
      · exact absurd he (orEmpty_ne_nil ps)
      · exact ⟨init, last, by rw [he, List.concat_eq_append]⟩
    have hdot : '.' ∉ last := by
      intro hm
      have hmem : last ∈ orEmpty ps := by simp [hlast]
      rcases orEmpty_cases ps with ⟨-, he⟩ | ⟨-, he⟩ <;> rw [he] at hmem
      · rw [List.mem_singleton.mp hmem] at hm
        cases hm
      · exact not_mem_groups h (by decide) last hmem hm
    rw [hlast, ← List.append_assoc]
    exact unembed_plain hdot shown
  | embedded h hq =>
    refine ⟨_, List.rel_append h (halves_groups hq), fun front => ?_⟩
    rw [orEmpty, if_neg (by simp), orEmpty, if_neg (by simp), ← List.append_assoc, ← List.append_assoc]
    exact unembed_v4 hq shown

theorem splitOn_around_gap (before behind : List Char) : (before ++ ':' :: ':' :: behind).splitOn ':'
    = before.splitOn ':' ++ [] :: behind.splitOn ':' := by
  have hcut : ∀ cs ds : List Char, (cs ++ ':' :: ds).splitOn ':' = cs.splitOn ':' ++ ds.splitOn ':' := fun cs ds => by
    simp only [List.splitOn_eq_splitOnP]
    exact List.splitOnP_append_cons cs ds (by decide)
  rw [hcut, show ':' :: behind = [] ++ ':' :: behind from rfl, hcut, List.splitOn_nil]
  rfl

theorem splitOn_groups {ps : List (List Char)} (h : ∀ p ∈ ps, ':' ∉ p) : (joinWith ':' ps).splitOn ':' = orEmpty ps := by
  rcases orEmpty_cases ps with ⟨rfl, he⟩ | ⟨hne, he⟩ <;> rw [he]
  · rfl
  · exact splitOn_joinWith h hne

theorem not_mem_v4 {q : List Char} {m : Nat} (h : SpellsV4 q m) {c : Char} (hdot : c ≠ '.') (hdigit : c.isDigit = false) :
    c ∉ q := by
  intro hm
  rw [(spellsV4_iff.mp h).2] at hm
  rcases mem_v4Text hm with hc | hc
  · exact hdot hc
  · rw [hdigit] at hc
    cases hc

theorem SpellsGroups.colon_not_mem {ps : List (List Char)} {gs : List Nat} (h : SpellsGroups ps gs) : ∀ p ∈ ps, ':' ∉ p := by
  cases h with
  | plain h => exact not_mem_groups h (by decide)
  | embedded h hq =>
    refine List.forall_mem_append.mpr ⟨not_mem_groups h (by decide), ?_⟩
    exact List.forall_mem_singleton.mpr (not_mem_v4 hq (by decide) (by decide))

theorem SpellsGroups.length_le {ps : List (List Char)} {gs : List Nat} (h : SpellsGroups ps gs) : gs.length ≤ ps.length + 1 := by
  cases h with
  | plain h => rw [h.length_eq]; exact Nat.le_succ _
  | embedded h hq => simp [h.length_eq]

/-- A text is read as its parts are. -/
theorem readV6_of_split {cs : List Char} {parts named full : List (List Char)} {gs : List Nat} (hsplit : cs.splitOn ':' = parts)
    (hlow : 3 ≤ parts.length) (hunembed : unembed (String.ofList cs) parts = .ok named) (hhigh : named.length ≤ 9)
    (hfill : fillGap (String.ofList cs) named = .ok full) (hgroups : List.Forall₂ SpellsGroup full gs) :
    readV6 cs = .ok (ofGroups gs) := by
  have hne : cs.isEmpty = false := by
    rw [List.isEmpty_eq_false_iff]
    rintro rfl
    rw [← hsplit] at hlow
    simp at hlow
  unfold readV6
  simp only [hne, hsplit, hunembed, hfill, readAll_groups.mpr hgroups, Bool.false_eq_true, if_false,
    show ¬ parts.length < 3 by omega, show ¬ named.length > 9 by omega]
  rfl

theorem zeros_groups (r : Nat) : List.Forall₂ SpellsGroup (List.replicate r ['0']) (List.replicate r 0) :=
  readAll_groups.mp (readAll_zeros r)

theorem readV6_spelled {cs : List Char} {n : Nat} (h : SpellsV6 cs n) : readV6 cs = .ok n := by
  cases h with
  | @whole ps gs h hlength =>
    obtain ⟨full, hfull, hunembed⟩ := h.unembed (String.ofList (joinWith ':' ps))
    have height : full.length = 8 := hfull.length_eq.trans hlength
    have hsame : orEmpty full = full := by
      rw [orEmpty, if_neg (List.ne_nil_of_length_pos (by omega))]
    have hmany : 3 ≤ (orEmpty ps).length := by
      have hle := h.length_le
      rw [orEmpty, if_neg (List.ne_nil_of_length_pos (by omega))]
      omega
    have hnamed := hunembed []
    rw [List.nil_append, List.nil_append, hsame] at hnamed
    exact readV6_of_split (splitOn_groups h.colon_not_mem) hmany hnamed (by omega)
      (fillGap_whole height fun p hp => (mem_groups hfull p hp).1) hfull
  | @gap high low gs ks hhigh hlow hlength =>
    obtain ⟨full, hfull, hunembed⟩ := hlow.unembed (String.ofList (joinWith ':' high ++ ':' :: ':' :: joinWith ':' low))
    have hlh := hhigh.length_eq
    have hlf := hfull.length_eq
    have hsplit : (joinWith ':' high ++ ':' :: ':' :: joinWith ':' low).splitOn ':' = (orEmpty high ++ [[]]) ++ orEmpty low := by
      rw [splitOn_around_gap, splitOn_groups (not_mem_groups hhigh (by decide)), splitOn_groups hlow.colon_not_mem]
      simp
    have hfill := fillGap_gap (String.ofList (joinWith ':' high ++ ':' :: ':' :: joinWith ':' low))
      (fun p hp => (mem_groups hhigh p hp).1) (fun p hp => (mem_groups hfull p hp).1) (by omega)
    rw [hlh, hlf] at hfill
    have hgroups := List.rel_append (List.rel_append hhigh (zeros_groups (8 - (gs.length + ks.length)))) hfull
    have hh := length_orEmpty high
    have hl := length_orEmpty low
    have hf := length_orEmpty full
    refine readV6_of_split hsplit ?_ (hunembed _) ?_ (by simpa using hfill) hgroups
    · simp only [List.length_append, List.length_singleton]
      omega
    · simp only [List.length_append, List.length_singleton]
      omega

theorem groups_unique {ps : List (List Char)} {gs gs' : List Nat} (h : List.Forall₂ SpellsGroup ps gs)
    (h' : List.Forall₂ SpellsGroup ps gs') : gs = gs' :=
  Except.ok.inj ((readAll_groups.mpr h).symm.trans (readAll_groups.mpr h'))

/-- What two rows of parts spell together is what each of them spells. -/
theorem split_groups {ps qs : List (List Char)} {ns : List Nat} (h : List.Forall₂ SpellsGroup (ps ++ qs) ns) :
    ∃ gs ks, ns = gs ++ ks ∧ List.Forall₂ SpellsGroup ps gs ∧ List.Forall₂ SpellsGroup qs ks := by
  induction ps generalizing ns with
  | nil => exact ⟨[], ns, rfl, .nil, h⟩
  | cons p ps ih =>
    obtain ⟨n, ns', hp, hrest, rfl⟩ := List.forall₂_cons_left_iff.mp h
    obtain ⟨gs, ks, rfl, hgs, hks⟩ := ih hrest
    exact ⟨n :: gs, ks, rfl, .cons hp hgs, hks⟩

/-- Groups around a row of zeros. -/
theorem split_filled {high low : List (List Char)} {r : Nat} {ns : List Nat}
    (h : List.Forall₂ SpellsGroup (high ++ List.replicate r ['0'] ++ low) ns) :
    ∃ gs ks, ns = gs ++ List.replicate r 0 ++ ks ∧ List.Forall₂ SpellsGroup high gs ∧ List.Forall₂ SpellsGroup low ks := by
  obtain ⟨filled, ks, rfl, hfilled, hlow⟩ := split_groups h
  obtain ⟨gs, zeros, rfl, hhigh, hzeros⟩ := split_groups hfilled
  rw [groups_unique hzeros (zeros_groups r)]
  exact ⟨gs, ks, rfl, hhigh, hlow⟩

/-- Groups that end in the two that an IPv4 address is written as. -/
theorem split_embedded {front : List (List Char)} {q : List Char} {m : Nat} (hq : SpellsV4 q m) {ns : List Nat}
    (h : List.Forall₂ SpellsGroup (front ++ [hex (m / span 16), hex (m % span 16)]) ns) : SpellsGroups (front ++ [q]) ns := by
  obtain ⟨gs, ks, rfl, hfront, hends⟩ := split_groups h
  rw [groups_unique hends (halves_groups hq)]
  exact .embedded hfront hq

theorem joinWith_append {ps qs : List (List Char)} (hp : ps ≠ []) (hq : qs ≠ []) :
    joinWith ':' (ps ++ qs) = joinWith ':' ps ++ ':' :: joinWith ':' qs := by
  induction ps with
  | nil => exact absurd rfl hp
  | cons p ps ih =>
    cases ps with
    | nil =>
      rw [List.singleton_append, joinWith, List.intercalate_cons_of_ne_nil hq, joinWith, List.intercalate_singleton]
      simp [joinWith]
    | cons p' ps =>
      rw [List.cons_append, joinWith, List.intercalate_cons_of_ne_nil (by simp), joinWith, List.intercalate_cons_of_ne_nil (by simp)]
      have hrest := ih (by simp)
      unfold joinWith at hrest
      rw [hrest]
      simp [joinWith]

theorem joinWith_orEmpty (ps : List (List Char)) : joinWith ':' (orEmpty ps) = joinWith ':' ps := by
  rcases orEmpty_cases ps with ⟨rfl, he⟩ | ⟨-, he⟩ <;> rw [he]
  rfl

theorem joinWith_around_gap (high low : List (List Char)) :
    joinWith ':' (orEmpty high ++ [] :: orEmpty low) = joinWith ':' high ++ ':' :: ':' :: joinWith ':' low := by
  rw [joinWith_append (orEmpty_ne_nil high) (List.cons_ne_nil _ _), show [] :: orEmpty low = [[]] ++ orEmpty low from rfl,
    joinWith_append (List.cons_ne_nil _ _) (orEmpty_ne_nil low), joinWith_orEmpty, joinWith_orEmpty]
  rfl

/-- The two groups at the end stand behind the gap, if there is one. -/
theorem gap_before_ends {front high low : List (List Char)} {a b : List Char} (ha : a ≠ []) (hb : b ≠ [])
    (h : front ++ [a, b] = orEmpty high ++ [] :: orEmpty low) :
    ∃ behind, low = behind ++ [a, b] ∧ front = orEmpty high ++ [] :: behind := by
  rcases List.append_eq_append_iff.mp h with ⟨more, -, hends⟩ | ⟨more, rfl, hends⟩
  · have hm : [] ∈ [a, b] := by rw [hends]; simp
    rcases List.mem_cons.mp hm with rfl | hm
    · exact absurd rfl ha
    · exact absurd (List.mem_singleton.mp hm).symm hb
  · cases more with
    | nil => exact absurd (List.cons.inj hends).1.symm ha
    | cons e behind =>
      obtain ⟨rfl, hlow⟩ := List.cons.inj hends
      rcases orEmpty_cases low with ⟨-, he⟩ | ⟨-, he⟩ <;> rw [he] at hlow
      · have hlength := congrArg List.length hlow
        simp at hlength
      · exact ⟨behind, hlow, rfl⟩

theorem spelled_of_readV6 {cs : List Char} {n : Nat} (h : readV6 cs = .ok n) : SpellsV6 cs n := by
  unfold readV6 at h
  dsimp only at h
  split at h
  · cases h
  split at h
  · cases h
  split at h
  · cases h
  rename_i named hunembed
  split at h
  · cases h
  split at h
  · cases h
  rename_i full hfill
  split at h
  · rename_i gs hread
    cases h
    have hgroups := readAll_groups.mp hread
    have hjoin : joinWith ':' (cs.splitOn ':') = cs := List.intercalate_splitOn ':'
    rw [← hjoin]
    rcases unembed_ok hunembed with rfl | ⟨front, q, m, hparts, hq, rfl⟩ <;>
      rcases fillGap_ok hfill with ⟨rfl, hlength⟩ | ⟨high, low, hhigh, hlow, hcount, hnamed, rfl⟩
    · exact .whole (.plain hgroups) (hgroups.length_eq.symm.trans hlength)
    · obtain ⟨gs, ks, rfl, hgs, hks⟩ := split_filled hgroups
      rw [hnamed, joinWith_around_gap, hgs.length_eq, hks.length_eq]
      exact .gap hgs (.plain hks) (by rw [← hgs.length_eq, ← hks.length_eq]; exact hcount)
    · rw [hparts]
      exact .whole (split_embedded hq hgroups) (hgroups.length_eq.symm.trans hlength)
    · obtain ⟨behind, rfl, rfl⟩ := gap_before_ends (hex_ne_nil _) (hex_ne_nil _) hnamed
      obtain ⟨gs, ks, rfl, hgs, hks⟩ := split_filled hgroups
      have hends := split_embedded hq hks
      have hsides : orEmpty (behind ++ [q]) = behind ++ [q] := by rw [orEmpty, if_neg (by simp)]
      rw [hparts, List.append_assoc, List.cons_append, ← hsides, joinWith_around_gap, hgs.length_eq, hks.length_eq]
      exact .gap hgs hends (by rw [← hgs.length_eq, ← hks.length_eq]; exact hcount)
  · cases h

theorem readV6_iff {cs : List Char} {n : Nat} : readV6 cs = .ok n ↔ SpellsV6 cs n := ⟨spelled_of_readV6, readV6_spelled⟩

theorem mem_spelledGroups {ps : List (List Char)} {gs : List Nat} (h : SpellsGroups ps gs) :
    ∀ p ∈ ps, ∀ c ∈ p, c = '.' ∨ (hexValue? c).isSome = true := by
  cases h with
  | plain h => exact fun p hp c hc => .inr ((mem_groups h p hp).2 c hc)
  | embedded h hq =>
    refine List.forall_mem_append.mpr ⟨fun p hp c hc => .inr ((mem_groups h p hp).2 c hc), List.forall_mem_singleton.mpr ?_⟩
    intro c hc
    rw [(spellsV4_iff.mp hq).2] at hc
    rcases mem_v4Text hc with hc | hc
    · exact .inl hc
    · exact .inr (hexValue?_digit hc)

theorem mem_spelledV6 {cs : List Char} {n : Nat} (h : SpellsV6 cs n) {c : Char} (hc : c ∈ cs) :
    c = ':' ∨ c = '.' ∨ (hexValue? c).isSome = true := by
  have hjoin : ∀ {ps gs}, SpellsGroups ps gs → c ∈ joinWith ':' ps → c = ':' ∨ c = '.' ∨ (hexValue? c).isSome = true := by
    intro ps gs h hc
    rcases mem_intercalate hc with hc | ⟨p, hp, hc⟩
    · exact .inl hc
    · exact .inr (mem_spelledGroups h p hp c hc)
  cases h with
  | whole h hlength => exact hjoin h hc
  | gap hhigh hlow hlength =>
    rcases List.mem_append.mp hc with hc | hc
    · exact hjoin (.plain hhigh) hc
    · simp only [List.mem_cons] at hc
      rcases hc with hc | hc | hc
      · exact .inl hc
      · exact .inl hc
      · exact hjoin hlow hc

/-- Characters that no IPv6 address is spelled with. -/
theorem not_mem_spelledV6 {cs : List Char} {n : Nat} (h : SpellsV6 cs n) {c : Char} (hcolon : c ≠ ':') (hdot : c ≠ '.')
    (hdigit : hexValue? c = none) : c ∉ cs := by
  intro hm
  rcases mem_spelledV6 h hm with hc | hc | hc
  · exact hcolon hc
  · exact hdot hc
  · rw [hdigit] at hc
    cases hc

theorem spellsV4_or_V6 {cs : List Char} {n m : Nat} (h4 : SpellsV4 cs n) (h6 : SpellsV6 cs m) : False := by
  have hcolon : ':' ∉ cs := not_mem_v4 h4 (by decide) (by decide)
  have hsingle : cs.splitOn ':' = [cs] := by
    rw [List.splitOn_eq_splitOnP]
    exact List.splitOnP_eq_singleton fun c hc => beq_eq_false_iff_ne.mpr fun e => hcolon (e ▸ hc)
  have hread := readV6_spelled h6
  unfold readV6 at hread
  rw [hsingle] at hread
  dsimp only at hread
  split at hread
  · cases hread
  · cases hread

theorem readV4_of_v6 {cs : List Char} {n : Nat} (h : SpellsV6 cs n) : ∃ e, readV4 cs = .error e := by
  cases hread : readV4 cs with
  | error e => exact ⟨e, rfl⟩
  | ok m => exact (spellsV4_or_V6 (readV4_iff.mp hread) h).elim

/-- Without a percent sign there is no scope id. -/
theorem readScoped_iff {cs : List Char} (hcs : '%' ∉ cs) {n : Nat} {scope : Option String} :
    readScoped cs = .ok (n, scope) ↔ SpellsV6 cs n ∧ scope = none := by
  have hcut : cutScope cs = .ok (cs, none) := by
    have hfree : ∀ c ∈ cs, (c != '%') = true := fun c hc => bne_iff_ne.mpr fun e => hcs (e ▸ hc)
    have hdrop : cs.dropWhile (· != '%') = [] := List.dropWhile_eq_nil_iff.mpr hfree
    unfold cutScope
    rw [hdrop]
  unfold readScoped
  rw [hcut]
  dsimp only
  constructor
  · intro h
    split at h
    · cases h
    cases hread : readV6 cs with
    | error e => rw [hread] at h; cases h
    | ok m =>
      rw [hread] at h
      cases h
      exact ⟨readV6_iff.mp hread, rfl⟩
  · rintro ⟨h, rfl⟩
    have hslash : cs.contains '/' = false := by
      rw [List.contains_eq_mem, decide_eq_false (not_mem_spelledV6 h (by decide) (by decide) (by decide))]
    rw [hslash, readV6_spelled h]
    rfl

/-- What the two readers make of a text without a percent sign. -/
theorem read_cases {cs : List Char} (hcs : '%' ∉ cs) :
    (∃ n e, SpellsV4 cs n ∧ readV4 cs = .ok n ∧ readScoped cs = .error e) ∨
      (∃ n e, SpellsV6 cs n ∧ readV4 cs = .error e ∧ readScoped cs = .ok (n, none)) ∨
      ∃ e e', readV4 cs = .error e ∧ readScoped cs = .error e' := by
  cases h6 : readScoped cs with
  | error e' =>
    cases h4 : readV4 cs with
    | ok n => exact .inl ⟨n, e', readV4_iff.mp h4, rfl, rfl⟩
    | error e => exact .inr (.inr ⟨e, e', rfl, rfl⟩)
  | ok r =>
    obtain ⟨n, scope⟩ := r
    obtain ⟨h, rfl⟩ := (readScoped_iff hcs).mp h6
    obtain ⟨e, he⟩ := readV4_of_v6 h
    exact .inr (.inl ⟨n, e, h, he, rfl⟩)

/-! ## Addresses -/

theorem Spells.unscoped {cs : List Char} {a : Address} (h : Spells cs a) : a.scope = none := by
  cases h <;> rfl

/-- The characters that an address without a scope id is spelled with. -/
theorem Spells.mem {cs : List Char} {a : Address} (h : Spells cs a) {c : Char} (hc : c ∈ cs) :
    c = ':' ∨ c = '.' ∨ (hexValue? c).isSome = true := by
  cases h with
  | v4 h =>
    obtain ⟨-, rfl⟩ := spellsV4_iff.mp h
    rcases mem_v4Text hc with hc | hc
    · exact .inr (.inl hc)
    · exact .inr (.inr (hexValue?_digit hc))
  | v6 h => exact mem_spelledV6 h hc

theorem Spells.plain {cs : List Char} {a : Address} (h : Spells cs a) {c : Char} (hc : c ∈ cs) :
    isBlank c = false ∧ c ≠ '%' := by
  rcases h.mem hc with rfl | rfl | hhex
  · decide
  · decide
  · refine ⟨(plain_of_hex hhex).1, ?_⟩
    rintro rfl
    cases hhex

theorem ofText?_spelled {s : String} {a : Address} (h : Spells s.toList a) : ofText? s = some a := by
  unfold ofText?
  cases h with
  | v4 h => rw [readV4_iff.mpr h]
  | v6 h =>
    obtain ⟨e, he⟩ := readV4_of_v6 h
    have hpercent : '%' ∉ s.toList := fun hm => ((Spells.v6 h).plain hm).2 rfl
    rw [he, (readScoped_iff hpercent).mpr ⟨h, rfl⟩]

/-- An address without a scope id is spelled by its text. -/
theorem spells_text {a : Address} (ha : a.scope = none) : Spells a.text.toList a := by
  obtain ⟨family, value, scope, hvalue⟩ := a
  obtain rfl : scope = none := ha
  rw [text, String.toList_ofList]
  cases family with
  | v4 =>
    have hspelled := Spells.v4 (readV4_iff.mp (readV4_v4Text hvalue))
    simpa only [ofNat, Nat.mod_eq_of_lt hvalue, valueText] using hspelled
  | v6 =>
    have hspelled := Spells.v6 (readV6_iff.mp (readV6_v6Text hvalue))
    simpa only [ofNat, Nat.mod_eq_of_lt hvalue, valueText, List.append_nil] using hspelled

end Address

end SenderPolicy
