/-
  SenderPolicy.Proofs.Address.ReadBack — what is written of an address or a network reads back.

  The text of an IPv4 value is four octets; that of an IPv6 value eight groups, of which the longest run
  of zeros may be left out. A scope id survives if it could have been read in the first place: it belongs
  to IPv6, is not empty and holds neither a slash nor another `%`.
  - `readV4_v4Text`, `readV6_v6Text`: the value of a written address is the value that was written.
  - `ofText?_normal`: the normal form of a network spells that network.
  - `normal_injective`: so two networks with one normal form are the same.
  - `sortTexts_normal`: a list of normal forms is sorted as its networks are.
  - `plain_normal`: without a scope id it is one word, with nothing in it to be quoted.
-/

import Mathlib.Data.List.TakeWhile
import SenderPolicy.Address.Lists
import SenderPolicy.Proofs.Text.Words

namespace SenderPolicy

open Text

/-! ## Digits -/

theorem octet_reads_back : ∀ o < 256, (Address.readOctet (Nat.toDigits 10 o)).toOption = some o := by decide +kernel

theorem readOctet_toDigits {o : Nat} (h : o < 256) : Address.readOctet (Nat.toDigits 10 o) = .ok o := by
  have ho := octet_reads_back o h
  cases hr : Address.readOctet (Nat.toDigits 10 o) with
  | error e => rw [hr] at ho; cases ho
  | ok n => rw [hr] at ho; exact congrArg Except.ok (Option.some.inj ho)

theorem length?_toDigits_v4 : ∀ l < 33, Network.length? 32 (Nat.toDigits 10 l) = some l := by decide +kernel

theorem length?_toDigits_v6 : ∀ l < 129, Network.length? 128 (Nat.toDigits 10 l) = some l := by decide +kernel

theorem length?_toDigits (family : Family) {l : Nat} (h : l ≤ family.width) :
    Network.length? family.width (Nat.toDigits 10 l) = some l := by
  cases family with
  | v4 => exact length?_toDigits_v4 l (Nat.lt_succ_of_le h)
  | v6 => exact length?_toDigits_v6 l (Nat.lt_succ_of_le h)

theorem not_mem_toDigits {c : Char} (hc : c.isDigit = false) (n : Nat) : c ∉ Nat.toDigits 10 n := by
  intro h
  rw [Nat.isDigit_of_mem_toDigits (by decide) (by decide) h] at hc
  cases hc

theorem hexDigit_value : ∀ d < 16, (hexValue? (Nat.digitChar d)).isSome = true ∧
    (hexValue? (Nat.digitChar d)).getD 0 = d := by decide

/-- What a text of hexadecimal digits spells, behind what was read before it. -/
def hexAfter (n : Nat) (cs : List Char) : Nat := cs.foldl (fun n c => 16 * n + (hexValue? c).getD 0) n

theorem toDigits_hex (n : Nat) :
    (∀ c ∈ hex n, (hexValue? c).isSome = true) ∧ hexAfter 0 (hex n) = n := by
  induction n using Nat.strongRecOn with
  | ind n ih =>
    by_cases h : n < 16
    · obtain ⟨h1, h2⟩ := hexDigit_value n h
      rw [hex, Nat.toDigits_of_lt_base h]
      exact ⟨by simpa using h1, by simpa [hexAfter] using h2⟩
    · obtain ⟨h1, h2⟩ := ih (n / 16) (by omega)
      obtain ⟨h3, h4⟩ := hexDigit_value (n % 16) (by omega)
      have hs : hex n = hex (n / 16) ++ [Nat.digitChar (n % 16)] := Nat.toDigits_of_base_le (by decide) (by omega)
      rw [hs]
      refine ⟨fun c hc => ?_, ?_⟩
      · rcases List.mem_append.mp hc with hc | hc
        · exact h1 c hc
        · rw [List.mem_singleton.mp hc]; exact h3
      · have : hexAfter 0 (hex (n / 16) ++ [Nat.digitChar (n % 16)])
            = 16 * hexAfter 0 (hex (n / 16)) + (hexValue? (Nat.digitChar (n % 16))).getD 0 := by
          simp [hexAfter]
        rw [this, h2, h4]
        omega

theorem hex_ne_nil (n : Nat) : hex n ≠ [] := Nat.toDigits_ne_nil

theorem not_mem_hex {c : Char} (hc : hexValue? c = none) (n : Nat) : c ∉ hex n := by
  intro h
  have := (toDigits_hex n).1 c h
  rw [hc] at this
  cases this

theorem readGroup_hex {g : Nat} (h : g < span 16) : Address.readGroup (hex g) = .ok g := by
  obtain ⟨h1, h2⟩ := toDigits_hex g
  have hl : (hex g).length ≤ 4 := (Nat.length_toDigits_le_iff (by decide) (by decide)).mpr h
  have hd : (hex g).all (fun c => (hexValue? c).isSome) = true := List.all_eq_true.mpr h1
  have he : (hex g).isEmpty = false := by simpa using hex_ne_nil g
  unfold Address.readGroup
  simp only [he, hd, Bool.not_true, Bool.or_self, Bool.false_eq_true, if_false, show ¬ (hex g).length > 4 by omega]
  exact congrArg Except.ok h2

/-! ## Lists of parts -/

theorem splitOn_joinWith {separator : Char} {parts : List (List Char)} (h : ∀ p ∈ parts, separator ∉ p)
    (hne : parts ≠ []) : (Address.joinWith separator parts).splitOn separator = parts :=
  List.splitOn_intercalate separator h hne

/-- A text that does not hold the separator stays together, in front of the first part of the rest. -/
theorem splitOn_append {separator : Char} {cs : List Char} (h : separator ∉ cs) (rest : List Char) :
    ∃ first others, rest.splitOn separator = first :: others ∧
      (cs ++ rest).splitOn separator = (cs ++ first) :: others := by
  obtain ⟨first, others, hr⟩ := List.exists_cons_of_ne_nil (List.splitOn_ne_nil separator rest)
  refine ⟨first, others, hr, ?_⟩
  induction cs with
  | nil => exact hr
  | cons c cs ih =>
    simp only [List.mem_cons, not_or] at h
    rw [List.cons_append, List.splitOn_cons_eq_if_modifyHead, ih h.2]
    have hc : (c == separator) = false := beq_eq_false_iff_ne.mpr fun e => h.1 e.symm
    simp [hc]

theorem readAll_map {ε : Type} {read : List Char → Except ε Nat} {write : Nat → List Char} {ns : List Nat}
    (h : ∀ n ∈ ns, read (write n) = .ok n) : Address.readAll read (ns.map write) = .ok ns := by
  induction ns with
  | nil => rfl
  | cons n ns ih =>
    simp only [List.map_cons, Address.readAll, h n List.mem_cons_self, ih fun m hm => h m (List.mem_cons_of_mem _ hm),
      bind, Except.bind]

/-! ## IPv4 -/

theorem mem_v4Text {c : Char} {n : Nat} (h : c ∈ Address.v4Text n) : c = '.' ∨ c.isDigit = true := by
  rcases mem_intercalate h with h | ⟨p, hp, hc⟩
  · exact Or.inl h
  · obtain ⟨o, _, rfl⟩ := List.mem_map.mp hp
    exact Or.inr (Nat.isDigit_of_mem_toDigits (by decide) (by decide) hc)

theorem octets_value {n : Nat} (h : n < span 32) : (Address.octets n).foldl (fun n o => 256 * n + o) 0 = n := by
  have h' : n < 4294967296 := h
  show 256 * (256 * (256 * (256 * 0 + n / 16777216 % 256) + n / 65536 % 256) + n / 256 % 256) + n % 256 = n
  omega

theorem octets_lt (n : Nat) : ∀ o ∈ Address.octets n, o < 256 := by
  intro o ho
  simp only [Address.octets, List.mem_cons, List.not_mem_nil, or_false] at ho
  omega

theorem readV4_v4Text {n : Nat} (h : n < span 32) : Address.readV4 (Address.v4Text n) = .ok n := by
  have hslash : (Address.v4Text n).contains '/' = false := by
    rw [List.contains_eq_mem, decide_eq_false_iff_not]
    intro hm
    rcases mem_v4Text hm with h | h <;> exact absurd h (by decide)
  have hparts : (Address.v4Text n).splitOn '.' = (Address.octets n).map (Nat.toDigits 10) := by
    refine splitOn_joinWith (fun p hp => ?_) (by simp [Address.octets])
    obtain ⟨o, _, rfl⟩ := List.mem_map.mp hp
    exact not_mem_toDigits (by decide) o
  have hne : (Address.v4Text n).isEmpty = false := by
    rw [List.isEmpty_eq_false_iff]
    intro e
    rw [e] at hparts
    simp [Address.octets] at hparts
  have hread : Address.readAll Address.readOctet ((Address.octets n).map (Nat.toDigits 10)) = .ok (Address.octets n) :=
    readAll_map fun o ho => readOctet_toDigits (octets_lt n o ho)
  have hlen : ((Address.octets n).map (Nat.toDigits 10)).length = 4 := by simp [Address.octets]
  unfold Address.readV4
  simp only [hslash, hne, hparts, hlen, hread, Bool.false_eq_true, if_false, bne_self_eq_false, octets_value h]

theorem readOctet_error {cs : List Char} {c : Char} (hm : c ∈ cs) (hc : c.isDigit = false) :
    ∃ e, Address.readOctet cs = .error e := by
  have he : cs.isEmpty = false := by rw [List.isEmpty_eq_false_iff]; exact List.ne_nil_of_mem hm
  have hd : cs.all Char.isDigit = false := List.all_eq_false.mpr ⟨c, hm, by simp [hc]⟩
  refine ⟨.notDecimal (String.ofList cs), ?_⟩
  simp [Address.readOctet, he, hd]

/-- A colon before the first dot keeps a text from being IPv4. -/
theorem readV4_error {cs rest : List Char} (hdot : '.' ∉ cs) (hcolon : ':' ∈ cs) :
    ∃ e, Address.readV4 (cs ++ rest) = .error e := by
  obtain ⟨first, others, _, hs⟩ := splitOn_append hdot rest
  obtain ⟨e, he⟩ := readOctet_error (List.mem_append_left first hcolon) (by decide)
  unfold Address.readV4
  rw [hs]
  simp only [Address.readAll, he, bind, Except.bind]
  repeat' split
  all_goals exact ⟨_, rfl⟩

/-! ## IPv6 -/

theorem eq_zeros_append {gs : List Nat} {r : Nat} (h : r ≤ Address.zeroRun gs) : gs = List.replicate r 0 ++ gs.drop r := by
  induction r generalizing gs with
  | zero => simp
  | succ r ih =>
    cases gs with
    | nil => simp [Address.zeroRun] at h
    | cons g gs =>
      by_cases hg : g = 0
      · subst hg
        have : r ≤ Address.zeroRun gs := by simpa [Address.zeroRun] using h
        rw [List.replicate_succ, List.cons_append, List.drop_succ_cons, ← ih this]
      · simp [Address.zeroRun, hg] at h

/-- Where the longest run is said to begin there are as many zeros as it is said to have. -/
theorem longestRun_le (gs : List Nat) :
    (Address.longestRun gs).2 ≤ Address.zeroRun (gs.drop (Address.longestRun gs).1) := by
  unfold Address.longestRun
  generalize List.range gs.length = is
  have hfold : ∀ (best : Nat × Nat), best.2 ≤ Address.zeroRun (gs.drop best.1) →
      (is.foldl (fun best i => if Address.zeroRun (gs.drop i) > best.2 then (i, Address.zeroRun (gs.drop i)) else best)
        best).2 ≤ Address.zeroRun (gs.drop (is.foldl (fun best i =>
          if Address.zeroRun (gs.drop i) > best.2 then (i, Address.zeroRun (gs.drop i)) else best) best).1) := by
    induction is with
    | nil => exact fun _ h => h
    | cons i is ih =>
      intro best h
      simp only [List.foldl_cons]
      split
      · exact ih _ (Nat.le_refl _)
      · exact ih _ h
  exact hfold (0, 0) (Nat.zero_le _)

theorem longestRun_split (gs : List Nat) :
    gs = gs.take (Address.longestRun gs).1 ++ List.replicate (Address.longestRun gs).2 0
      ++ gs.drop ((Address.longestRun gs).1 + (Address.longestRun gs).2) := by
  have h := eq_zeros_append (longestRun_le gs)
  rw [List.append_assoc, ← List.drop_drop, ← h, List.take_append_drop]

theorem groups_lt (n : Nat) : ∀ g ∈ Address.groups n, g < span 16 := by
  intro g hg
  obtain ⟨i, _, rfl⟩ := List.mem_map.mp hg
  exact Nat.mod_lt _ (span_pos 16)

theorem length_groups (n : Nat) : (Address.groups n).length = 8 := by simp [Address.groups]

theorem span_add (a b : Nat) : span (a + b) = span a * span b := Nat.pow_add 2 a b

/-- One group more spells what is left of the number when sixteen bits less are cut off. -/
theorem groups_value_step (n k : Nat) :
    span 16 * (n / span (16 * (k + 1))) + n / span (16 * k) % span 16 = n / span (16 * k) := by
  rw [Nat.mul_succ, span_add, ← Nat.div_div_eq_div_mul]
  exact Nat.div_add_mod _ _

theorem groups_value {n : Nat} (h : n < span 128) :
    (Address.groups n).foldl (fun n g => span 16 * n + g) 0 = n := by
  have hstep := groups_value_step n
  have hfirst : span 16 * 0 + n / span (16 * 7) % span 16 = n / span (16 * 7) := by
    have hs := hstep 7
    rwa [Nat.div_eq_of_lt (show n < span (16 * (7 + 1)) from h)] at hs
  have : Address.groups n = [n / span (16 * 7) % span 16, n / span (16 * 6) % span 16, n / span (16 * 5) % span 16,
      n / span (16 * 4) % span 16, n / span (16 * 3) % span 16, n / span (16 * 2) % span 16,
      n / span (16 * 1) % span 16, n / span (16 * 0) % span 16] := rfl
  rw [this]
  simp only [List.foldl_cons, List.foldl_nil]
  rw [hfirst, hstep 6, hstep 5, hstep 4, hstep 3, hstep 2, hstep 1, hstep 0]
  exact Nat.div_one n

/-- The parts between colons: no groups at all leave one empty part. -/
def partsOf (gs : List Nat) : List (List Char) := if gs = [] then [[]] else gs.map hex

theorem splitOn_groupsText (gs : List Nat) : (Address.groupsText gs).splitOn ':' = partsOf gs := by
  unfold partsOf
  split
  · rename_i h; subst h; rfl
  · rename_i h
    refine splitOn_joinWith (fun p hp => ?_) (by simpa using h)
    obtain ⟨g, _, rfl⟩ := List.mem_map.mp hp
    exact not_mem_hex (by decide) g

theorem mem_groupsText {c : Char} {gs : List Nat} (h : c ∈ Address.groupsText gs) :
    c = ':' ∨ (hexValue? c).isSome = true := by
  rcases mem_intercalate h with h | ⟨p, hp, hc⟩
  · exact Or.inl h
  · obtain ⟨g, _, rfl⟩ := List.mem_map.mp hp
    exact Or.inr ((toDigits_hex g).1 c hc)

theorem mem_v6Text {c : Char} {n : Nat} (h : c ∈ Address.v6Text n) : c = ':' ∨ (hexValue? c).isSome = true := by
  unfold Address.v6Text at h
  dsimp only at h
  split at h
  · exact mem_groupsText h
  · rcases List.mem_append.mp h with h | h
    · exact mem_groupsText h
    · simp only [List.mem_cons] at h
      rcases h with h | h | h
      · exact Or.inl h
      · exact Or.inl h
      · exact mem_groupsText h

theorem not_mem_v6Text {c : Char} (hc : hexValue? c = none) (hcolon : c ≠ ':') (n : Nat) : c ∉ Address.v6Text n := by
  intro h
  rcases mem_v6Text h with h | h
  · exact hcolon h
  · rw [hc] at h; cases h

theorem fillGap_whole {shown : String} {parts : List (List Char)} (hl : parts.length = 8) (hne : ∀ p ∈ parts, p ≠ []) :
    Address.fillGap shown parts = .ok parts := by
  have hinner : ∀ p ∈ (parts.drop 1).dropLast, p ≠ [] := fun p hp =>
    hne p (List.mem_of_mem_drop ((List.dropLast_sublist _).subset hp))
  have hfilter : (parts.drop 1).dropLast.filter (·.isEmpty) = [] :=
    List.filter_eq_nil_iff.mpr fun p hp => by simpa using hinner p hp
  have hwhole : (parts.drop 1).dropLast.takeWhile (!·.isEmpty) = (parts.drop 1).dropLast :=
    List.takeWhile_eq_self_iff.mpr fun p hp => by simpa using hinner p hp
  have hhead : (parts.head? == some []) = false := by
    cases parts with
    | nil => rfl
    | cons p ps => simpa using hne p List.mem_cons_self
  have hlast : (parts.getLast? == some []) = false := by
    rw [beq_eq_false_iff_ne]
    exact fun e => hne [] (List.mem_of_getLast? e) rfl
  unfold Address.fillGap
  simp only [hfilter, hwhole, hl, hhead, hlast, List.length_nil, Nat.not_lt_zero, if_false, bne_self_eq_false,
    Bool.false_eq_true]
  split
  · omega
  · rfl

/-- The parts around a gap: where no group stands there is one empty part. -/
def orEmpty (ps : List (List Char)) : List (List Char) := if ps = [] then [[]] else ps

theorem orEmpty_cases (ps : List (List Char)) : ps = [] ∧ orEmpty ps = [[]] ∨ ps ≠ [] ∧ orEmpty ps = ps := by
  unfold orEmpty
  split
  · exact Or.inl ⟨‹_›, rfl⟩
  · exact Or.inr ⟨‹_›, rfl⟩

theorem filter_orEmpty {ps : List (List Char)} (hne : ∀ p ∈ ps, p ≠ []) : (orEmpty ps).filter (!·.isEmpty) = ps := by
  rcases orEmpty_cases ps with ⟨rfl, h⟩ | ⟨_, h⟩ <;> rw [h]
  · rfl
  · exact List.filter_eq_self.mpr fun p hp => by simpa using hne p hp

/-- An empty part at the outer end of a side is the whole side. -/
theorem orEmpty_ends {ps : List (List Char)} (hne : ∀ p ∈ ps, p ≠ []) :
    (((orEmpty ps).head? == some []) && decide ((orEmpty ps).length > 1)) = false ∧
      (((orEmpty ps).getLast? == some []) && decide ((orEmpty ps).length > 1)) = false := by
  rcases orEmpty_cases ps with ⟨_, h⟩ | ⟨_, h⟩ <;> rw [h]
  · exact ⟨rfl, rfl⟩
  · constructor
    · rw [Bool.and_eq_false_iff, beq_eq_false_iff_ne]
      exact Or.inl fun e => hne [] (List.mem_of_head? e) rfl
    · rw [Bool.and_eq_false_iff, beq_eq_false_iff_ne]
      exact Or.inl fun e => hne [] (List.mem_of_getLast? e) rfl

theorem orEmpty_inner {ps : List (List Char)} (hne : ∀ p ∈ ps, p ≠ []) :
    (∀ p ∈ (orEmpty ps).drop 1, p ≠ []) ∧ (∀ p ∈ (orEmpty ps).dropLast, p ≠ []) := by
  rcases orEmpty_cases ps with ⟨_, h⟩ | ⟨_, h⟩ <;> rw [h]
  · exact ⟨by simp, by simp⟩
  · exact ⟨fun p hp => hne p (List.mem_of_mem_drop hp), fun p hp => hne p ((List.dropLast_sublist _).subset hp)⟩

theorem orEmpty_ne_nil (ps : List (List Char)) : orEmpty ps ≠ [] := by
  rcases orEmpty_cases ps with ⟨_, h⟩ | ⟨hn, h⟩ <;> rw [h]
  · simp
  · exact hn

/-- The zeros that a gap stands for are filled in. -/
theorem fillGap_gap (shown : String) {high low : List (List Char)} (hh : ∀ p ∈ high, p ≠ []) (hl : ∀ p ∈ low, p ≠ [])
    (hlen : high.length + low.length ≤ 7) :
    Address.fillGap shown (orEmpty high ++ [] :: orEmpty low)
      = .ok (high ++ List.replicate (8 - (high.length + low.length)) ['0'] ++ low) := by
  have hfh := filter_orEmpty hh
  have hfl := filter_orEmpty hl
  have heh := (orEmpty_ends hh).1
  have hel := (orEmpty_ends hl).2
  have hih := (orEmpty_inner hh).1
  have hil := (orEmpty_inner hl).2
  have hnl := orEmpty_ne_nil low
  obtain ⟨first, tail, hH⟩ := List.exists_cons_of_ne_nil (orEmpty_ne_nil high)
  generalize orEmpty low = L at *
  rw [hH] at hfh heh hih ⊢
  rw [List.drop_succ_cons, List.drop_zero] at hih
  have hinner : (((first :: tail) ++ [] :: L).drop 1).dropLast = tail ++ [] :: L.dropLast := by
    cases L with
    | nil => exact absurd rfl hnl
    | cons l ls => simp [List.dropLast_append_of_ne_nil]
  have hbefore : (tail ++ [] :: L.dropLast).takeWhile (!·.isEmpty) = tail := by
    rw [List.takeWhile_append_of_pos (fun p hp => by simpa using hih p hp)]
    simp
  have hempty : (tail ++ [] :: L.dropLast).filter (·.isEmpty) = [[]] := by
    rw [List.filter_append, List.filter_cons_of_pos rfl,
      List.filter_eq_nil_iff.mpr fun p hp => by simpa using hih p hp,
      List.filter_eq_nil_iff.mpr fun p hp => by simpa using hil p hp]
    rfl
  have hpos : 1 + tail.length ≤ (tail ++ [] :: L.dropLast).length := by simp; omega
  have htake : ((first :: tail) ++ [] :: L).take (1 + tail.length) = first :: tail := by
    rw [show 1 + tail.length = (first :: tail).length by simp; omega, List.take_left]
  have hdrop : ((first :: tail) ++ [] :: L).drop (1 + tail.length + 1) = L := by
    rw [show 1 + tail.length + 1 = (first :: tail).length + 1 by simp; omega, ← List.drop_drop, List.drop_left]
    rfl
  unfold Address.fillGap
  simp only [hinner, hbefore, hempty, htake, hdrop, heh, hel, hfh, hfl, hpos, List.length_singleton, Nat.lt_irrefl,
    if_false, if_true, Bool.false_eq_true, show ¬ high.length + low.length > 7 by omega, gt_iff_lt]

theorem readV6_of_parts {cs : List Char} {parts full : List (List Char)} {gs : List Nat} (hs : cs.splitOn ':' = parts)
    (hlow : 3 ≤ parts.length) (hhigh : parts.length ≤ 9) (hdot : '.' ∉ cs)
    (hf : Address.fillGap (String.ofList cs) parts = .ok full) (hr : Address.readAll Address.readGroup full = .ok gs) :
    Address.readV6 cs = .ok (gs.foldl (fun n g => span 16 * n + g) 0) := by
  have hne : cs.isEmpty = false := by
    rw [List.isEmpty_eq_false_iff]
    rintro rfl
    rw [List.splitOn_nil] at hs
    simp [← hs] at hlow
  have hlast : (parts.getLastD []).contains '.' = false := by
    rw [List.contains_eq_mem, decide_eq_false_iff_not, List.getLastD_eq_getLast?]
    intro hm
    cases hl : parts.getLast? with
    | none => rw [hl] at hm; cases hm
    | some p =>
      rw [hl] at hm
      have hp := List.mem_of_getLast? hl
      rw [← hs, List.splitOn_eq_splitOnP] at hp
      exact hdot (mem_splitOnP hp hm).1
  unfold Address.readV6
  simp only [hne, hs, Address.unembed, hlast, hf, hr, Bool.false_eq_true, if_false, show ¬ parts.length < 3 by omega,
    show ¬ parts.length > 9 by omega]

theorem partsOf_eq_orEmpty (gs : List Nat) : partsOf gs = orEmpty (gs.map hex) := by
  unfold partsOf orEmpty
  cases gs <;> rfl

theorem splitOn_gap (high low : List Nat) :
    (Address.groupsText high ++ ':' :: ':' :: Address.groupsText low).splitOn ':'
      = orEmpty (high.map hex) ++ [] :: orEmpty (low.map hex) := by
  have hcut : ∀ cs ds : List Char, (cs ++ ':' :: ds).splitOn ':' = cs.splitOn ':' ++ ds.splitOn ':' := fun cs ds => by
    simp only [List.splitOn_eq_splitOnP]
    exact List.splitOnP_append_cons cs ds (by decide)
  rw [hcut, show ':' :: Address.groupsText low = [] ++ ':' :: Address.groupsText low from rfl, hcut, List.splitOn_nil,
    splitOn_groupsText, splitOn_groupsText, partsOf_eq_orEmpty, partsOf_eq_orEmpty]
  rfl

theorem length_orEmpty (ps : List (List Char)) : 1 ≤ (orEmpty ps).length ∧ (orEmpty ps).length ≤ max 1 ps.length := by
  rcases orEmpty_cases ps with ⟨_, h⟩ | ⟨hn, h⟩ <;> rw [h]
  · exact ⟨Nat.le_refl 1, Nat.le_max_left 1 _⟩
  · have := List.length_pos_iff.mpr hn
    omega

theorem readGroup_zero : Address.readGroup ['0'] = .ok 0 := rfl

theorem readAll_append {ε : Type} {read : List Char → Except ε Nat} {ps qs : List (List Char)} {ns ms : List Nat}
    (hp : Address.readAll read ps = .ok ns) (hq : Address.readAll read qs = .ok ms) :
    Address.readAll read (ps ++ qs) = .ok (ns ++ ms) := by
  induction ps generalizing ns with
  | nil => cases hp; exact hq
  | cons p ps ih =>
    simp only [Address.readAll, bind, Except.bind] at hp
    cases hr : read p with
    | error e => rw [hr] at hp; cases hp
    | ok n =>
      cases hrs : Address.readAll read ps with
      | error e => rw [hr, hrs] at hp; cases hp
      | ok ns' =>
        rw [hr, hrs] at hp
        cases hp
        simp only [List.cons_append, Address.readAll, hr, ih hrs, bind, Except.bind]

theorem readAll_hex {gs : List Nat} (h : ∀ g ∈ gs, g < span 16) :
    Address.readAll Address.readGroup (gs.map hex) = .ok gs := readAll_map fun g hg => readGroup_hex (h g hg)

theorem readAll_zeros (r : Nat) : Address.readAll Address.readGroup (List.replicate r ['0']) = .ok (List.replicate r 0) := by
  induction r with
  | zero => rfl
  | succ r ih => simp only [List.replicate_succ, Address.readAll, readGroup_zero, ih, bind, Except.bind]

theorem v6Text_whole {n : Nat} (h : (Address.longestRun (Address.groups n)).2 < 2) :
    Address.v6Text n = Address.groupsText (Address.groups n) := if_pos h

/-- A gap stands for two zeros at least. -/
theorem v6Text_gap {n : Nat} (h : ¬ (Address.longestRun (Address.groups n)).2 < 2) :
    ∃ high run low, Address.v6Text n = Address.groupsText high ++ ':' :: ':' :: Address.groupsText low ∧
      Address.groups n = high ++ List.replicate run 0 ++ low ∧ 2 ≤ run :=
  ⟨_, _, _, if_neg h, longestRun_split (Address.groups n), Nat.le_of_not_lt h⟩

theorem map_hex_ne_nil (gs : List Nat) : ∀ p ∈ gs.map hex, p ≠ [] := by
  intro p hp
  obtain ⟨g, _, rfl⟩ := List.mem_map.mp hp
  exact hex_ne_nil g

theorem readV6_v6Text {n : Nat} (h : n < span 128) : Address.readV6 (Address.v6Text n) = .ok n := by
  have hlen := length_groups n
  have hlt := groups_lt n
  have hdot : '.' ∉ Address.v6Text n := not_mem_v6Text (by decide) (by decide) n
  suffices hs : ∃ parts full, (Address.v6Text n).splitOn ':' = parts ∧ 3 ≤ parts.length ∧ parts.length ≤ 9 ∧
      Address.fillGap (String.ofList (Address.v6Text n)) parts = .ok full ∧
      Address.readAll Address.readGroup full = .ok (Address.groups n) by
    obtain ⟨parts, full, hs, hlow, hhigh, hf, hr⟩ := hs
    rw [readV6_of_parts hs hlow hhigh hdot hf hr, groups_value h]
  by_cases hrun : (Address.longestRun (Address.groups n)).2 < 2
  · refine ⟨(Address.groups n).map hex, (Address.groups n).map hex, ?_, by simp [hlen], by simp [hlen],
      fillGap_whole (by simp [hlen]) (map_hex_ne_nil _), readAll_hex hlt⟩
    rw [v6Text_whole hrun, splitOn_groupsText, partsOf, if_neg (List.ne_nil_of_length_pos (by omega))]
  · -- the gap leaves at most six groups around it
    obtain ⟨high, run, low, ht, hsplit, h2⟩ := v6Text_gap hrun
    rw [hsplit] at hlen hlt
    simp only [List.length_append, List.length_replicate] at hlen
    have hhigh := length_orEmpty (high.map hex)
    have hlow := length_orEmpty (low.map hex)
    rw [List.length_map] at hhigh hlow
    have hgap := fillGap_gap (String.ofList (Address.v6Text n)) (map_hex_ne_nil high) (map_hex_ne_nil low)
      (by simp only [List.length_map]; omega)
    have hzeros : 8 - ((high.map hex).length + (low.map hex).length) = run := by
      simp only [List.length_map]; omega
    rw [hzeros] at hgap
    refine ⟨_, _, by rw [ht]; exact splitOn_gap high low, ?_, ?_, hgap, ?_⟩
    · simp only [List.length_append, List.length_cons]; omega
    · simp only [List.length_append, List.length_cons]; omega
    · rw [hsplit]
      exact readAll_append (readAll_append (readAll_hex fun g hg => hlt g (by simp [hg])) (readAll_zeros run))
        (readAll_hex fun g hg => hlt g (by simp [hg]))

/-! ## Scope ids -/

/-- Whether a scope id could have been read as one. -/
def ScopeFits (family : Family) (scope : Option String) : Prop :=
  ∀ s ∈ scope, family = .v6 ∧ s.toList ≠ [] ∧ '%' ∉ s.toList ∧ '/' ∉ s.toList

theorem ScopeFits.none (family : Family) : ScopeFits family none := by
  intro s h; cases h

/-- What follows the value in a text. -/
def scopeText (scope : Option String) : List Char :=
  match scope with
  | some s => '%' :: s.toList
  | none => []

theorem slash_not_mem_valueText {family : Family} (n : Nat) {scope : Option String} (h : ScopeFits family scope) :
    '/' ∉ Address.valueText family n scope := by
  intro hm
  cases family with
  | v4 => rcases mem_v4Text hm with h | h <;> exact absurd h (by decide)
  | v6 =>
    rcases List.mem_append.mp hm with hm | hm
    · exact not_mem_v6Text (by decide) (by decide) n hm
    · cases scope with
      | none => cases hm
      | some s =>
        rcases List.mem_cons.mp hm with hm | hm
        · exact absurd hm (by decide)
        · exact (h s rfl).2.2.2 hm

theorem cutScope_value {cs : List Char} (hcs : '%' ∉ cs) {scope : Option String} (h : ScopeFits .v6 scope) :
    Address.cutScope (cs ++ scopeText scope) = .ok (cs, scope) := by
  have hfree : ∀ c ∈ cs, (c != '%') = true := fun c hc => bne_iff_ne.mpr fun e => hcs (e ▸ hc)
  unfold Address.cutScope
  rw [List.dropWhile_append_of_pos hfree, List.takeWhile_append_of_pos hfree]
  cases scope with
  | none => simp [scopeText]
  | some s =>
    obtain ⟨_, hne, hpercent, _⟩ := h s rfl
    have he : s.toList.isEmpty = false := by rw [List.isEmpty_eq_false_iff]; exact hne
    simp [scopeText, he, hpercent]

theorem readScoped_valueText {n : Nat} (hn : n < span 128) {scope : Option String} (h : ScopeFits .v6 scope) :
    Address.readScoped (Address.valueText .v6 n scope) = .ok (n, scope) := by
  have hslash := slash_not_mem_valueText n h
  have hs : Address.valueText .v6 n scope = Address.v6Text n ++ scopeText scope := by
    cases scope <;> rfl
  unfold Address.readScoped
  rw [List.contains_eq_mem, decide_eq_false hslash, hs, cutScope_value (not_mem_v6Text (by decide) (by decide) n) h]
  simp only [Bool.false_eq_true, if_false, readV6_v6Text hn]

theorem colon_mem_v6Text (n : Nat) : ':' ∈ Address.v6Text n := by
  have hlen := length_groups n
  by_cases hrun : (Address.longestRun (Address.groups n)).2 < 2
  · rw [v6Text_whole hrun]
    by_contra hc
    have hs := splitOn_groupsText (Address.groups n)
    rw [partsOf, if_neg (List.ne_nil_of_length_pos (by omega)), List.splitOn_eq_splitOnP,
      List.splitOnP_eq_singleton (fun c hm => beq_eq_false_iff_ne.mpr fun e : c = ':' => hc (e ▸ hm))] at hs
    have := congrArg List.length hs
    simp only [List.length_singleton, List.length_map] at this
    omega
  · obtain ⟨high, run, low, ht, _⟩ := v6Text_gap hrun
    rw [ht]
    simp

theorem readV4_valueText_v6 (n : Nat) (scope : Option String) :
    ∃ e, Address.readV4 (Address.valueText .v6 n scope) = .error e :=
  readV4_error (not_mem_v6Text (by decide) (by decide) n) (colon_mem_v6Text n)

/-! ## Networks -/

/-- Whether the scope id of a network could have been read as one. -/
def Network.Spellable (n : Network) : Prop := ScopeFits n.family n.scope

theorem Address.ofNat_eq {family : Family} {n : Nat} (h : n < span family.width) (scope : Option String) :
    Address.ofNat family n scope = ⟨family, n, scope, h⟩ := by
  simp only [Address.ofNat, Nat.mod_eq_of_lt h]

/-- Cutting nothing off the first address of a network gives the network. -/
theorem Network.cut_base (n : Network) :
    (Address.mk n.family n.base n.scope n.base_lt).cut n.length n.length_le = n := by
  have hb : n.base / span (n.family.width - n.length) * span (n.family.width - n.length) = n.base :=
    Nat.div_mul_cancel n.aligned
  simp only [Address.cut, hb, if_true]

theorem splitOn_slash {cs : List Char} (h : '/' ∉ cs) : cs.splitOn '/' = [cs] := by
  rw [List.splitOn_eq_splitOnP]
  exact List.splitOnP_eq_singleton fun c hc => beq_eq_false_iff_ne.mpr fun e => h (e ▸ hc)

/-- The normal form of a network spells that network. -/
theorem Network.ofText?_normal {n : Network} (h : n.Spellable) : Network.ofText? n.normal = some n := by
  obtain ⟨family, base, length, scope, hl, hb, ha⟩ := n
  have hslash := slash_not_mem_valueText base h
  have hcut := Network.cut_base ⟨family, base, length, scope, hl, hb, ha⟩
  dsimp only at hcut
  change ScopeFits family scope at h
  unfold Network.normal
  split
  · rename_i hhost
    obtain rfl : length = family.width := by simpa [Network.isHost] using hhost
    simp only [Network.ofText?, String.toList_ofList, splitOn_slash hslash]
    cases family with
    | v4 =>
      obtain rfl : scope = none := Option.eq_none_iff_forall_ne_some.mpr fun s hs => by cases (h s hs).1
      simp only [Address.valueText, readV4_v4Text hb, Address.ofNat_eq (show base < span Family.v4.width from hb)]
      exact congrArg some hcut
    | v6 =>
      obtain ⟨e, he⟩ := readV4_valueText_v6 base scope
      simp only [he, readScoped_valueText hb h, Address.ofNat_eq hb]
      exact congrArg some hcut
  · have hdigits : '/' ∉ Nat.toDigits 10 length := not_mem_toDigits (by decide) length
    have hs : (Address.valueText family base scope ++ '/' :: Nat.toDigits 10 length).splitOn '/'
        = [Address.valueText family base scope, Nat.toDigits 10 length] := by
      rw [List.splitOn_eq_splitOnP, List.splitOnP_append_cons _ _ (by decide), ← List.splitOn_eq_splitOnP,
        ← List.splitOn_eq_splitOnP, splitOn_slash hslash, splitOn_slash hdigits]
      rfl
    simp only [Network.ofText?, Network.text, String.toList_ofList, hs]
    cases family with
    | v4 =>
      obtain rfl : scope = none := Option.eq_none_iff_forall_ne_some.mpr fun s hs => by cases (h s hs).1
      have hlen := length?_toDigits .v4 hl
      simp only [Address.valueText, readV4_v4Text hb, Address.ofNat_eq (show base < span Family.v4.width from hb)]
      rw [show Network.length? 32 (Nat.toDigits 10 length) = some length from hlen]
      simp only [Option.orElse_some, Network.make?, hl, dif_pos, hcut]
    | v6 =>
      obtain ⟨e, he⟩ := readV4_valueText_v6 base scope
      have hlen := length?_toDigits .v6 hl
      simp only [he, readScoped_valueText hb h, Address.ofNat_eq hb]
      rw [show Network.length? 128 (Nat.toDigits 10 length) = some length from hlen]
      simp only [Network.make?, hl, dif_pos, hcut]
      rfl

theorem Network.normal_injective {m n : Network} (hm : m.Spellable) (hn : n.Spellable) (h : m.normal = n.normal) :
    m = n := by
  have := Network.ofText?_normal hm
  rw [h, Network.ofText?_normal hn] at this
  exact (Option.some.inj this).symm

/-! ## What is read can be written -/

theorem Address.cut_spellable {a : Address} (h : ScopeFits a.family a.scope) (length : Nat) (hl : length ≤ a.family.width) :
    (a.cut length hl).Spellable := by
  intro s hs
  simp only [Address.cut] at hs
  split at hs
  · exact h s hs
  · cases hs

theorem readScoped_fits {cs : List Char} {n : Nat} {scope : Option String} (h : Address.readScoped cs = .ok (n, scope)) :
    ScopeFits .v6 scope := by
  unfold Address.readScoped at h
  split at h
  · cases h
  rename_i hslash
  unfold Address.cutScope at h
  split at h
  · cases h
  · rename_i body scope' hcut
    split at h <;> cases h
    split at hcut
    · cases hcut; exact .none _
    · rename_i c rest hd
      split at hcut
      · cases hcut
      · rename_i hok
        cases hcut
        intro s hs
        obtain rfl := Option.some.inj hs
        simp only [Bool.or_eq_true, not_or, List.contains_eq_mem, decide_eq_true_eq, List.isEmpty_iff] at hok
        refine ⟨rfl, by simpa using hok.1, by simpa using hok.2, fun hm => hslash ?_⟩
        rw [String.toList_ofList] at hm
        rw [List.contains_eq_mem, decide_eq_true_eq]
        exact (List.dropWhile_sublist _).subset (by rw [hd]; exact List.mem_cons_of_mem _ hm)

theorem Address.ofText?_fits {s : String} {a : Address} (h : Address.ofText? s = some a) : ScopeFits a.family a.scope := by
  unfold Address.ofText? at h
  split at h
  · cases h; exact .none _
  · rename_i hr _
    cases h; exact readScoped_fits hr
  · cases h

theorem Network.make?_spellable {a : Address} (ha : ScopeFits a.family a.scope) {length : Option Nat} {n : Network}
    (h : Network.make? a length = some n) : n.Spellable := by
  unfold Network.make? at h
  split at h
  · cases h
  · split at h <;> cases h
    exact Address.cut_spellable ha _ _

/-- A network that was read has a normal form that reads back. -/
theorem Network.make?_scoped_spellable {address length : List Char} {n : Network}
    (h : (match Address.readScoped address with
      | .ok (value, scope) => Network.make? (.ofNat .v6 value scope) (Network.length? 128 length)
      | .error _ => none) = some n) : n.Spellable := by
  split at h
  · rename_i hr
    exact Network.make?_spellable (a := .ofNat .v6 _ _) (readScoped_fits hr) h
  · cases h

theorem Network.ofText?_spellable {s : String} {n : Network} (h : Network.ofText? s = some n) : n.Spellable := by
  unfold Network.ofText? at h
  split at h
  · split at h
    · cases h; exact Address.cut_spellable (.none _) _ _
    · rename_i hr _
      cases h; exact Address.cut_spellable (readScoped_fits hr) _ _
    · cases h
  · rename_i address length _
    dsimp only at h
    split at h
    · rename_i value _
      cases hm : Network.make? (.ofNat .v4 value none)
          ((Network.length? 32 length).orElse fun _ => Network.maskLength? length) with
      | none => rw [hm] at h; exact Network.make?_scoped_spellable h
      | some m =>
        rw [hm] at h
        cases h
        exact Network.make?_spellable (a := .ofNat .v4 value none) (.none _) hm
    · exact Network.make?_scoped_spellable h
  · cases h

/-! ## Normal forms as words -/

theorem hex_range {c : Char} (h : (hexValue? c).isSome = true) : 48 ≤ c.toNat ∧ c.toNat ≤ 102 := by
  unfold hexValue? at h
  split at h
  · rename_i hd
    simp only [Char.isDigit, Bool.and_eq_true, decide_eq_true_eq, ge_iff_le, UInt32.le_iff_toNat_le] at hd
    exact ⟨hd.1, hd.2.trans (by decide)⟩
  · split at h
    · rename_i hd
      simp only [Char.le_def, Bool.and_eq_true, decide_eq_true_eq, UInt32.le_iff_toNat_le] at hd
      exact ⟨(by decide : 48 ≤ 'a'.val.toNat).trans hd.1, hd.2⟩
    · split at h
      · rename_i hd
        simp only [Char.le_def, Bool.and_eq_true, decide_eq_true_eq, UInt32.le_iff_toNat_le] at hd
        exact ⟨(by decide : 48 ≤ 'A'.val.toNat).trans hd.1, hd.2.trans (by decide)⟩
      · cases h

theorem plain_of_hex {c : Char} (h : (hexValue? c).isSome = true) : isBlank c = false ∧ c ≠ '"' := by
  have hc := hex_range h
  refine ⟨?_, ?_⟩
  · simp only [isBlank, Bool.or_eq_false_iff, Bool.and_eq_false_iff, decide_eq_false_iff_not, beq_eq_false_iff_ne]
    omega
  · rintro rfl
    exact absurd hc (by decide)

theorem hexValue?_digit {c : Char} (h : c.isDigit = true) : (hexValue? c).isSome = true := by
  rw [hexValue?, if_pos h]
  rfl

theorem mem_normal {n : Network} (h : n.scope = none) {c : Char} (hc : c ∈ n.normal.toList) :
    c = '.' ∨ c = ':' ∨ c = '/' ∨ (hexValue? c).isSome = true := by
  have hvalue : ∀ {c}, c ∈ Address.valueText n.family n.base n.scope → c = '.' ∨ c = ':' ∨ c = '/' ∨ (hexValue? c).isSome = true := by
    intro c hc
    rw [h] at hc
    cases hf : n.family with
    | v4 =>
      rw [hf] at hc
      rcases mem_v4Text hc with hc | hc
      · exact .inl hc
      · exact .inr (.inr (.inr (hexValue?_digit hc)))
    | v6 =>
      rw [hf] at hc
      rw [Address.valueText, List.append_nil] at hc
      rcases mem_v6Text hc with hc | hc
      · exact .inr (.inl hc)
      · exact .inr (.inr (.inr hc))
  unfold Network.normal at hc
  split at hc
  · rw [String.toList_ofList] at hc
    exact hvalue hc
  · rw [Network.text, String.toList_ofList] at hc
    rcases List.mem_append.mp hc with hc | hc
    · exact hvalue hc
    rcases List.mem_cons.mp hc with hc | hc
    · exact .inr (.inr (.inl hc))
    · refine .inr (.inr (.inr (hexValue?_digit ?_)))
      by_contra hd
      exact not_mem_toDigits (Bool.eq_false_iff.mpr hd) _ hc

theorem plain_normal {n : Network} (h : n.scope = none) {c : Char} (hc : c ∈ n.normal.toList) :
    isBlank c = false ∧ c ≠ '"' := by
  rcases mem_normal h hc with rfl | rfl | rfl | hc
  · decide
  · decide
  · decide
  · exact plain_of_hex hc

theorem percent_not_mem_normal {n : Network} (h : n.scope = none) : '%' ∉ n.normal.toList := by
  intro hm
  rcases mem_normal h hm with hc | hc | hc | hc <;> exact absurd hc (by decide)

theorem valueText_ne_nil (family : Family) (n : Nat) (scope : Option String) : Address.valueText family n scope ≠ [] := by
  cases family with
  | v4 => simp [Address.valueText, Address.v4Text, Address.joinWith, Address.octets]
  | v6 =>
    intro he
    have hm := colon_mem_v6Text n
    rw [(List.append_eq_nil_iff.mp he).1] at hm
    cases hm

theorem head?_normal {n : Network} (h : n.Spellable) : n.normal.toList.head? ≠ some '/' := by
  have hne := valueText_ne_nil n.family n.base n.scope
  have hslash := slash_not_mem_valueText n.base h
  obtain ⟨c, cs, hcs⟩ := List.exists_cons_of_ne_nil hne
  have hc : c ≠ '/' := fun e => hslash (by rw [hcs, e]; exact List.mem_cons_self)
  unfold Network.normal Network.text
  split <;> simp [hcs, hc]

theorem spellable_of_unscoped {n : Network} (h : n.scope = none) : n.Spellable := by
  unfold Network.Spellable
  rw [h]
  exact .none _

/-! ## Repetitions -/

theorem eraseDups_map {α β : Type} [DecidableEq α] [DecidableEq β] {f : α → β} {as : List α}
    (h : ∀ a ∈ as, ∀ b ∈ as, f a = f b → a = b) : (as.map f).eraseDups = as.eraseDups.map f := by
  induction hn : as.length using Nat.strong_induction_on generalizing as with
  | _ n ih =>
    cases as with
    | nil => rfl
    | cons a as =>
      rw [List.map_cons, List.eraseDups_cons, List.eraseDups_cons, List.map_cons, List.filter_map]
      have hsame : as.filter ((fun b => !b == f a) ∘ f) = as.filter fun b => !b == a := by
        refine List.filter_congr fun b hb => ?_
        have hinj := h b (List.mem_cons_of_mem _ hb) a List.mem_cons_self
        by_cases hba : b = a
        · simp [hba]
        · have hne : f b ≠ f a := fun he => hba (hinj he)
          simp [hba, hne]
      have hlength : (as.filter fun b => !b == a).length < n := by
        have hle := List.length_filter_le (fun b => !b == a) as
        rw [List.length_cons] at hn
        omega
      rw [hsame, ih _ hlength (fun x hx y hy => h x (List.mem_cons_of_mem _ (List.mem_filter.mp hx).1) y
        (List.mem_cons_of_mem _ (List.mem_filter.mp hy).1)) rfl]

theorem nodup_eraseDups {α : Type} [DecidableEq α] (as : List α) : as.eraseDups.Nodup := by
  induction hn : as.length using Nat.strong_induction_on generalizing as with
  | _ n ih =>
    cases as with
    | nil => exact List.Pairwise.nil
    | cons a as =>
      rw [List.eraseDups_cons]
      have hle := List.length_filter_le (fun b => !b == a) as
      rw [List.length_cons] at hn
      refine List.pairwise_cons.mpr ⟨fun b hb => ?_, ih _ (by omega) _ rfl⟩
      rintro rfl
      rw [List.mem_eraseDups, List.mem_filter] at hb
      simp at hb

namespace Network

theorem read_normal {n : Network} (h : n.Spellable) : Network.read n.normal = .ok n := by
  rw [Network.read, Network.ofText?_normal h]

/-! ## Lists of texts -/

variable {texts : List String} {ns : List (String × Network)}

theorem readAll_cons {t : String} {n : Network} (hn : read t = .ok n) (hns : readAll texts = .ok ns) :
    readAll (t :: texts) = .ok ((t, n) :: ns) := by
  rw [readAll, hn, hns]
  rfl

/-- Reading a list of texts gives each text with its network. -/
theorem readAll_iff : readAll texts = .ok ns ↔ texts = ns.map (·.1) ∧ ∀ e ∈ ns, read e.1 = .ok e.2 := by
  constructor
  · intro h
    induction texts generalizing ns with
    | nil => cases h; exact ⟨rfl, List.forall_mem_nil _⟩
    | cons t ts ih =>
      unfold readAll at h
      cases hn : read t with
      | error e => rw [hn] at h; cases h
      | ok n => cases hns : readAll ts with
        | error e => rw [hn, hns] at h; cases h
        | ok ns' =>
          rw [hn, hns] at h
          cases h
          obtain ⟨htexts, hread⟩ := ih hns
          exact ⟨by rw [List.map_cons, ← htexts], List.forall_mem_cons.mpr ⟨hn, hread⟩⟩
  · rintro ⟨rfl, hread⟩
    induction ns with
    | nil => rfl
    | cons e es ih =>
      obtain ⟨he, hes⟩ := List.forall_mem_cons.mp hread
      exact readAll_cons he (ih hes)

theorem mem_readAll (h : readAll texts = .ok ns) {e : String × Network} : e ∈ ns ↔ e.1 ∈ texts ∧ read e.1 = .ok e.2 := by
  obtain ⟨rfl, hread⟩ := readAll_iff.mp h
  refine ⟨fun he => ⟨List.mem_map_of_mem he, hread e he⟩, fun ⟨he, hok⟩ => ?_⟩
  obtain ⟨e', he', heq⟩ := List.mem_map.mp he
  have hok' := hread e' he'
  rw [heq, hok] at hok'
  obtain rfl : e' = e := Prod.ext heq (Except.ok.inj hok').symm
  exact he'

theorem exists_readAll (h : ∀ t ∈ texts, ∃ n, read t = .ok n) : ∃ ns, readAll texts = .ok ns := by
  induction texts with
  | nil => exact ⟨[], rfl⟩
  | cons t ts ih =>
    obtain ⟨⟨n, hn⟩, hts⟩ := List.forall_mem_cons.mp h
    obtain ⟨ns, hns⟩ := ih hts
    exact ⟨(t, n) :: ns, readAll_cons hn hns⟩

theorem readAll_normal {ns : List Network} (h : ∀ n ∈ ns, n.Spellable) :
    readAll (ns.map normal) = .ok (ns.map fun n => (n.normal, n)) := by
  refine readAll_iff.mpr ⟨by rw [List.map_map]; rfl, fun e he => ?_⟩
  obtain ⟨n, hn, rfl⟩ := List.mem_map.mp he
  exact read_normal (h n hn)

/-- Texts in normal form are sorted as their networks are. -/
theorem sortTexts_normal {ns : List Network} (h : ∀ n ∈ ns, n.Spellable) :
    sortTexts (ns.map normal) = .ok ((Sequence.sort Network.le ns.eraseDups).map normal) := by
  have hread := readAll_normal fun n hn => h n (List.mem_eraseDups.mp hn)
  rw [← eraseDups_map fun m hm n hn => normal_injective (h m hm) (h n hn)] at hread
  rw [sortTexts, hread, Except.map, Sequence.sort_map Network.le (f := fun n : Network => (n.normal, n)) fun m n => rfl, List.map_map]
  rfl

end Network

end SenderPolicy
