/-
  SenderPolicy.Proofs.Term.Syntax — the syntax of a mechanism, and its keyword in any case.

  A keyword matches in any case, and so do characters that only fold to its letters: the dotless and the
  dotted `i` and the long `s`. In lower case it is the name of the mechanism again, unless it holds one of
  these three. Which keyword it is decides what has to follow, and how it was written makes no difference to
  that. A qualifier is passed over, and a token in the shape of a mechanism is never read as a modifier.
  - `lower_keyword`, `lower_keyword_ne`: in lower case a keyword names a mechanism exactly if it holds none of the three.
  - `mechanism?_spells`, `mechanism?_of_spells`: which tokens have the shape of a mechanism.
  - `mechanism?_keyword`: what a mechanism leaves of its token is what its kind leaves behind the keyword.
  - `check_mechanism`: so its syntax is right exactly if the kind leaves nothing.
-/

import SenderPolicy.Proofs.Term.Written

namespace SenderPolicy

namespace Text

/-! ## Folding -/

/-- The characters that fold to a letter of a keyword, but are in lower case something else. -/
def onlyFolds (c : Char) : Bool := c == 'ı' || c == 'İ' || c == 'ſ'

theorem afterWord?_eq_some {word cs rest : List Char} :
    afterWord? word cs = some rest ↔ ∃ read, cs = read ++ rest ∧ read.map fold = word := by
  induction word generalizing cs with
  | nil =>
    constructor
    · intro h
      exact ⟨[], Option.some.inj h, rfl⟩
    · rintro ⟨read, rfl, hread⟩
      rw [List.map_eq_nil_iff.mp hread]
      rfl
  | cons k ks ih =>
    cases cs with
    | nil =>
      constructor
      · intro h; cases h
      · rintro ⟨read, hcs, hread⟩
        rw [(List.append_eq_nil_iff.mp hcs.symm).1] at hread
        cases hread
    | cons c cs =>
      unfold afterWord? foldsTo
      split
      · rename_i hc
        rw [ih]
        constructor
        · rintro ⟨read, rfl, rfl⟩
          exact ⟨c :: read, rfl, by rw [List.map_cons, beq_iff_eq.mp hc]⟩
        · rintro ⟨read, hcs, hread⟩
          cases read with
          | nil => cases hread
          | cons d read =>
            obtain ⟨rfl, rfl⟩ := List.cons.inj hcs
            exact ⟨read, rfl, (List.cons.inj hread).2⟩
      · rename_i hc
        constructor
        · intro h; cases h
        · rintro ⟨read, hcs, hread⟩
          cases read with
          | nil => cases hread
          | cons d read =>
            obtain ⟨rfl, rfl⟩ := List.cons.inj hcs
            exact absurd (beq_iff_eq.mpr (List.cons.inj hread).1) hc

theorem spells_iff {cs word : List Char} : spells cs word = true ↔ cs.map fold = word := by
  unfold spells
  rw [beq_iff_eq, afterWord?_eq_some]
  simp

theorem afterWord?_eq_none {word cs : List Char} (h : ∀ read rest, cs = read ++ rest → read.map fold ≠ word) :
    afterWord? word cs = none := by
  cases hw : afterWord? word cs with
  | none => rfl
  | some rest =>
    obtain ⟨read, hcs, hread⟩ := afterWord?_eq_some.mp hw
    exact absurd hread (h read rest hcs)

theorem afterWord?_same {keyword word : List Char} (hs : keyword.map fold = word) (rest : List Char) :
    afterWord? word (keyword ++ rest) = some rest := afterWord?_eq_some.mpr ⟨keyword, rfl, hs⟩

/-- Another word that neither begins with the one that is spelled nor the other way round. -/
theorem afterWord?_other {keyword word other : List Char} (hs : keyword.map fold = word)
    (h : (other.isPrefixOf word || word.isPrefixOf other) = false) (rest : List Char) :
    afterWord? other (keyword ++ rest) = none := by
  rw [Bool.or_eq_false_iff] at h
  refine afterWord?_eq_none fun read left hcs hread => ?_
  rcases List.append_eq_append_iff.mp hcs with ⟨more, rfl, _⟩ | ⟨more, rfl, _⟩
  · rw [List.map_append, hs] at hread
    have hprefix : word.isPrefixOf other = true := List.isPrefixOf_iff_prefix.mpr ⟨_, hread⟩
    rw [h.2] at hprefix
    cases hprefix
  · rw [List.map_append, hread] at hs
    have hprefix : other.isPrefixOf word = true := List.isPrefixOf_iff_prefix.mpr ⟨_, hs⟩
    rw [h.1] at hprefix
    cases hprefix

/-- The characters of the names of mechanisms. -/
def nameChars : List Char := "acdeilmnprstux46".toList

theorem fold_nameChar {c : Char} (h : fold c ∈ nameChars) : onlyFolds c = true ∨ (c.toNat < 128 ∧ fold c = c.toLower) := by
  unfold onlyFolds
  unfold fold at h ⊢
  split at h
  · rename_i hc
    exact Or.inl (by rw [hc, Bool.true_or])
  · rename_i hc
    split at h
    · rename_i hs
      exact Or.inl (by rw [hs, Bool.or_true])
    · rename_i hs
      split at h
      · exact absurd h (by decide)
      · rename_i hk
        rw [if_neg hc, if_neg hs, if_neg hk]
        refine Or.inr ⟨?_, rfl⟩
        have hsmall : nameChars.all (·.toNat < 128) = true := by decide
        have hlow := of_decide_eq_true (List.all_eq_true.mp hsmall _ h)
        unfold Char.toLower at hlow
        split at hlow
        · rename_i hup
          have hle : c.toNat ≤ 90 := hup.2
          omega
        · exact hlow

theorem lowerChar_onlyFolds {c : Char} (h : onlyFolds c = true) : ∃ d ∈ lowerChar c, 128 ≤ d.toNat := by
  have hall : (['ı', 'İ', 'ſ'].all fun c => (lowerChar c).any (128 ≤ ·.toNat)) = true := by decide +kernel
  have hc : c ∈ ['ı', 'İ', 'ſ'] := by simpa [onlyFolds, or_assoc] using h
  obtain ⟨d, hd, hn⟩ := List.any_eq_true.mp (List.all_eq_true.mp hall c hc)
  exact ⟨d, hd, of_decide_eq_true hn⟩

theorem ne_sigma_of_onlyFolds {c : Char} (h : onlyFolds c = true) : (c == 'Σ') = false := by
  rw [beq_eq_false_iff_ne]
  rintro rfl
  exact absurd h (by decide)

theorem lowerFrom_onlyFolds {before cs : List Char} (h : ∃ c ∈ cs, onlyFolds c = true) :
    ∃ d ∈ lowerFrom before cs, 128 ≤ d.toNat := by
  induction cs generalizing before with
  | nil => obtain ⟨c, hc, _⟩ := h; cases hc
  | cons e cs ih =>
    unfold lowerFrom
    obtain ⟨c, hc, hf⟩ := h
    rcases List.mem_cons.mp hc with rfl | hc
    · obtain ⟨d, hd, hn⟩ := lowerChar_onlyFolds hf
      refine ⟨d, List.mem_append_left _ ?_, hn⟩
      rw [ne_sigma_of_onlyFolds hf]
      exact hd
    · obtain ⟨d, hd, hn⟩ := @ih (e :: before) ⟨c, hc, hf⟩
      exact ⟨d, List.mem_append_right _ hd, hn⟩

end Text

namespace Token

open Text
open Mechanism (Kind)

variable {keyword rest : List Char} {k : Kind}

theorem names_nameChars : ∀ k ∈ Kind.standard, k.name.toList.all nameChars.contains = true := by decide

theorem fold_mem_nameChars (hk : k ∈ Kind.standard) (hs : keyword.map fold = k.name.toList) : ∀ c ∈ keyword, fold c ∈ nameChars := by
  intro c hc
  have hn := List.all_eq_true.mp (names_nameChars k hk) (fold c) (hs ▸ List.mem_map_of_mem hc)
  exact List.contains_iff_mem.mp hn

/-- In lower case a keyword without them is the name of the mechanism that it spells. -/
theorem lower_keyword (hk : k ∈ Kind.standard) (hs : keyword.map fold = k.name.toList)
    (hf : ∀ c ∈ keyword, onlyFolds c = false) : lower (String.ofList keyword) = k.name := by
  have hall : ∀ c ∈ keyword, c.toNat < 128 ∧ fold c = c.toLower := by
    intro c hc
    rcases fold_nameChar (fold_mem_nameChars hk hs c hc) with hfold | h
    · rw [hf c hc] at hfold; cases hfold
    · exact h
  unfold lower
  rw [String.toList_ofList, lowerChars_ascii fun c hc => (hall c hc).1,
    ← List.map_congr_left fun c hc => (hall c hc).2, hs, String.ofList_toList]

/-- A keyword that holds one of the three is no name of a mechanism in lower case. -/
theorem lower_keyword_ne (hf : ∃ c ∈ keyword, onlyFolds c = true) :
    ∀ k' ∈ Kind.standard, lower (String.ofList keyword) ≠ k'.name := by
  have hascii : ∀ k' ∈ Kind.standard, k'.name.toList.all (·.toNat < 128) = true := by decide
  obtain ⟨d, hd, hn⟩ := @lowerFrom_onlyFolds [] _ hf
  intro k' hk' he
  have hmem : d ∈ k'.name.toList := by
    rw [← he, lower, String.toList_ofList, String.toList_ofList]
    exact hd
  have hlow : d.toNat < 128 := of_decide_eq_true (List.all_eq_true.mp (hascii k' hk') d hmem)
  omega

/-! ## What follows a keyword -/

/-- What a mechanism of this kind leaves of the text behind its keyword. -/
def behind? : Kind → List Char → Option (List Char)
  | .all, cs => some cs
  | .incl, cs | .exist, cs => Grammar.domain? cs
  | .ip4, cs => ((Grammar.char? ':' cs).bind (Grammar.some? Grammar.isV4Char)).map (Grammar.optional Grammar.length?)
  | .ip6, cs => ((Grammar.char? ':' cs).bind (Grammar.some? Grammar.isV6Char)).map (Grammar.optional Grammar.length?)
  | .a, cs | .mx, cs | .ptr, cs =>
    some (Grammar.optional Grammar.secondLength? (Grammar.optional Grammar.length? (Grammar.optional Grammar.domain? cs)))
  | .other _, _ => none

/-- Only `a` and `all` begin alike, and no `l` follows an `a` whose keyword ends there. -/
theorem afterWord?_all (hs : keyword.map fold = ['a']) (hr : ∀ c ∈ rest.head?, endsKeyword c = true) :
    afterWord? "all".toList (keyword ++ rest) = none := by
  obtain ⟨c, _, rfl, hc, hnil⟩ := List.map_eq_cons_iff.mp hs
  rw [List.map_eq_nil_iff.mp hnil]
  cases rest with
  | nil => simp [afterWord?]
  | cons d rest =>
    have hd : foldsTo d 'l' = false := by
      rcases Bool.or_eq_true_iff.mp (hr d rfl) with h | h <;> rw [beq_iff_eq.mp h] <;> decide
    simp [afterWord?, hd]

/-- Whether neither name begins with the other. -/
def apart (n m : String) : Bool := !(n.toList.isPrefixOf m.toList || m.toList.isPrefixOf n.toList)

/-- Among names that do not begin alike only the one that is spelled is read. -/
theorem words?_keyword {name : String} (hs : keyword.map fold = name.toList) (rest : List Char) (names : List String)
    (h : ∀ n ∈ names, n = name ∨ apart n name = true) :
    Grammar.words? names (keyword ++ rest) = if name ∈ names then some rest else none := by
  induction names with
  | nil => rfl
  | cons n ns ih =>
    obtain ⟨hn, hns⟩ := List.forall_mem_cons.mp h
    unfold Grammar.words? at ih ⊢
    rw [List.findSome?_cons]
    rcases hn with rfl | hn
    · rw [afterWord?_same hs, if_pos List.mem_cons_self]
    · have hne : name ≠ n := by
        rintro rfl
        have hself : apart name name = false := by simp [apart]
        rw [hself] at hn
        cases hn
      have hfree : (n.toList.isPrefixOf name.toList || name.toList.isPrefixOf n.toList) = false := by
        simpa only [apart, Bool.not_eq_true'] using hn
      simp only [afterWord?_other hs hfree, ih hns, List.mem_cons, hne, false_or]

/-- What a mechanism leaves of its token is what its kind leaves behind the keyword. -/
theorem mechanism?_keyword (hk : k ∈ Kind.standard) (hs : keyword.map fold = k.name.toList)
    (hr : ∀ c ∈ rest.head?, endsKeyword c = true) : Grammar.mechanism? (keyword ++ rest) = behind? k rest := by
  have hwords := words?_keyword hs rest
  have hall : k = .a → Grammar.words? ["all"] (keyword ++ rest) = none := by
    rintro rfl
    unfold Grammar.words?
    rw [List.findSome?_cons, afterWord?_all hs hr]
    rfl
  unfold Grammar.mechanism?
  cases k with
  | other name => simp [Kind.standard] at hk
  | all =>
    rw [hwords ["all"] (by decide)]
    rfl
  | a =>
    rw [hall rfl, hwords ["include", "exists"] (by decide), hwords ["ip4"] (by decide), hwords ["ip6"] (by decide),
      hwords ["a", "mx", "ptr"] (by decide)]
    rfl
  | _ =>
    rw [hwords ["all"] (by decide), hwords ["include", "exists"] (by decide), hwords ["ip4"] (by decide),
      hwords ["ip6"] (by decide), hwords ["a", "mx", "ptr"] (by decide)]
    simp [Kind.name, behind?]

/-! ## Tokens in the shape of a mechanism -/

theorem isNameChar_of_fold {c : Char} (h : fold c ∈ nameChars) : Grammar.isNameChar c = true := by
  have hclasses : (nameChars.all fun d => d.isLower || d.isDigit) = true := by decide
  unfold Grammar.isNameChar isLetter
  rcases Bool.or_eq_true_iff.mp (List.all_eq_true.mp hclasses _ h) with hl | hd
  · simp [hl]
  · have hsame : c = fold c := by
      rcases fold_nameChar h with hf | ⟨_, he⟩
      · have hnone : (['ı', 'İ', 'ſ'].all fun c => !(fold c).isDigit) = true := by decide
        have hc := List.all_eq_true.mp hnone c (by simpa [onlyFolds, or_assoc] using hf)
        rw [hd] at hc
        cases hc
      · rw [he] at hd ⊢
        unfold Char.toLower at hd ⊢
        split
        · rename_i hup
          rw [dif_pos hup] at hd
          simp only [Char.isDigit, Bool.and_eq_true, decide_eq_true_eq, ge_iff_le, UInt32.le_iff_toNat_le] at hd hup
          have hsum : (c.val + ('a'.val - 'A'.val)).toNat = c.val.toNat + 32 := by
            have hlow : c.val.toNat ≤ 90 := hup.2
            rw [UInt32.toNat_add, show ('a'.val - 'A'.val).toNat = 32 from rfl]
            omega
          have hlow : 65 ≤ c.val.toNat := hup.1
          have hhigh : (c.val + ('a'.val - 'A'.val)).toNat ≤ 57 := hd.2
          omega
        · rfl
    rw [hsame, hd]
    simp

/-- The keyword of a token in the shape of a mechanism, and what stands around it. -/
theorem mechanism?_spells {token : List Char} {w : Written} (h : mechanism? token = some w) :
    Grammar.unqualified token = w.keyword ++ w.rest ∧ (∃ k ∈ Kind.standard, w.keyword.map fold = k.name.toList) ∧
      ∀ c ∈ w.rest.head?, endsKeyword c = true := by
  unfold mechanism? at h
  dsimp only at h
  split at h
  · rename_i hs
    cases h
    obtain ⟨word, hword, hs⟩ := List.any_eq_true.mp hs
    obtain ⟨k, hk, rfl⟩ := List.mem_map.mp hword
    refine ⟨(List.takeWhile_append_dropWhile).symm, ⟨k, hk, spells_iff.mp hs⟩, fun c hc => ?_⟩
    have hstop := List.head?_dropWhile_not (!endsKeyword ·) (Grammar.unqualified token)
    rw [hc] at hstop
    simpa using hstop
  · cases h

/-- A keyword, and nothing or a colon or a slash behind it, have the shape of a mechanism. -/
theorem mechanism?_of_spells {token : List Char} (hbody : Grammar.unqualified token = keyword ++ rest) (hk : k ∈ Kind.standard)
    (hs : keyword.map fold = k.name.toList) (hr : ∀ c ∈ rest.head?, endsKeyword c = true) :
    mechanism? token = some ⟨((Grammar.qualifier? token).map (·.1)).getD .pass, keyword, rest⟩ := by
  have hplain : keyword.all (!endsKeyword ·) = true := by
    rw [List.all_eq_true]
    intro c hc
    have hchar := isNameChar_of_fold (fold_mem_nameChars hk hs c hc)
    have hother : c ≠ ':' ∧ c ≠ '/' := by
      constructor
      all_goals
        rintro rfl
        exact absurd hchar (by decide)
    simp [endsKeyword, hother]
  have hspells : keywords.any (spells keyword ·) = true :=
    List.any_eq_true.mpr ⟨k.name.toList, List.mem_map_of_mem hk, spells_iff.mpr hs⟩
  obtain ⟨htake, hdrop⟩ := takeWhile_keyword hplain hr
  unfold mechanism?
  simp only [hbody, htake, hdrop, hspells, if_true]

/-- A letter is no qualifier. -/
theorem unqualified_letter {c : Char} {cs : List Char} (h : isLetter c = true) : Grammar.unqualified (c :: cs) = c :: cs := by
  have hnone : Qualifier.ofSymbol? c = none := by
    unfold Qualifier.ofSymbol?
    split
    all_goals first | rfl | exact absurd h (by decide)
  simp [Grammar.unqualified, Grammar.qualifier?, hnone]

/-- A token in the shape of a mechanism is never read as a modifier. -/
theorem modifier?_mechanism {token : List Char} {w : Written} (h : mechanism? token = some w) :
    Grammar.modifier? token = none := by
  obtain ⟨hbody, ⟨k, hk, hs⟩, hr⟩ := mechanism?_spells h
  have hname : ∀ c ∈ w.keyword, Grammar.isNameChar c = true :=
    fun c hc => isNameChar_of_fold (fold_mem_nameChars hk hs c hc)
  have hstop : ∀ cs, (∀ c ∈ cs, Grammar.isNameChar c = true) →
      Grammar.char? '=' ((cs ++ w.rest).dropWhile Grammar.isNameChar) = none := by
    intro cs hcs
    rw [List.dropWhile_append_of_pos hcs]
    cases hrest : w.rest with
    | nil => rfl
    | cons d ds =>
      rw [hrest] at hr
      rcases Bool.or_eq_true_iff.mp (hr d rfl) with hd | hd <;> rw [beq_iff_eq.mp hd] <;> rfl
  unfold Grammar.modifier?
  cases token with
  | nil => rfl
  | cons c cs =>
    dsimp only
    split
    · rename_i hletter
      -- A letter is no qualifier, so the token begins with its keyword.
      rw [unqualified_letter hletter] at hbody
      cases hkey : w.keyword with
      | nil =>
        rw [hkey] at hs
        exact absurd hs.symm (standard_names k hk).2.2.2.2
      | cons d ds =>
        rw [hkey] at hname
        rw [hkey, List.cons_append] at hbody
        obtain ⟨rfl, rfl⟩ := List.cons.inj hbody
        rw [hstop ds fun e he => hname e (List.mem_cons_of_mem _ he)]
        rfl
    · rfl

/-- The syntax of a mechanism is right exactly if its kind leaves nothing. -/
theorem check_mechanism [Expectations] {token : String} {w : Written} (h : mechanism? token.toList = some w)
    (hk : k ∈ Kind.standard)
    (hs : w.keyword.map fold = k.name.toList) : Grammar.check token = none ↔ behind? k w.rest = some [] := by
  obtain ⟨hbody, _, hr⟩ := mechanism?_spells h
  rw [Grammar.check_none_iff, Grammar.rest?, modifier?_mechanism h, hbody, mechanism?_keyword hk hs hr]
  cases behind? k w.rest <;> simp

end Token

end SenderPolicy
