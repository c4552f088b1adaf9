/-
  SenderPolicy.Proofs.Term.DualLengths — a value, and the parts that it is split into.

  A domain may hold slashes and digits itself, so a value such as `a/24/24` or `a//64/24` is written by more than one
  domain with lengths behind it. The splitter tries the places of the value from the left and stops at the first behind
  which only lengths stand. So its parts make up the value again, and any other domain and lengths that do have a longer
  domain. In front of the first slash there is no place to cut at, and a domain without slashes comes back whole.
  - `lengths?_iff`: which texts are read as lengths.
  - `splitChars_earliest`: a domain with lengths behind it is what is split off, or too long.
  - `split_earliest`: the same of values and their parts.
-/

import Mathlib.Data.List.Basic
import SenderPolicy.Term.Cidr

namespace SenderPolicy.Cidr

open Text

variable {cs d ds : List Char} {p q : Option (List Char)} {most : Nat} {value : String} {parts : Parts}

/-! ## Lengths -/

/-- Whether a character can stand in the lengths behind a domain. -/
def inLengths (c : Char) : Bool := c == '/' || isDecimal c

theorem inLengths_of_isLength (h : isLength most ds = true) : ∀ c ∈ ds, inLengths c = true := by
  unfold isLength at h
  simp only [Bool.and_eq_true, List.all_eq_true] at h
  intro c hc
  exact Bool.or_eq_true_iff.mpr (Or.inr (h.2 c hc))

theorem ne_slash_of_isLength (h : isLength most ds = true) : ∀ c ∈ ds, c ≠ '/' := by
  intro c hc he
  unfold isLength at h
  simp only [Bool.and_eq_true, List.all_eq_true] at h
  have hdecimal := h.2 c hc
  rw [he] at hdecimal
  exact absurd hdecimal (by decide)

theorem lengths?_other {c : Char} (hc : c ≠ '/') (cs : List Char) : lengths? (c :: cs) = none := by
  unfold lengths?
  split
  · rename_i he; cases he
  · rename_i he; exact absurd (List.cons.inj he).1 hc
  · rename_i he; exact absurd (List.cons.inj he).1 hc
  · rfl

theorem lengths?_isLength (h : lengths? cs = some (p, q)) :
    (∀ ds ∈ p, isLength 2 ds = true) ∧ ∀ ds ∈ q, isLength 3 ds = true := by
  unfold lengths? at h
  dsimp only at h
  repeat' split at h
  all_goals simp only [Option.some.injEq, Prod.mk.injEq, reduceCtorEq] at h
  all_goals obtain ⟨rfl, rfl⟩ := h
  all_goals simp_all

theorem inLengths_of_lengths? (h : lengths? cs = some (p, q)) : ∀ c ∈ cs, inLengths c = true := by
  obtain ⟨hp, hq⟩ := lengths?_isLength h
  have hslash : ∀ ds : List Char, (∀ c ∈ ds, inLengths c = true) → ∀ c ∈ '/' :: ds, inLengths c = true :=
    fun ds hds => List.forall_mem_cons.mpr ⟨rfl, hds⟩
  rw [← lengths?_text h]
  intro c hc
  rcases List.mem_append.mp hc with hc | hc
  · cases p with
    | none => cases hc
    | some p => exact hslash _ (inLengths_of_isLength (hp p rfl)) c hc
  · cases q with
    | none => cases hc
    | some q => exact hslash _ (hslash _ (inLengths_of_isLength (hq q rfl))) c hc

/-- Behind a single slash the digits end at the next one. -/
theorem lengths?_digits (hds : isLength 2 ds = true) (hq : ∀ six ∈ q, isLength 3 six = true) :
    lengths? ('/' :: (ds ++ lengthsText none q)) = some (some ds, q) := by
  have hslash := ne_slash_of_isLength hds
  have hother : ∀ c ∈ ds, (c != '/') = true := fun c hc => bne_iff_ne.mpr (hslash c hc)
  have htake : (ds ++ lengthsText none q).takeWhile (· != '/') = ds := by
    rw [List.takeWhile_append_of_pos hother]
    cases q <;> simp [lengthsText]
  have hdrop : (ds ++ lengthsText none q).dropWhile (· != '/') = lengthsText none q := by
    rw [List.dropWhile_append_of_pos hother]
    cases q <;> simp [lengthsText]
  have hne : ds ≠ [] := by
    rintro rfl
    exact absurd hds (by decide)
  obtain ⟨c, others, rfl⟩ := List.exists_cons_of_ne_nil hne
  unfold lengths?
  split
  · rename_i he; cases he
  · rename_i he
    exact absurd (List.cons.inj (List.cons.inj he).2).1 (hslash c List.mem_cons_self)
  · rename_i he
    obtain ⟨-, rfl⟩ := List.cons.inj he
    dsimp only
    rw [htake, hdrop, hds, Bool.not_true, if_neg Bool.false_ne_true]
    cases q with
    | none => rfl
    | some six => exact if_pos (hq six rfl)
  · rename_i hno
    exact absurd rfl (hno _)

/-- What is read as lengths is how they are written. -/
theorem lengths?_iff :
    lengths? cs = some (p, q) ↔
      lengthsText p q = cs ∧ (∀ ds ∈ p, isLength 2 ds = true) ∧ ∀ ds ∈ q, isLength 3 ds = true := by
  constructor
  · intro h
    exact ⟨lengths?_text h, lengths?_isLength h⟩
  · rintro ⟨rfl, hp, hq⟩
    cases p with
    | none =>
      cases q with
      | none => rfl
      | some six => exact if_pos (hq six rfl)
    | some four => exact lengths?_digits (hp four rfl) hq

/-! ## The split -/

/-- Lengths stand behind what is split off. -/
theorem splitChars_lengths (cs : List Char) :
    lengths? (lengthsText (splitChars cs).2.1 (splitChars cs).2.2) = some (splitChars cs).2 := by
  induction cs with
  | nil => rfl
  | cons c cs ih =>
    unfold splitChars
    split
    · rename_i p q h
      dsimp only
      rw [lengths?_text h, h]
    · exact ih

/-- No domain is cut off later than it could be. -/
theorem splitChars_earliest (h : lengths? cs = some (p, q)) :
    splitChars (d ++ cs) = (d, p, q) ∨ (splitChars (d ++ cs)).1.length < d.length := by
  induction d with
  | nil =>
    refine Or.inl ?_
    cases cs with
    | nil =>
      obtain ⟨rfl, rfl⟩ := Prod.mk.inj (Option.some.inj h)
      rfl
    | cons c cs => rw [List.nil_append, splitChars, h]
  | cons c d ih =>
    rw [List.cons_append, splitChars]
    cases lengths? (c :: (d ++ cs)) with
    | some found => exact Or.inr (Nat.succ_pos _)
    | none =>
      rcases ih with he | hlt
      · exact Or.inl (by rw [he])
      · exact Or.inr (Nat.succ_lt_succ hlt)

/-- There is no place to cut at in front of the first slash. -/
theorem splitChars_append (hd : '/' ∉ d) (cs : List Char) :
    splitChars (d ++ cs) = (d ++ (splitChars cs).1, (splitChars cs).2) := by
  induction d with
  | nil => rfl
  | cons c d ih =>
    have hc : c ≠ '/' := fun he => hd (he ▸ List.mem_cons_self)
    rw [List.cons_append, splitChars, lengths?_other hc, ih fun hm => hd (List.mem_cons_of_mem _ hm)]
    rfl

theorem splitChars_noSlash (h : '/' ∉ cs) : splitChars cs = (cs, none, none) := by
  have happend := splitChars_append h []
  rwa [List.append_nil, show (splitChars []).1 = [] from rfl, List.append_nil] at happend

theorem splitChars_written (hd : '/' ∉ d) (h : lengths? cs = some (p, q)) : splitChars (d ++ cs) = (d, p, q) := by
  rcases splitChars_earliest (d := []) h with he | hlt
  · rw [List.nil_append] at he
    rw [splitChars_append hd, he, List.append_nil]
  · exact absurd hlt (Nat.not_lt_zero _)

/-! ## Values -/

theorem toList_nonempty (cs : List Char) : ((nonempty cs).getD "").toList = cs := by
  unfold nonempty
  cases cs with
  | nil => rfl
  | cons c cs => exact String.toList_ofList

theorem nonempty_ne_empty (cs : List Char) : nonempty cs ≠ some "" := by
  intro he
  have hnil : cs = [] := by rw [← toList_nonempty cs, he]; rfl
  rw [hnil] at he
  cases he

theorem nonempty_toList {domain : Option String} (h : domain ≠ some "") : nonempty (domain.getD "").toList = domain := by
  cases domain with
  | none => rfl
  | some text =>
    have hne : text.toList ≠ [] := fun he => h (congrArg some (String.toList_injective he))
    rw [Option.getD_some, nonempty, if_neg (by simpa using hne), String.ofList_toList]

theorem body_of_noBlank (h : '\n' ∉ value.toList) : body (some value) = value.toList := by
  unfold body
  dsimp only [Option.getD_some]
  rw [if_neg]
  intro hlast
  exact h (List.mem_of_getLast? (beq_iff_eq.mp hlast))

theorem split?_eq (h : '\n' ∉ value.toList) : split? (some value) = some (ofChars value.toList) := by
  rw [split?, split, body_of_noBlank h, if_neg (by simpa using h)]

/-- A length as it is written. -/
structure IsNumeral (most : Nat) (text : String) : Prop where
  nonempty : 1 ≤ text.length
  short : text.length ≤ most
  digits : ∀ c ∈ text.toList, isDecimal c = true

theorem isLength_iff : isLength most ds = true ↔ IsNumeral most (String.ofList ds) := by
  unfold isLength
  rw [Bool.and_eq_true, Bool.and_eq_true, decide_eq_true_eq, decide_eq_true_eq, List.all_eq_true]
  constructor
  · rintro ⟨⟨hone, hmost⟩, hdigits⟩
    exact ⟨by rwa [String.length_ofList], by rwa [String.length_ofList], by rwa [String.toList_ofList]⟩
  · rintro ⟨hone, hmost, hdigits⟩
    rw [String.length_ofList] at hone hmost
    rw [String.toList_ofList] at hdigits
    exact ⟨⟨hone, hmost⟩, hdigits⟩

namespace Parts

/-- The domain, which is not written where it is missing. -/
def target (parts : Parts) : String := parts.domain.getD ""

/-- The parts one behind the other, as a value holds them. -/
def text (parts : Parts) : String :=
  parts.target ++ (parts.v4.elim "" ("/" ++ ·) ++ parts.v6.elim "" ("//" ++ ·))

/-- Lengths of one or two digits for IPv4 and of one to three for IPv6, and no domain that is there without a character. -/
structure Proper (parts : Parts) : Prop where
  domain : parts.domain ≠ some ""
  v4 : ∀ length ∈ parts.v4, IsNumeral 2 length
  v6 : ∀ length ∈ parts.v6, IsNumeral 3 length

theorem toList_text (parts : Parts) :
    parts.text.toList = parts.target.toList ++ lengthsText (parts.v4.map String.toList) (parts.v6.map String.toList) := by
  obtain ⟨domain, v4, v6⟩ := parts
  cases v4 <;> cases v6 <;> simp [text, lengthsText]

/-- Lengths in proper form are read as they are, whatever the domain is. -/
theorem Proper.lengths?_text (h : parts.Proper) :
    lengths? (lengthsText (parts.v4.map String.toList) (parts.v6.map String.toList)) =
      some (parts.v4.map String.toList, parts.v6.map String.toList) := by
  refine lengths?_iff.mpr ⟨rfl, fun ds hds => ?_, fun ds hds => ?_⟩
  · obtain ⟨text, htext, rfl⟩ := Option.map_eq_some_iff.mp hds
    exact isLength_iff.mpr (by rw [String.ofList_toList]; exact h.v4 text htext)
  · obtain ⟨text, htext, rfl⟩ := Option.map_eq_some_iff.mp hds
    exact isLength_iff.mpr (by rw [String.ofList_toList]; exact h.v6 text htext)

/-- A split gives proper parts, and they make up what is split. -/
theorem proper_ofChars (cs : List Char) : (ofChars cs).Proper ∧ (ofChars cs).text.toList = cs := by
  obtain ⟨hv4, hv6⟩ := lengths?_isLength (splitChars_lengths cs)
  refine ⟨⟨nonempty_ne_empty _, fun text htext => ?_, fun text htext => ?_⟩, ?_⟩
  · obtain ⟨ds, hds, rfl⟩ := Option.map_eq_some_iff.mp htext
    exact isLength_iff.mp (hv4 ds hds)
  · obtain ⟨ds, hds, rfl⟩ := Option.map_eq_some_iff.mp htext
    exact isLength_iff.mp (hv6 ds hds)
  · have hback : ∀ length : Option (List Char), (length.map String.ofList).map String.toList = length := by
      intro length
      cases length <;> simp
    calc (ofChars cs).text.toList
        = (splitChars cs).1 ++ lengthsText (splitChars cs).2.1 (splitChars cs).2.2 := by
          rw [toList_text, target, show (ofChars cs).domain = nonempty (splitChars cs).1 from rfl, toList_nonempty,
            show (ofChars cs).v4 = (splitChars cs).2.1.map String.ofList from rfl,
            show (ofChars cs).v6 = (splitChars cs).2.2.map String.ofList from rfl, hback, hback]
      _ = cs := splitChars_join cs

/-- Parts are those of a split if they are so character by character. -/
theorem ofChars_eq (h : parts.domain ≠ some "")
    (he : splitChars cs = (parts.target.toList, parts.v4.map String.toList, parts.v6.map String.toList)) :
    ofChars cs = parts := by
  have hback : ∀ length : Option String, (length.map String.toList).map String.ofList = length := by
    intro length
    cases length <;> simp
  unfold ofChars
  rw [he]
  dsimp only
  rw [hback, hback, target, nonempty_toList h]

end Parts

/-- A value is split into parts that make it up again, with lengths of one or two digits and of one to three, and all
other such parts that make it up have a longer domain; parts without a slash in the domain are what their text is split
into. -/
theorem split_earliest :
    (∀ value : String, '\n' ∉ value.toList → ∃ parts, split? (some value) = some parts ∧ parts.Proper ∧ parts.text = value ∧
      ∀ other : Parts, other.Proper → other.text = value → other ≠ parts → parts.target.length < other.target.length) ∧
    ∀ parts : Parts, parts.Proper → '/' ∉ parts.target.toList → '\n' ∉ parts.target.toList →
      split? (some parts.text) = some parts := by
  constructor
  · intro value hline
    obtain ⟨hproper, htext⟩ := Parts.proper_ofChars value.toList
    refine ⟨ofChars value.toList, split?_eq hline, hproper, String.toList_injective htext, ?_⟩
    intro other hother hvalue hne
    have hchars : value.toList = _ := (congrArg String.toList hvalue).symm.trans other.toList_text
    rcases splitChars_earliest (d := other.target.toList) hother.lengths?_text with he | hlt
    · rw [← hchars] at he
      exact absurd (Parts.ofChars_eq hother.domain he).symm hne
    · rw [← hchars] at hlt
      rw [← String.length_toList, ← String.length_toList (s := other.target)]
      rwa [Parts.target, show (ofChars value.toList).domain = nonempty (splitChars value.toList).1 from rfl, toList_nonempty]
  · intro parts hparts hslash hline
    have hchars := splitChars_written hslash hparts.lengths?_text
    rw [← parts.toList_text] at hchars
    have htext : '\n' ∉ parts.text.toList := by
      rw [parts.toList_text, List.mem_append, not_or]
      exact ⟨hline, fun hm => absurd (inLengths_of_lengths? hparts.lengths?_text _ hm) (by decide)⟩
    rw [split?_eq htext, Parts.ofChars_eq hparts.domain hchars]

theorem split_earliest_slashed :
    split? (some "a//64/24") = some ⟨some "a//64", some "24", none⟩ ∧ "a//64".length < "a//64/24".length ∧
      split? (some (Parts.text ⟨some "a.example", some "24", some "64"⟩)) = some ⟨some "a.example", some "24", some "64"⟩ := by
  have hwhole : Parts.Proper ⟨some "a//64/24", none, none⟩ := ⟨by decide, by simp, by simp⟩
  have hnumeral : ∀ most, 2 ≤ most → IsNumeral most "24" ∧ IsNumeral most "64" := fun most hmost =>
    ⟨⟨by decide, hmost, by simp; decide⟩, ⟨by decide, hmost, by simp; decide⟩⟩
  obtain ⟨parts, hsplit, -, -, hearliest⟩ := split_earliest.1 "a//64/24" (by decide)
  have hparts : split? (some "a//64/24") = some ⟨some "a//64", some "24", none⟩ := by decide
  obtain rfl : _ = parts := Option.some.inj (hparts.symm.trans hsplit)
  refine ⟨hparts, hearliest _ hwhole (by decide) (by decide), split_earliest.2 _ ⟨by decide, ?_, ?_⟩ (by decide) (by decide)⟩
  · rintro _ ⟨⟩
    exact (hnumeral 2 (by decide)).1
  · rintro _ ⟨⟩
    exact (hnumeral 3 (by decide)).2

end SenderPolicy.Cidr
