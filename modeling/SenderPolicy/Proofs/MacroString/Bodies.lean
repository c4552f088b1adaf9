/-
  SenderPolicy.Proofs.MacroString.Bodies — what the body of an expression says.

  A body is a letter, digits, maybe an `r`, and delimiters. It is read without fault if there is such a letter, if the
  digits spell a number that is not too large, and if the delimiters are some. The number of labels is then at least one
  and there is always a delimiter to cut at.
  - `readBody_iff`: when a body is read without fault, and as what.
  - `Says.exists_count`, `Says.delimiters_ne_nil`: the bounds of what it says.
-/

import SenderPolicy.Proofs.MacroString.Numerals

namespace SenderPolicy.MacroString

open Text (isDigit)

/-- The dot, if there are no delimiters, and else each of them once. -/
def orDot (ds : List Char) : List Char := if ds.isEmpty then ['.'] else ds.eraseDups

/-- What the letter `c` and the characters behind it say, if they are read without fault. -/
structure Says (c : Char) (rest : List Char) (b : Body) : Prop where
  letter : Letter.ofChar? c = some b.letter
  digits : readDigits (rest.takeWhile isDigit) = .ok b.transformers.digits
  count : ∀ n ∈ b.transformers.digits, n ≠ 0 ∧ n ≤ maxDigits
  reversed : b.transformers.reversed = (takeReversal (rest.dropWhile isDigit)).1
  allowed : ∀ d ∈ (takeReversal (rest.dropWhile isDigit)).2, isDelimiter d = true
  delimiters : b.transformers.delimiters = orDot (takeReversal (rest.dropWhile isDigit)).2
  encoded : b.transformers.encoded = c.isUpper

theorem readBody_iff {body : List Char} {b : Body} : readBody body = .ok (.ok b) ↔ ∃ c rest, body = c :: rest ∧ Says c rest b := by
  cases body with
  | nil =>
    constructor
    · intro h; cases h
    · rintro ⟨c, rest, h, -⟩; cases h
  | cons c rest =>
    constructor
    · intro h
      refine ⟨c, rest, rfl, ?_⟩
      unfold readBody at h
      dsimp only at h
      cases hl : Letter.ofChar? c with
      | none => rw [hl] at h; cases h
      | some l =>
        rw [hl] at h
        cases hd : readDigits (rest.takeWhile isDigit) with
        | error e => rw [hd] at h; cases h
        | ok digits =>
          rw [hd] at h
          dsimp only at h
          split at h
          · cases h
          rename_i hcount
          split at h
          · cases h
          rename_i hnone
          cases h
          refine ⟨hl, hd, fun n hn => ?_, rfl, fun d hmem => ?_, rfl, rfl⟩
          · have hn : digits = some n := hn
            simpa [hn] using hcount
          · simpa using List.findIdx?_eq_none_iff.mp hnone d hmem
    · rintro ⟨c', rest', hcons, h⟩
      obtain ⟨rfl, rfl⟩ := List.cons.inj hcons
      obtain ⟨hl, hd, hcount, hreversed, hallowed, hdelimiters, hencoded⟩ := h
      have hfits : (b.transformers.digits.any fun n : Int => n == 0 || n > maxDigits) = false := by
        cases hdigits : b.transformers.digits with
        | none => rfl
        | some n => simpa using hcount n hdigits
      have hnone : (takeReversal (rest.dropWhile isDigit)).2.findIdx? (!isDelimiter ·) = none := by
        rw [List.findIdx?_eq_none_iff]
        intro d hmem
        rw [hallowed d hmem]
        rfl
      unfold readBody
      simp only [hl, hd, hfits, hnone, Bool.false_eq_true, if_false]
      rw [← hreversed, ← hencoded]
      have hdots : (if (takeReversal (rest.dropWhile isDigit)).2.isEmpty then ['.']
          else (takeReversal (rest.dropWhile isDigit)).2.eraseDups) = b.transformers.delimiters := hdelimiters.symm
      rw [hdots]

/-- A number of labels is at least one and at most 128. -/
theorem Says.exists_count {c : Char} {rest : List Char} {b : Body} (h : Says c rest b) :
    b.transformers.digits = none ∨ ∃ n : Nat, b.transformers.digits = some (n : Int) ∧ 1 ≤ n ∧ n ≤ 128 := by
  cases hdigits : b.transformers.digits with
  | none => exact .inl rfl
  | some i =>
    have hrun : ∀ d ∈ rest.takeWhile isDigit, isDigit d = true := List.all_eq_true.mp List.all_takeWhile
    have hread := h.digits
    rw [hdigits] at hread
    have hnonneg : 0 ≤ i := by
      unfold readDigits at hread
      split at hread
      · cases hread
      · obtain ⟨j, hj, he⟩ := map_eq_ok hread
        obtain rfl := Option.some.inj he
        exact Text.readInt_nonneg hrun hj
    obtain ⟨hlow, hhigh⟩ := h.count i hdigits
    unfold maxDigits at hhigh
    exact .inr ⟨i.toNat, by rw [Int.toNat_of_nonneg hnonneg], by omega, by omega⟩

theorem Says.delimiters_ne_nil {c : Char} {rest : List Char} {b : Body} (h : Says c rest b) : b.transformers.delimiters ≠ [] := by
  rw [h.delimiters]
  unfold orDot
  cases (takeReversal (rest.dropWhile isDigit)).2 with
  | nil => simp
  | cons d ds => simp [List.eraseDups_cons]

end SenderPolicy.MacroString
