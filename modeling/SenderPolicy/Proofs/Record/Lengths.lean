/-
  SenderPolicy.Proofs.Record.Lengths — which lengths of `a` and `mx` are checked.

  The grammar of a term takes any number of digits behind a slash, and slashes inside a domain. The splitter that
  the check goes by takes two digits for IPv4 and three for IPv6; what it does not take as a length it leaves to
  the domain. So a length that is too large is rejected only if it is written with so few digits, and longer runs
  of digits are never looked at as numbers.
  - `Cidr.splitChars_length`: what is split off a value that ends in a slash and digits, or two slashes and digits.
  - `LengthTerm.WellFormed.readTerm`: what such a term yields, whatever has been read before it.
  - `lengths_enforced_iff`: and what the record says of it.
-/

import SenderPolicy.Installed
import SenderPolicy.Proofs.Record.Returning
import SenderPolicy.Proofs.Term.DualLengths

namespace SenderPolicy

open Text

namespace Cidr

/-! ## What is split off -/

/-- What stands before a length for IPv4, and before one for IPv6. -/
def slashes : Family → List Char
  | .v4 => ['/']
  | .v6 => ['/', '/']

/-- How many digits are read of a length. -/
def mostDigits : Family → Nat
  | .v4 => 2
  | .v6 => 3

section Digits

variable {p : List Char}

theorem slash_not_mem_digits (h : ∀ c ∈ p, c.isDigit = true) : '/' ∉ p := fun hm => absurd (h _ hm) (by decide)

theorem isLength_digits (hne : p ≠ []) (h : ∀ c ∈ p, c.isDigit = true) (most : Nat) :
    isLength most p = decide (p.length ≤ most) := by
  have hpos : 1 ≤ p.length := List.length_pos_iff.mpr hne
  have hdecimal : p.all isDecimal = true := by
    rw [List.all_eq_true]
    intro c hc
    have hlow : c.toNat < 128 := by
      have hbounds := toNat_of_isDigit (h c hc)
      omega
    rw [isDecimal_ascii hlow, h c hc]
  rw [isLength, hdecimal, decide_eq_true hpos, Bool.true_and, Bool.and_true]

theorem lengths?_first (hne : p ≠ []) (h : ∀ c ∈ p, c.isDigit = true) :
    lengths? ('/' :: p) = if p.length ≤ 2 then some (some p, none) else none := by
  have hslash : ∀ c ∈ p, (c != '/') = true := by
    intro c hc
    rw [bne_iff_ne]
    rintro rfl
    exact slash_not_mem_digits h hc
  have htake : p.takeWhile (· != '/') = p := List.takeWhile_eq_self_iff.mpr hslash
  have hdrop : p.dropWhile (· != '/') = [] := List.dropWhile_eq_nil_iff.mpr hslash
  unfold lengths?
  split
  · rename_i he; cases he
  · rename_i q he
    obtain ⟨-, rfl⟩ := List.cons.inj he
    exact absurd (hslash '/' List.mem_cons_self) (by decide)
  · rename_i rest _ he
    obtain ⟨-, rfl⟩ := List.cons.inj he
    rw [htake, hdrop]
    dsimp only
    rw [isLength_digits hne h]
    by_cases hlong : p.length ≤ 2 <;> simp [hlong]
  · rename_i hno
    exact absurd rfl (hno p)

/-- A run of digits that is short enough is split off; of a longer one nothing is. -/
theorem splitChars_length (hne : p ≠ []) (h : ∀ c ∈ p, c.isDigit = true) (family : Family) :
    splitChars (slashes family ++ p) =
      if p.length ≤ mostDigits family then
        ([], if family = .v4 then some p else none, if family = .v6 then some p else none)
      else (slashes family ++ p, none, none) := by
  have hrest : splitChars p = (p, none, none) := splitChars_noSlash (slash_not_mem_digits h)
  have hone : splitChars ('/' :: p) = if p.length ≤ 2 then ([], some p, none) else ('/' :: p, none, none) := by
    rw [splitChars, lengths?_first hne h]
    by_cases hlong : p.length ≤ 2
    · rw [if_pos hlong, if_pos hlong]
    · rw [if_neg hlong, if_neg hlong, hrest]
  cases family with
  | v4 => exact hone
  | v6 =>
    have htwo : lengths? ('/' :: '/' :: p) = if p.length ≤ 3 then some (none, some p) else none := by
      show (if isLength 3 p then _ else _) = _
      rw [isLength_digits hne h]
      simp
    show splitChars ('/' :: '/' :: p) = if p.length ≤ 3 then ([], none, some p) else ('/' :: '/' :: p, none, none)
    rw [splitChars, htwo, hone]
    by_cases hlong : p.length ≤ 3
    · rw [if_pos hlong, if_pos hlong]
    · rw [if_neg hlong, if_neg hlong, if_neg (by omega)]

end Digits

end Cidr

namespace Record

open Mechanism (Kind)
open Cidr (slashes mostDigits)

/-! ## Terms -/

/-- A term of `a` or `mx`, with a domain or without one, and with one length. -/
structure LengthTerm where
  kind : Kind
  domain : Option (List Char)
  family : Family
  digits : List Char

namespace LengthTerm

def value (t : LengthTerm) : String := String.ofList (t.domain.getD [] ++ (slashes t.family ++ t.digits))

def text (t : LengthTerm) : String := t.kind.name ++ (if t.domain.isSome then ":" else "") ++ t.value

structure WellFormed (t : LengthTerm) : Prop where
  kind : t.kind = .a ∨ t.kind = .mx
  domain : ∀ d ∈ t.domain, d ≠ [] ∧ ∀ c ∈ d, Grammar.isDomainChar c = true ∧ c ≠ '/' ∧ c ≠ '%'
  nonempty : t.digits ≠ []
  digits : ∀ c ∈ t.digits, c.isDigit = true

instance (t : LengthTerm) : Decidable t.WellFormed :=
  decidable_of_iff
    ((t.kind = .a ∨ t.kind = .mx) ∧
      (t.domain.all fun d => !d.isEmpty && d.all fun c => Grammar.isDomainChar c && c != '/' && c != '%') = true ∧
      t.digits ≠ [] ∧ t.digits.all (·.isDigit) = true)
    (by
      simp only [Option.all_eq_true, Bool.and_eq_true, List.all_eq_true, bne_iff_ne, Bool.not_eq_true', List.isEmpty_eq_false_iff,
        and_assoc]
      exact ⟨fun ⟨hk, hd, hne, hp⟩ => ⟨hk, hd, hne, hp⟩, fun ⟨hk, hd, hne, hp⟩ => ⟨hk, hd, hne, hp⟩⟩)

/-- Whether the length is too large, and read as a length. -/
def IsRejected (t : LengthTerm) : Prop := t.family.width < number t.digits ∧ t.digits.length ≤ mostDigits t.family

instance (t : LengthTerm) : Decidable t.IsRejected := inferInstanceAs (Decidable (_ ∧ _))

/-- The mechanism that the term says if it is not rejected. -/
def mechanism (t : LengthTerm) : Mechanism where
  kind := t.kind
  qualifier := .pass
  value := some t.value
  lookups := 1
  hasMacros := false
  macroCount := 0
  resolvedIps := []
  errors := []

end LengthTerm

/-! ## One term -/

namespace LengthTerm

variable {t : LengthTerm}

theorem WellFormed.standard (h : t.WellFormed) : t.kind ∈ Kind.standard := by
  rcases h.kind with hk | hk <;> rw [hk] <;> decide

theorem WellFormed.slash_not_mem_domain (h : t.WellFormed) : '/' ∉ t.domain.getD [] := by
  cases hd : t.domain with
  | none => simp
  | some d => exact fun hm => ((h.domain d hd).2 _ hm).2.1 rfl

theorem WellFormed.mem_value (h : t.WellFormed) {c : Char} (hc : c ∈ t.value.toList) : Grammar.isDomainChar c = true ∧ c ≠ '%' := by
  rw [value, String.toList_ofList] at hc
  rcases List.mem_append.mp hc with hc | hc
  · cases hd : t.domain with
    | none => rw [hd] at hc; cases hc
    | some d =>
      rw [hd] at hc
      exact ⟨((h.domain d hd).2 c hc).1, ((h.domain d hd).2 c hc).2.2⟩
  rcases List.mem_append.mp hc with hc | hc
  · have hslash : c = '/' := by cases hf : t.family <;> rw [hf] at hc <;> simpa [slashes] using hc
    rw [hslash]
    decide
  · have hdigit := h.digits c hc
    have hbounds := toNat_of_isDigit hdigit
    refine ⟨?_, ?_⟩
    · rw [Grammar.isDomainChar, isWord, if_pos (by omega), Char.isAlphanum, hdigit]
      simp
    · rintro rfl
      exact absurd hdigit (by decide)

/-- The value ends in a digit, so it has no line end to lose. -/
theorem WellFormed.body_value (h : t.WellFormed) : Cidr.body (some t.value) = t.value.toList := by
  have hlast : t.value.toList.getLast? ≠ some '\n' := by
    intro hl
    have hmem := List.mem_of_getLast? hl
    exact absurd (h.mem_value hmem).1 (by decide)
  rw [Cidr.body]
  simp [hlast]

theorem WellFormed.split_value (h : t.WellFormed) : Cidr.split (some t.value) =
    if t.digits.length ≤ mostDigits t.family then
      ⟨Cidr.nonempty (t.domain.getD []), if t.family = .v4 then some (String.ofList t.digits) else none,
        if t.family = .v6 then some (String.ofList t.digits) else none⟩
    else ⟨some t.value, none, none⟩ := by
  rw [Cidr.split, h.body_value, value, String.toList_ofList, Cidr.ofChars, Cidr.splitChars_append h.slash_not_mem_domain,
    Cidr.splitChars_length h.nonempty h.digits]
  by_cases hlong : t.digits.length ≤ mostDigits t.family
  · simp only [if_pos hlong, List.append_nil]
    cases t.family <;> rfl
  · have hsome : (t.domain.getD [] ++ (slashes t.family ++ t.digits)).isEmpty = false := by
      simp [h.nonempty]
    simp only [if_neg hlong, Cidr.nonempty, hsome]
    rfl

theorem WellFormed.checkValue (h : t.WellFormed) :
    Mechanism.checkValue t.kind (some t.value) = if t.IsRejected then some (.badLength t.family t.value) else none := by
  have hlengths : Mechanism.checkLengths (some t.value) = if t.IsRejected then some (.badLength t.family t.value) else none := by
    unfold Mechanism.checkLengths
    rw [h.split_value]
    clear h
    obtain ⟨kind, domain, family, digits⟩ := t
    by_cases hlong : digits.length ≤ mostDigits family
    · cases family <;> simp [hlong, Mechanism.exceeds, IsRejected]
    · simp [hlong, Mechanism.exceeds, IsRejected]
  rcases h.kind with hk | hk <;> rw [hk] <;> exact hlengths

/-- The domain that is looked at has no percent sign, as the value has none. -/
theorem WellFormed.percent_not_mem_target (h : t.WellFormed) : '%' ∉ ((Mechanism.target? t.kind (some t.value)).getD "").toList := by
  have hvalue : '%' ∉ t.value.toList := fun hm => (h.mem_value hm).2 rfl
  have htarget : Mechanism.target? t.kind (some t.value) = (Cidr.split (some t.value)).domain := by
    rcases h.kind with hk | hk <;> rw [hk] <;> rfl
  rw [htarget, h.split_value]
  split
  · unfold Cidr.nonempty
    dsimp only
    split
    · simp
    · rw [Option.getD_some, String.toList_ofList]
      intro hm
      rw [value, String.toList_ofList] at hvalue
      exact hvalue (List.mem_append_left _ hm)
  · exact hvalue

/-- What stands behind the keyword. -/
theorem WellFormed.restOf_value (h : t.WellFormed) :
    Token.restOf (some t.value) = (if t.domain.isSome then [':'] else []) ++ t.value.toList := by
  have hhead : t.value.toList.head? = some '/' ↔ t.domain.isSome = false := by
    rw [value, String.toList_ofList]
    cases hd : t.domain with
    | none => cases t.family <;> simp [slashes]
    | some d =>
      obtain ⟨hne, hchars⟩ := h.domain d hd
      obtain ⟨c, cs, rfl⟩ := List.exists_cons_of_ne_nil hne
      simp [(hchars c List.mem_cons_self).2.1]
  unfold Token.restOf
  dsimp only
  cases hd : t.domain.isSome with
  | false => rw [if_pos (beq_iff_eq.mpr (hhead.mpr hd))]; rfl
  | true =>
    rw [if_neg fun he => by rw [hhead.mp (beq_iff_eq.mp he)] at hd; cases hd]
    rfl

theorem WellFormed.text_eq (h : t.WellFormed) : t.text = (⟨t.kind.name, .pass, some t.value⟩ : Term).text := by
  apply String.toList_injective
  rw [Token.toList_text, h.restOf_value, text, String.toList_append, String.toList_append]
  cases t.domain.isSome <;> simp [Qualifier.mark]

theorem WellFormed.shape (h : t.WellFormed) :
    Token.mechanism? t.text.toList = some ⟨.pass, t.kind.name.toList, Token.restOf (some t.value)⟩ := by
  rw [h.text_eq]
  exact Token.mechanism?_text h.standard rfl List.mem_cons_self

theorem some?_all {p : Char → Bool} {cs : List Char} (hne : cs ≠ []) (h : ∀ c ∈ cs, p c = true) : Grammar.some? p cs = some [] := by
  obtain ⟨c, cs, rfl⟩ := List.exists_cons_of_ne_nil hne
  obtain ⟨hc, hcs⟩ := List.forall_mem_cons.mp h
  rw [Grammar.some?, if_pos hc, List.dropWhile_eq_nil_iff.mpr hcs]

/-- The grammar takes the length as one, or as the end of the domain. -/
theorem WellFormed.check_text [Expectations] (h : t.WellFormed) : Grammar.check t.text = none := by
  rw [Token.check_mechanism h.shape h.standard (standard_fold _ h.standard)]
  show Token.behind? t.kind (Token.restOf (some t.value)) = some []
  have hbehind : ∀ cs, Token.behind? t.kind cs
      = some (Grammar.optional Grammar.secondLength? (Grammar.optional Grammar.length? (Grammar.optional Grammar.domain? cs))) := by
    intro cs
    rcases h.kind with hk | hk <;> rw [hk] <;> rfl
  rw [hbehind, h.restOf_value]
  cases hd : t.domain with
  | some d =>
    have hne : t.value.toList ≠ [] := by
      rw [value, String.toList_ofList]
      simp [h.nonempty]
    have hdomain : Grammar.domain? (':' :: t.value.toList) = some [] := some?_all hne fun c hc => (h.mem_value hc).1
    have hrest : Grammar.optional Grammar.domain? (':' :: t.value.toList) = [] := by
      rw [Grammar.optional, hdomain]
      rfl
    show some (Grammar.optional _ (Grammar.optional _ (Grammar.optional Grammar.domain? (':' :: t.value.toList)))) = _
    rw [hrest]
    rfl
  | none =>
    have hdigits : Grammar.some? Char.isDigit t.digits = some [] := some?_all h.nonempty h.digits
    have hvalue : t.value.toList = slashes t.family ++ t.digits := by
      rw [value, String.toList_ofList, hd]
      rfl
    rw [hvalue]
    cases t.family with
    | v4 =>
      have hlength : Grammar.length? ('/' :: t.digits) = some [] := hdigits
      show some (Grammar.optional _ (Grammar.optional Grammar.length? ('/' :: t.digits))) = _
      rw [Grammar.optional.eq_def Grammar.length?, hlength]
      rfl
    | v6 =>
      have hlength : Grammar.secondLength? ('/' :: '/' :: t.digits) = some [] := hdigits
      show some (Grammar.optional Grammar.secondLength? ('/' :: '/' :: t.digits)) = _
      rw [Grammar.optional, hlength]
      rfl

/-- What the term yields, whatever has been read before it. -/
theorem WellFormed.readTerm [Packages] (h : t.WellFormed) (seen : Seen) :
    readTerm seen t.text = .ok (if t.IsRejected then .rejected t.text (.badLength t.family t.value)
      else .mechanism t.mechanism [] (mechanismWarnings t.text t.kind ((Mechanism.target? t.kind (some t.value)).getD ""))) := by
  have hterm : (⟨.pass, t.kind.name.toList, Token.restOf (some t.value)⟩ : Token.Written).term = ⟨t.kind.name, .pass, some t.value⟩ := by
    simp only [Token.Written.term, Token.value?_restOf, String.ofList_toList, (Token.standard_names _ h.standard).2.1]
  have hcost : t.kind.lookups? = some 1 := by rcases h.kind with hk | hk <;> rw [hk] <;> rfl
  have hmacros : macrosOf ((Mechanism.target? t.kind (some t.value)).getD "") = .ok ⟨[], 0, [], [], [], []⟩ :=
    if_neg fun hm => h.percent_not_mem_target (List.contains_iff_mem.mp hm)
  have hplain : opensExpression t.value.toList = false := opensExpression_plain fun hm => (h.mem_value hm).2 rfl
  unfold Record.readTerm
  rw [h.shape]
  show readMechanism t.text _ = _
  unfold readMechanism
  rw [hterm]
  simp only [Kind.ofName_name h.standard, h.check_text, h.checkValue, hmacros, hcost]
  by_cases hr : t.IsRejected
  · simp only [if_pos hr]
  · simp only [if_neg hr, Option.getD_some, hplain]
    rfl

end LengthTerm

/-! ## Records -/

variable {t : LengthTerm} {record : String} {r : Record}

/-- A record with such a term is read if its other terms are. It rejects the term exactly if the length is too large and
short enough to be read as one, and then for its length; else the term is one of its mechanisms. -/
theorem lengths_enforced_iff [Packages] (ht : t.WellFormed) {before after : List String}
    (hterms : terms record = before ++ t.text :: after) :
    ((∃ r, read record = .ok r) ↔ ∀ before' token after', terms record = before' ++ token :: after' → token ≠ t.text →
      termHalts (seenIn before') token = false) ∧
    ∀ r, read record = .ok r →
      ((∃ reason, .rejected t.text reason ∈ r.problems) ↔ t.IsRejected) ∧
      (t.IsRejected → .rejected t.text (.badLength t.family t.value) ∈ r.problems) ∧
      (¬ t.IsRejected → t.mechanism ∈ r.mechanisms) := by
  refine ⟨?_, fun r h => ?_⟩
  · have hnever : ∀ seen, termHalts seen t.text = false := by
      intro seen
      have hok := isOk_readTerm seen t.text
      rw [ht.readTerm] at hok
      exact Bool.not_eq_eq_eq_not.mp hok.symm
    rw [exists_read_iff, isOk_readTerms]
    refine ⟨fun hall before' token after' hs _ => hall before' token after' hs, fun hall before' token after' hs => ?_⟩
    by_cases he : token = t.text
    · rw [he]
      exact hnever _
    · exact hall before' token after' hs he
  · have hrejected : t.IsRejected → .rejected t.text (.badLength t.family t.value) ∈ r.problems := by
      intro hr
      obtain ⟨os, hread, rfl⟩ := read_ok h
      obtain ⟨o, hat, ho⟩ := readTerms_getElem? hread _ _ _ hterms
      rw [ht.readTerm, if_pos hr] at ho
      cases ho
      exact List.mem_append_right _ (List.mem_flatMap.mpr ⟨_, List.mem_of_getElem? hat, List.mem_singleton.mpr rfl⟩)
    refine ⟨⟨?_, fun hr => ⟨_, hrejected hr⟩⟩, hrejected, fun hr => ?_⟩
    · rintro ⟨reason, hm⟩
      obtain ⟨seen, hread⟩ := exists_rejected h hm
      rw [ht.readTerm] at hread
      by_contra hr
      rw [if_neg hr] at hread
      cases hread
    · obtain ⟨os, hread, rfl⟩ := read_ok h
      obtain ⟨o, hat, ho⟩ := readTerms_getElem? hread _ _ _ hterms
      rw [ht.readTerm, if_neg hr] at ho
      cases ho
      exact List.mem_filterMap.mpr ⟨_, List.mem_of_getElem? hat, rfl⟩

/-- A length one too large behind a domain that looks like a length itself, and a length that is just right. -/
theorem lengths_enforced_iff_domain :
    ∃ r, read "v=spf1 mx:a.24//129 a:a.example/32 -all" = .ok r ∧
      .rejected "mx:a.24//129" (.badLength .v6 "a.24//129") ∈ r.problems ∧
      (∃ m ∈ r.mechanisms, m.kind = .a ∧ m.value = some "a.example/32") ∧
      ∀ reason, .rejected "a:a.example/32" reason ∉ r.problems := by
  obtain ⟨r, h⟩ : ∃ r, read "v=spf1 mx:a.24//129 a:a.example/32 -all" = .ok r := exists_read (by decide +kernel)
  have hlarge : (⟨.mx, some "a.24".toList, .v6, "129".toList⟩ : LengthTerm).WellFormed := by decide +kernel
  have hright : (⟨.a, some "a.example".toList, .v4, "32".toList⟩ : LengthTerm).WellFormed := by decide +kernel
  have hfirst : terms "v=spf1 mx:a.24//129 a:a.example/32 -all"
      = [] ++ LengthTerm.text ⟨.mx, some "a.24".toList, .v6, "129".toList⟩ :: ["a:a.example/32", "-all"] := by decide +kernel
  have hsecond : terms "v=spf1 mx:a.24//129 a:a.example/32 -all"
      = ["mx:a.24//129"] ++ LengthTerm.text ⟨.a, some "a.example".toList, .v4, "32".toList⟩ :: ["-all"] := by decide +kernel
  obtain ⟨-, hrejected, -⟩ := (lengths_enforced_iff hlarge hfirst).2 r h
  obtain ⟨honly, -, hkept⟩ := (lengths_enforced_iff hright hsecond).2 r h
  refine ⟨r, h, ?_, ⟨_, hkept (by decide +kernel), rfl, by decide +kernel⟩, fun reason hm => ?_⟩
  · exact hrejected (by decide +kernel)
  · exact absurd (honly.mp ⟨reason, hm⟩) (by decide +kernel)

/-- Three digits are no length for IPv4, so they are left to the domain. -/
theorem third_digit_is_not_checked :
    32 < number "128".toList ∧ terms "v=spf1 a/128 -all" = ["a/128", "-all"] ∧
      ∃ r, read "v=spf1 a/128 -all" = .ok r ∧ r.problems = [] ∧
        r.mechanisms.map (fun m => (m.kind, m.value)) = [(.a, some "/128"), (.all, none)] := by
  obtain ⟨r, h⟩ : ∃ r, read "v=spf1 a/128 -all" = .ok r := exists_read (by decide +kernel)
  have hproblems : (read "v=spf1 a/128 -all").toOption.map (·.problems) = some [] := by decide +kernel
  have hms : (read "v=spf1 a/128 -all").toOption.map (fun r => r.mechanisms.map fun m => (m.kind, m.value))
      = some [(.a, some "/128"), (.all, none)] := by decide +kernel
  rw [h] at hproblems hms
  exact ⟨by decide, by decide +kernel, r, h, Option.some.inj hproblems, Option.some.inj hms⟩

end Record

end SenderPolicy
