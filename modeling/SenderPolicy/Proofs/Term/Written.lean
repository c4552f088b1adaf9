/-
  SenderPolicy.Proofs.Term.Written — terms and the tokens they are written as.

  A token says no more than its characters: the value of its term is a part of it. The other way round the
  written form of a mechanism of the standard has the shape of that mechanism, and the written form of a
  modifier is the token it was read from.
  - `mem_value_of_term?`: every character of a value stands in the token.
  - `term?_text`: the written form of a mechanism reads back, value, qualifier and all.
  - `Writable.word`: and it is a word of its record.
  - `text_of_modifier?`: that of a modifier is its token.
-/

import SenderPolicy.Proofs.Text.Words
import SenderPolicy.Term.Token

namespace SenderPolicy.Token

open Text
open Mechanism (Kind)

variable {token : List Char} {w : Written}

/-! ## From the token to the term -/

theorem unqualified_sublist (cs : List Char) : (Grammar.unqualified cs).Sublist cs := by
  unfold Grammar.unqualified Grammar.qualifier?
  cases cs with
  | nil => exact .refl _
  | cons c cs =>
    dsimp only
    cases Qualifier.ofSymbol? c with
    | none => exact .refl _
    | some q => exact List.sublist_cons_self c cs

theorem mechanism?_parts (h : mechanism? token = some w) :
    w.rest.Sublist token ∧ w.keyword.Sublist token ∧ w.qualifier ∈ Qualifier.standard := by
  unfold mechanism? at h
  dsimp only at h
  split at h
  · cases h
    refine ⟨(List.dropWhile_sublist _).trans (unqualified_sublist _),
      (List.takeWhile_sublist _).trans (unqualified_sublist _), ?_⟩
    unfold Grammar.qualifier?
    cases token with
    | nil => simp [Qualifier.standard]
    | cons c cs =>
      dsimp only
      unfold Qualifier.ofSymbol?
      split <;> simp [Qualifier.standard]
  · cases h

theorem mem_value {rest : List Char} {v : String} (h : value? rest = some v) {c : Char} (hc : c ∈ v.toList) : c ∈ rest := by
  unfold value? at h
  split at h
  · cases h
  · rename_i d ds
    obtain rfl := Option.some.inj h
    rw [String.toList_ofList] at hc
    split at hc
    · exact List.mem_cons_of_mem _ hc
    · exact hc

theorem modifier?_sublist {name value : String} (h : modifier? token = some (name, value)) : value.toList.Sublist token := by
  rw [← modifier?_join h]
  exact (List.sublist_cons_self _ _).trans (List.sublist_append_right _ _)

theorem mem_value_of_term? {token : String} {t : Term} (h : term? token = some t) {v : String} (hv : t.value = some v)
    {c : Char} (hc : c ∈ v.toList) : c ∈ token.toList := by
  unfold term? at h
  split at h
  · rename_i w hm
    obtain rfl := Option.some.inj h
    exact (mechanism?_parts hm).1.subset (mem_value hv hc)
  · obtain ⟨⟨name, value⟩, hm, rfl⟩ := Option.map_eq_some_iff.mp h
    obtain rfl := Option.some.inj hv
    exact (modifier?_sublist hm).subset hc

/-! ## From the term to the token -/

/-- The names of the standard are in lower case, spell themselves, and begin like no qualifier. -/
theorem standard_names : ∀ k ∈ Kind.standard, keywords.any (spells k.name.toList ·) = true ∧
    lower k.name = k.name ∧ k.name.toList.all (!endsKeyword ·) = true ∧
      (k.name.toList.head?.bind Qualifier.ofSymbol?).isNone = true ∧ k.name.toList ≠ [] := by decide

theorem takeWhile_keyword {name rest : List Char} (hn : name.all (!endsKeyword ·) = true)
    (hr : ∀ c ∈ rest.head?, endsKeyword c = true) :
    (name ++ rest).takeWhile (!endsKeyword ·) = name ∧ (name ++ rest).dropWhile (!endsKeyword ·) = rest := by
  have hall := List.all_eq_true.mp hn
  rw [List.takeWhile_append_of_pos hall, List.dropWhile_append_of_pos hall]
  cases rest with
  | nil => simp
  | cons c cs => simp [hr c rfl]

theorem mechanism?_written {q : Qualifier} (hq : q ∈ Qualifier.standard) {k : Kind} (hk : k ∈ Kind.standard)
    {rest : List Char} (hr : ∀ c ∈ rest.head?, endsKeyword c = true) :
    mechanism? (q.mark.toList ++ (k.name.toList ++ rest)) = some ⟨q, k.name.toList, rest⟩ := by
  obtain ⟨hspells, _, hends, hsymbol, hne⟩ := standard_names k hk
  obtain ⟨htake, hdrop⟩ := takeWhile_keyword hends hr
  have hread : Grammar.unqualified (q.mark.toList ++ (k.name.toList ++ rest)) = k.name.toList ++ rest ∧
      ((Grammar.qualifier? (q.mark.toList ++ (k.name.toList ++ rest))).map (·.1)).getD .pass = q := by
    cases q with
    | pass =>
      obtain ⟨c, cs, hc⟩ := List.exists_cons_of_ne_nil hne
      rw [hc] at hsymbol ⊢
      have hnone : Qualifier.ofSymbol? c = none := by simpa using hsymbol
      simp [Qualifier.mark, Grammar.unqualified, Grammar.qualifier?, hnone]
    | other text => simp [Qualifier.standard] at hq
    | _ => exact ⟨rfl, rfl⟩
  unfold mechanism?
  simp only [hread.1, hread.2, htake, hdrop, hspells, if_true]

/-- What stands behind the name. -/
def restOf : Option String → List Char
  | none => []
  | some v => if v.toList.head? == some '/' then v.toList else ':' :: v.toList

theorem value?_restOf (value : Option String) : value? (restOf value) = value := by
  cases value with
  | none => rfl
  | some v =>
    unfold restOf
    dsimp only
    split
    · rename_i h
      obtain ⟨cs, hcs⟩ := List.head?_eq_some_iff.mp (beq_iff_eq.mp h)
      have hv : v = String.ofList ('/' :: cs) := by rw [← hcs, String.ofList_toList]
      rw [hv, String.toList_ofList]
      rfl
    · exact congrArg some String.ofList_toList

theorem toList_text (t : Term) : t.text.toList = t.qualifier.mark.toList ++ (t.name.toList ++ restOf t.value) := by
  unfold Term.text restOf
  cases t.value with
  | none => simp
  | some v => dsimp only; split <;> simp

theorem mechanism?_text {t : Term} {k : Kind} (hk : k ∈ Kind.standard) (hn : t.name = k.name)
    (hq : t.qualifier ∈ Qualifier.standard) :
    mechanism? t.text.toList = some ⟨t.qualifier, k.name.toList, restOf t.value⟩ := by
  have hr : ∀ c ∈ (restOf t.value).head?, endsKeyword c = true := by
    intro c hc
    unfold restOf at hc
    split at hc
    · cases hc
    · split at hc
      · rename_i h
        rw [beq_iff_eq.mp h] at hc
        cases hc; rfl
      · cases hc; rfl
  rw [toList_text, hn]
  exact mechanism?_written hq hk hr

/-- The written form of a mechanism reads back. -/
theorem term?_text {t : Term} {k : Kind} (hk : k ∈ Kind.standard) (hn : t.name = k.name)
    (hq : t.qualifier ∈ Qualifier.standard) : term? t.text = some t := by
  unfold term?
  rw [mechanism?_text hk hn hq]
  simp only [Written.term, value?_restOf, String.ofList_toList, (standard_names k hk).2.1]
  rw [← hn]

/-- A mechanism of the standard, whose value can stand in a word of a record. -/
structure Writable (t : Term) : Prop where
  standard : ∃ k ∈ Kind.standard, t.name = k.name
  qualifier : t.qualifier ∈ Qualifier.standard
  value : ∀ v ∈ t.value, ∀ c ∈ v.toList, isBlank c = false ∧ c ≠ '"'

theorem Writable.reads {t : Term} (h : Writable t) : term? t.text = some t := by
  obtain ⟨k, hk, hn⟩ := h.standard
  exact term?_text hk hn h.qualifier

theorem standard_plain : (∀ q ∈ Qualifier.standard, ∀ c ∈ q.mark.toList, isBlank c = false ∧ c ≠ '"') ∧
    ∀ k ∈ Kind.standard, ∀ c ∈ k.name.toList, isBlank c = false ∧ c ≠ '"' := by
  have hmarks : ∀ q ∈ Qualifier.standard, (q.mark.toList.all fun c => !isBlank c && c != '"') = true := by decide
  have hnames : ∀ k ∈ Kind.standard, (k.name.toList.all fun c => !isBlank c && c != '"') = true := by decide
  refine ⟨fun q hq c hc => ?_, fun k hk c hc => ?_⟩
  · simpa using List.all_eq_true.mp (hmarks q hq) c hc
  · simpa using List.all_eq_true.mp (hnames k hk) c hc

theorem mem_restOf {value : Option String} {c : Char} (h : c ∈ restOf value) : c = ':' ∨ ∃ v ∈ value, c ∈ v.toList := by
  unfold restOf at h
  split at h
  · cases h
  · rename_i v
    split at h
    · exact Or.inr ⟨v, rfl, h⟩
    · exact (List.mem_cons.mp h).imp id fun h => ⟨v, rfl, h⟩

/-- The written form is a word without quotes. -/
theorem Writable.word {t : Term} (h : Writable t) : IsPlainWord t.text := by
  obtain ⟨k, hk, hn⟩ := h.standard
  have hplain : ∀ c ∈ t.text.toList, isBlank c = false ∧ c ≠ '"' := by
    intro c hc
    rw [toList_text, hn] at hc
    rcases List.mem_append.mp hc with hc | hc
    · exact standard_plain.1 _ h.qualifier c hc
    rcases List.mem_append.mp hc with hc | hc
    · exact standard_plain.2 k hk c hc
    rcases mem_restOf hc with rfl | ⟨v, hv, hc⟩
    · decide
    · exact h.value v hv c hc
  refine ⟨⟨fun he => ?_, fun c hc => (hplain c hc).1⟩, fun hq => (hplain _ hq).2 rfl⟩
  rw [toList_text, hn, List.append_eq_nil_iff, List.append_eq_nil_iff] at he
  exact (standard_names k hk).2.2.2.2 he.2.1

/-- The written form of a modifier is its token. -/
theorem text_of_modifier? {token : String} {name value : String} (h : modifier? token.toList = some (name, value)) :
    name ++ "=" ++ value = token := by
  apply String.toList_injective
  rw [← modifier?_join h]
  simp

example : term? (⟨"a", .softFail, some "/24//64"⟩ : Term).text = some ⟨"a", .softFail, some "/24//64"⟩ := by decide

end SenderPolicy.Token
