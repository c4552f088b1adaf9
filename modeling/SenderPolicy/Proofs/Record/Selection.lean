/-
  SenderPolicy.Proofs.Record.Selection — which TXT record of a domain is its policy.

  A text announces a policy when it begins, without its quotes, with the tag in any case, and nothing or a space is
  behind the tag. The selection lowers the whole text, in every script, and the reader only its first word; but no
  character outside ASCII is lowered to one of the tag, and there is no blank in it. So a text is a candidate exactly
  when it announces a policy, and then the first word of the selected record is the tag.
  - `isCandidate_iff`: the candidates are the texts that announce a policy.
  - `select_ok_iff_only`, `select_perm`: the record is that of the only one of them, in any order.
  - `selected_once`: what is selected, and that its readers agree with the selection.
-/

import Mathlib.Data.List.Basic
import SenderPolicy.Installed
import SenderPolicy.Proofs.Advice.QuotedStrings
import SenderPolicy.Proofs.Text.Lowering
import SenderPolicy.Record.Tokens

namespace SenderPolicy.Record

open Text

variable {cs tag rest : List Char} {texts : List String} {text record domain : String}

/-! ## The texts that announce a policy -/

/-- A text as the tag, in any case, and the rest, which is nothing or begins with a space. -/
structure Begins (cs tag rest : List Char) : Prop where
  split : cs = tag ++ rest
  isTag : tag.map Char.toLower = versionTag.toList
  behind : rest = [] ∨ ∃ more, rest = ' ' :: more

/-- A TXT record that is meant as a policy. -/
def Announces (text : String) : Prop := ∃ tag rest, Begins (unquote text).toList tag rest

theorem versionTag_apart : lowersApart (versionTag.toList ++ [' ']) = true := by decide +kernel

theorem isCandidate_iff_begins : isCandidate text = true ↔ ∃ tag rest, Begins text.toList tag rest := by
  have htag : ∀ k ∈ versionTag.toList, k ∈ versionTag.toList ++ [' '] := fun k hk => List.mem_append_left _ hk
  unfold isCandidate
  dsimp only
  rw [Bool.or_eq_true, beq_iff_eq, List.isPrefixOf_iff_prefix, String.toList_append, lowerChars]
  constructor
  · rintro (hall | ⟨ds, hprefix⟩)
    · rw [← List.append_nil versionTag.toList] at hall
      obtain ⟨tag, rest, hsplit, hlower, hrest⟩ := (lowerFrom_eq_append_iff versionTag_apart htag).mp hall
      exact ⟨tag, rest, hsplit, hlower, Or.inl (lowerFrom_eq_nil_iff.mp hrest)⟩
    · obtain ⟨word, more, hsplit, hlower, -⟩ := (lowerFrom_eq_append_iff versionTag_apart fun k hk => hk).mp hprefix.symm
      obtain ⟨tag, space, rfl, htag, hspace⟩ := List.map_eq_append_iff.mp hlower
      obtain ⟨c, rfl, hc⟩ := List.map_eq_singleton_iff.mp hspace
      obtain rfl := (toLower_eq_iff rfl).mp hc
      exact ⟨tag, ' ' :: more, by simpa using hsplit, htag, Or.inr ⟨more, rfl⟩⟩
  · rintro ⟨tag, rest, hsplit, hlower, rfl | ⟨more, rfl⟩⟩
    · refine Or.inl ?_
      rw [← List.append_nil versionTag.toList]
      exact (lowerFrom_eq_append_iff versionTag_apart htag).mpr ⟨tag, [], hsplit, hlower, rfl⟩
    · refine Or.inr ⟨_, ((lowerFrom_eq_append_iff versionTag_apart fun k hk => hk).mpr
        ⟨tag ++ [' '], more, by rw [hsplit, List.append_assoc, List.singleton_append], ?_, rfl⟩).symm⟩
      rw [List.map_append, hlower]
      rfl

/-- The candidates are the texts that announce a policy, without their quotes. -/
theorem isCandidate_iff : isCandidate (unquote text) = true ↔ Announces text := isCandidate_iff_begins

/-! ## The selected text -/

/-- A record is selected when one text announces a policy, and no other one does. -/
theorem select_ok_iff_only :
    select texts domain = .ok record ↔
      ∃ before text after, texts = before ++ text :: after ∧ Announces text ∧ (∀ t ∈ before ++ after, ¬ Announces t) ∧
        unquote text = record := by
  have hp : ∀ t, (isCandidate ∘ unquote) t = true ↔ Announces t := by
    intro t
    rw [Function.comp_apply, isCandidate_iff]
  rw [select_ok_iff, candidates, List.filter_map, List.map_eq_singleton_iff]
  constructor
  · rintro ⟨text, hone, hrecord⟩
    obtain ⟨before, after, hsplit, hbefore, htext, hafter⟩ := List.filter_eq_cons_iff.mp hone
    refine ⟨before, text, after, hsplit, (hp text).mp htext, fun t ht hannounces => ?_, hrecord⟩
    rcases List.mem_append.mp ht with ht | ht
    · exact hbefore t ht ((hp t).mpr hannounces)
    · exact List.filter_eq_nil_iff.mp hafter t ht ((hp t).mpr hannounces)
  · rintro ⟨before, text, after, hsplit, htext, hothers, hrecord⟩
    refine ⟨text, List.filter_eq_cons_iff.mpr ⟨before, after, hsplit, fun t ht hc => ?_, (hp text).mpr htext, ?_⟩, hrecord⟩
    · exact hothers t (List.mem_append_left _ ht) ((hp t).mp hc)
    · exact List.filter_eq_nil_iff.mpr fun t ht hc => hothers t (List.mem_append_right _ ht) ((hp t).mp hc)

/-- The selection does not depend on the order of the texts. -/
theorem select_perm {texts' : List String} (h : texts.Perm texts') : select texts' domain = select texts domain := by
  have hcandidates : (candidates texts).Perm (candidates texts') := (h.map unquote).filter isCandidate
  unfold select
  generalize candidates texts = found at hcandidates
  generalize candidates texts' = found' at hcandidates
  match found, hcandidates with
  | [], hp => rw [List.Perm.nil_eq hp]
  | [record], hp => rw [List.perm_singleton.mp hp.symm]
  | _ :: _ :: _, hp =>
    have hlength := hp.length_eq
    match found', hlength with
    | _ :: _ :: _, _ => rfl

/-! ## What the readers make of it -/

theorem unquote_unquote (text : String) : unquote (unquote text) = unquote text := by
  obtain ⟨hquote, hhead, hlast⟩ := unquote_plain text
  rw [unquote, unquoteChars_self hquote hhead hlast, String.ofList_toList]

theorem tag_small : ∀ n < 128, (Char.ofNat n).toLower ∈ versionTag.toList → isBlank (Char.ofNat n) = false := by decide

/-- The characters of the tag are ASCII ones, and none of them is a blank. -/
theorem tag_chars (h : tag.map Char.toLower = versionTag.toList) : ∀ c ∈ tag, c.toNat < 128 ∧ isBlank c = false := by
  intro c hc
  have hmem : c.toLower ∈ versionTag.toList := h ▸ List.mem_map_of_mem hc
  by_cases hsmall : c.toNat < 128
  · have hblank := tag_small c.toNat hsmall
    rw [Char.ofNat_toNat] at hblank
    exact ⟨hsmall, hblank hmem⟩
  · rw [toLower_of_large (Nat.le_of_not_lt hsmall)] at hmem
    have hall : versionTag.toList.all (·.toNat < 128) = true := by decide
    exact absurd (of_decide_eq_true (List.all_eq_true.mp hall c hmem)) hsmall

/-- The tag is the first word of the text. -/
theorem Begins.words (h : Begins cs tag rest) : ∃ others, runs isBlank cs = tag :: others := by
  obtain ⟨rfl, htag, hrest⟩ := h
  have hblank : ∀ c ∈ tag, isBlank c = false := fun c hc => (tag_chars htag c hc).2
  have hne : tag.isEmpty = false := by
    rw [List.isEmpty_eq_false_iff]
    rintro rfl
    cases htag
  rcases hrest with rfl | ⟨more, rfl⟩
  · exact ⟨[], by simp [runs, List.splitOnP_eq_singleton hblank, hne]⟩
  · refine ⟨runs isBlank more, ?_⟩
    rw [runs, List.splitOnP_append_cons_of_forall_mem hblank ' ' (by decide), List.filter_cons_of_pos (by simp [hne]), runs]

/-- The first word of a text that announces a policy is the version, in any case. -/
theorem isVersion_of_announces (h : Announces text) : isVersion ((tokens text).headD "") = true := by
  obtain ⟨tag, rest, hbegins⟩ := h
  obtain ⟨others, hwords⟩ := hbegins.words
  rw [tokens, words, hwords, List.map_cons, List.headD_cons, isVersion, beq_iff_eq, lower, String.toList_ofList,
    lowerChars_ascii fun c hc => (tag_chars hbegins.isTag c hc).1, hbegins.isTag, String.ofList_toList]

theorem tokenize_congr (h : unquote text = unquote record) : tokenize text = tokenize record := by
  rw [tokenize, tokens, h, ← tokens, ← tokenize]

/-- What is selected. The record does not depend on the order of the texts; it is that of the only text that announces a
policy; it is read as a valid record with itself as its text, and has the terms of the text that it came from. -/
theorem selected_once [Packages] (texts : List String) (domain : String) :
    (∀ texts', texts.Perm texts' → select texts' domain = select texts domain) ∧
      (∀ record, select texts domain = .ok record ↔
        ∃ before text after, texts = before ++ text :: after ∧ Announces text ∧ (∀ t ∈ before ++ after, ¬ Announces t) ∧
          unquote text = record) ∧
      ∀ record, select texts domain = .ok record →
        (∀ r, read record = .ok r → r.raw = record ∧ r.isValid = true) ∧
          ∀ text ∈ texts, Announces text → tokenize record = tokenize text := by
  refine ⟨fun texts' => select_perm, fun record => select_ok_iff_only, fun record hselect => ?_⟩
  obtain ⟨before, text, after, rfl, htext, hothers, rfl⟩ := select_ok_iff_only.mp hselect
  refine ⟨fun r hread => ?_, fun t ht hannounces => ?_⟩
  · obtain ⟨os, -, rfl⟩ := read_ok (read_congr (unquote_unquote text) ▸ hread)
    exact ⟨rfl, isVersion_of_announces htext⟩
  · have hsame : t = text := by
      by_contra hne
      exact hothers t (by simpa [hne] using ht) hannounces
    rw [hsame, tokenize_congr (unquote_unquote text)]

def quotedTag : String := "\"V=SPF1\" \" -all\""

theorem read_upperTag : ∃ r, read "V=SPF1 -all" = .ok r := by
  have htokens : (tokens "V=SPF1 -all").drop 1 = ["-all"] := by decide
  obtain ⟨os, hos⟩ : ∃ os, readTerms ⟨false, false⟩ ["-all"] = .ok os := ⟨_, by rfl⟩
  exact ⟨_, by rw [read, htokens, hos]; rfl⟩

/-- A tag in capitals, published as two strings, and behind a text that announces another version. -/
theorem selected_once_quoted :
    select ["v=spf10 +all", quotedTag] "a.example" = .ok "V=SPF1 -all" ∧
      select [quotedTag, "v=spf10 +all"] "a.example" = .ok "V=SPF1 -all" ∧
      (∃ r, read "V=SPF1 -all" = .ok r ∧ r.raw = "V=SPF1 -all" ∧ r.isValid = true) ∧
      tokenize "V=SPF1 -all" = tokenize quotedTag := by
  obtain ⟨horder, honly, hread⟩ := selected_once ["v=spf10 +all", quotedTag] "a.example"
  have hannounces : Announces quotedTag := isCandidate_iff.mp (by decide)
  have hother : ¬ Announces "v=spf10 +all" := fun h => absurd (isCandidate_iff.mpr h) (by decide)
  have hselect := (honly "V=SPF1 -all").mpr
    ⟨["v=spf10 +all"], quotedTag, [], rfl, hannounces, by simpa using hother, by decide⟩
  obtain ⟨hvalid, hterms⟩ := hread _ hselect
  obtain ⟨r, hr⟩ := read_upperTag
  exact ⟨hselect, (horder _ (List.Perm.swap _ _ [])).trans hselect, ⟨r, hr, hvalid r hr⟩, hterms quotedTag (by simp) hannounces⟩

end SenderPolicy.Record
