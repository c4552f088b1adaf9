/-
  SenderPolicy.Proofs.Text.Words — the words of a text, and the text that words make up.

  A word is not empty and holds no white space. Words put together with single spaces are read as the same
  words again, and such a text has no white space at its ends.
  - `mem_words`: what a word of a text looks like.
  - `words_unwords`: written words read back.
  - `unquote_unwords`: words without quotes are left as they are.
-/

import Mathlib.Data.List.Basic
import SenderPolicy.Record.Unquote

namespace SenderPolicy.Text

/-- A part of a text holds characters of the text, and none of those it is cut at. -/
theorem mem_splitOnP {p : Char → Bool} {cs r : List Char} (hr : r ∈ cs.splitOnP p) {c : Char} (hc : c ∈ r) :
    c ∈ cs ∧ p c = false := by
  induction cs generalizing r with
  | nil =>
    rw [List.splitOnP_nil, List.mem_singleton] at hr
    rw [hr] at hc
    cases hc
  | cons d cs ih =>
    rw [List.splitOnP_cons_eq_if_modifyHead] at hr
    split at hr
    · rcases List.mem_cons.mp hr with rfl | hr
      · cases hc
      · obtain ⟨hm, hp⟩ := ih hr hc
        exact ⟨List.mem_cons_of_mem _ hm, hp⟩
    · rename_i hd
      obtain ⟨first, others, hs⟩ := List.exists_cons_of_ne_nil (List.splitOnP_ne_nil p cs)
      rw [hs, List.modifyHead_cons] at hr
      rcases List.mem_cons.mp hr with rfl | hr
      · rcases List.mem_cons.mp hc with rfl | hc
        · exact ⟨List.mem_cons_self, by simpa using hd⟩
        · obtain ⟨hm, hp⟩ := ih (by rw [hs]; exact List.mem_cons_self) hc
          exact ⟨List.mem_cons_of_mem _ hm, hp⟩
      · obtain ⟨hm, hp⟩ := ih (by rw [hs]; exact List.mem_cons_of_mem _ hr) hc
        exact ⟨List.mem_cons_of_mem _ hm, hp⟩

/-- A text that can stand between blanks as a word. -/
structure IsWord (w : String) : Prop where
  nonempty : w.toList ≠ []
  noBlank : ∀ c ∈ w.toList, isBlank c = false

theorem mem_words {s w : String} (h : w ∈ words s) : IsWord w ∧ ∀ c ∈ w.toList, c ∈ s.toList := by
  obtain ⟨r, hr, rfl⟩ := List.mem_map.mp h
  have hm := (List.mem_filter.mp hr).1
  refine ⟨⟨by simpa using runs_nonempty hr, fun c hc => ?_⟩, fun c hc => ?_⟩
  · exact (mem_splitOnP hm (by simpa using hc)).2
  · exact (mem_splitOnP hm (by simpa using hc)).1

/-- Words with a space between each two of them. -/
def unwords (ws : List String) : String := " ".intercalate ws

theorem toList_unwords (ws : List String) : (unwords ws).toList = [' '].intercalate (ws.map String.toList) := by
  simp [unwords, String.toList_intercalate]

theorem mem_intercalate {separator c : Char} {parts : List (List Char)} (h : c ∈ [separator].intercalate parts) :
    c = separator ∨ ∃ p ∈ parts, c ∈ p := by
  induction parts with
  | nil => cases h
  | cons p ps ih =>
    cases ps with
    | nil => exact Or.inr ⟨p, List.mem_singleton_self p, by simpa using h⟩
    | cons q qs =>
      rw [List.intercalate_cons_cons, List.append_assoc, List.singleton_append] at h
      rcases List.mem_append.mp h with h | h
      · exact Or.inr ⟨p, List.mem_cons_self, h⟩
      rcases List.mem_cons.mp h with h | h
      · exact Or.inl h
      rcases ih h with h | ⟨r, hr, hc⟩
      · exact Or.inl h
      · exact Or.inr ⟨r, List.mem_cons_of_mem _ hr, hc⟩

theorem runs_unwords {ws : List (List Char)} (h : ∀ w ∈ ws, w ≠ [] ∧ ∀ c ∈ w, isBlank c = false) :
    runs isBlank ([' '].intercalate ws) = ws := by
  induction ws with
  | nil => rfl
  | cons w ws ih =>
    obtain ⟨hne, hw⟩ := h w List.mem_cons_self
    have hwe : w.isEmpty = false := by rw [List.isEmpty_eq_false_iff]; exact hne
    have ih := ih fun v hv => h v (List.mem_cons_of_mem _ hv)
    cases ws with
    | nil => simp [runs, List.splitOnP_eq_singleton hw, hwe]
    | cons v vs =>
      rw [List.intercalate_cons_cons, List.append_assoc, List.singleton_append]
      unfold runs at ih ⊢
      rw [List.splitOnP_append_cons_of_forall_mem hw ' ' (by decide), List.filter_cons_of_pos (by simp [hwe]), ih]

theorem words_unwords {ws : List String} (h : ∀ w ∈ ws, IsWord w) : words (unwords ws) = ws := by
  have hr : runs isBlank ([' '].intercalate (ws.map String.toList)) = ws.map String.toList := by
    refine runs_unwords fun w hw => ?_
    obtain ⟨v, hv, rfl⟩ := List.mem_map.mp hw
    exact ⟨(h v hv).nonempty, (h v hv).noBlank⟩
  rw [words, toList_unwords, hr]
  simp

/-! ## The ends of a text -/

theorem trimEnd_sublist (p : Char → Bool) (cs : List Char) : (trimEnd p cs).Sublist cs := by
  have h := List.sublist_append_left (trimEnd p cs) (cs.reverse.takeWhile p).reverse
  rwa [trimEnd_append] at h

theorem trim_sublist (p : Char → Bool) (cs : List Char) : (trim p cs).Sublist cs :=
  (trimEnd_sublist p _).trans (List.dropWhile_sublist p)

theorem last_trimEnd {p : Char → Bool} (cs : List Char) : ∀ c ∈ (trimEnd p cs).getLast?, p c = false := by
  intro c hc
  rw [trimEnd, List.getLast?_reverse] at hc
  have h := List.head?_dropWhile_not p cs.reverse
  rw [hc] at h
  simpa using h

theorem head_trim {p : Char → Bool} (cs : List Char) : ∀ c ∈ (trim p cs).head?, p c = false := by
  intro c hc
  have happend := trimEnd_append p (cs.dropWhile p)
  have hdrop : (cs.dropWhile p).head? = some c := by
    rw [← happend, List.head?_append, show (trimEnd p (cs.dropWhile p)).head? = some c from hc]
    rfl
  have h := List.head?_dropWhile_not p cs
  rw [hdrop] at h
  simpa using h

theorem last_trim {p : Char → Bool} (cs : List Char) : ∀ c ∈ (trim p cs).getLast?, p c = false := last_trimEnd _

theorem trimEnd_self {p : Char → Bool} {cs : List Char} (h : ∀ c ∈ cs.getLast?, p c = false) : trimEnd p cs = cs := by
  rw [trimEnd]
  cases hr : cs.reverse with
  | nil => simpa using hr.symm
  | cons c r =>
    have hc : p c = false := h c (by rw [List.getLast?_eq_head?_reverse, hr]; rfl)
    rw [List.dropWhile_cons_of_neg (by simp [hc]), ← hr, List.reverse_reverse]

theorem trim_self {p : Char → Bool} {cs : List Char} (hh : ∀ c ∈ cs.head?, p c = false)
    (hl : ∀ c ∈ cs.getLast?, p c = false) : trim p cs = cs := by
  have hd : cs.dropWhile p = cs := by
    cases cs with
    | nil => rfl
    | cons c cs => exact List.dropWhile_cons_of_neg (by simp [hh c rfl])
  rw [trim, hd, trimEnd_self hl]

theorem trim_of_forall {p : Char → Bool} {cs : List Char} (h : ∀ c ∈ cs, p c = false) : trim p cs = cs :=
  trim_self (fun c hc => h c (List.mem_of_head? hc)) fun c hc => h c (List.mem_of_getLast? hc)

theorem strip_of_noBlank {s : String} (h : ∀ c ∈ s.toList, isBlank c = false) : strip s = s := by
  rw [strip, trim_of_forall h, String.ofList_toList]

/-! ## Words without quotes -/

/-- Words have no blank at the ends, one by one or put together. -/
theorem ends_intercalate {ws : List (List Char)} (h : ∀ w ∈ ws, w ≠ [] ∧ ∀ c ∈ w, isBlank c = false) :
    (∀ c ∈ ([' '].intercalate ws).head?, isBlank c = false) ∧
      ∀ c ∈ ([' '].intercalate ws).getLast?, isBlank c = false := by
  induction ws with
  | nil => simp
  | cons w ws ih =>
    obtain ⟨hne, hw⟩ := h w List.mem_cons_self
    have ih := ih fun v hv => h v (List.mem_cons_of_mem _ hv)
    cases ws with
    | nil =>
      rw [List.intercalate_singleton]
      exact ⟨fun c hc => hw c (List.mem_of_head? hc), fun c hc => hw c (List.mem_of_getLast? hc)⟩
    | cons v vs =>
      have hrest : [' '].intercalate (v :: vs) ≠ [] := by
        obtain ⟨hv, _⟩ := h v (List.mem_cons_of_mem _ List.mem_cons_self)
        cases vs with
        | nil => rwa [List.intercalate_singleton]
        | cons u us =>
          rw [List.intercalate_cons_cons]
          exact List.append_ne_nil_of_left_ne_nil (List.append_ne_nil_of_left_ne_nil hv _) _
      rw [List.intercalate_cons_cons, List.append_assoc]
      refine ⟨fun c hc => ?_, fun c hc => ?_⟩
      · rw [List.head?_append_of_ne_nil _ hne] at hc
        exact hw c (List.mem_of_head? hc)
      · rw [List.getLast?_append_of_ne_nil _ (List.append_ne_nil_of_right_ne_nil _ hrest),
          List.getLast?_append_of_ne_nil _ hrest] at hc
        exact ih.2 c hc

/-- A text without quotes and without blanks at its ends is unquoted to itself. -/
theorem unquoteChars_self {cs : List Char} (hquote : '"' ∉ cs) (hhead : ∀ c ∈ cs.head?, isBlank c = false)
    (hlast : ∀ c ∈ cs.getLast?, isBlank c = false) : Record.unquoteChars cs = cs := by
  have htrim := trim_self hhead hlast
  rw [Record.unquoteChars, htrim, Record.joinFrom_plain hquote, htrim]

/-- A word of a record: there are no quotes left in it. -/
structure IsPlainWord (w : String) : Prop extends IsWord w where
  noQuote : '"' ∉ w.toList

theorem unquote_unwords {ws : List String} (h : ∀ w ∈ ws, IsPlainWord w) : Record.unquote (unwords ws) = unwords ws := by
  have hwords : ∀ w ∈ ws.map String.toList, w ≠ [] ∧ ∀ c ∈ w, isBlank c = false := by
    intro w hw
    obtain ⟨v, hv, rfl⟩ := List.mem_map.mp hw
    exact ⟨(h v hv).nonempty, (h v hv).noBlank⟩
  obtain ⟨hhead, hlast⟩ := ends_intercalate hwords
  have hquote : '"' ∉ [' '].intercalate (ws.map String.toList) := by
    intro hm
    rcases mem_intercalate hm with hm | ⟨w, hw, hm⟩
    · exact absurd hm (by decide)
    · obtain ⟨v, hv, rfl⟩ := List.mem_map.mp hw
      exact (h v hv).noQuote hm
  apply String.toList_injective
  rw [Record.unquote, String.toList_ofList, toList_unwords, unquoteChars_self hquote hhead hlast]

end SenderPolicy.Text
