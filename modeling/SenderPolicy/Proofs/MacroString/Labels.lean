/-
  SenderPolicy.Proofs.MacroString.Labels — what the transformers do to the labels of a field.

  A field is its labels and the delimiters between them, in one way only, and empty labels are labels as well. Dots put
  the labels together again: all of them, or the last few if there are digits. An `r` turns them around before any is
  dropped, so it is the first few of the field that remain then. Digits that ask for all labels or more change nothing.
  - `labelled_iff`: the labels are the only ones.
  - `intercalate_labels`: with a dot for every delimiter, the field is its own labels.
  - `label_laws`: the expansion of a field, for each choice of the digits and of the `r`.
-/

import Mathlib.Data.List.DropRight
import SenderPolicy.Proofs.MacroString.Braces

namespace SenderPolicy.MacroString

/-- The field is made of the labels, with one of the delimiters between any two. -/
inductive Labelled (delimiters : List Char) : List Char → List (List Char) → Prop
  | last {label : List Char} (hlabel : ∀ c ∈ label, c ∉ delimiters) : Labelled delimiters label [label]
  | more {label field : List Char} {d : Char} {labels : List (List Char)} (hlabel : ∀ c ∈ label, c ∉ delimiters)
      (hd : d ∈ delimiters) (hrest : Labelled delimiters field labels) : Labelled delimiters (label ++ d :: field) (label :: labels)

/-- The field with a dot for each of the delimiters. -/
def dotted (delimiters field : List Char) : List Char := field.map fun c => if c ∈ delimiters then '.' else c

def joined (labels : List (List Char)) : String := String.ofList (List.intercalate ['.'] labels)

/-! ## Labels -/

section Labelled

variable {delimiters field : List Char} {labels : List (List Char)}

/-- One more character at the front belongs to the first label. -/
theorem Labelled.cons {c : Char} (hc : c ∉ delimiters) (h : Labelled delimiters field labels) :
    Labelled delimiters (c :: field) (labels.modifyHead (c :: ·)) := by
  have hlonger : ∀ {label : List Char}, (∀ d ∈ label, d ∉ delimiters) → ∀ d ∈ c :: label, d ∉ delimiters := by
    intro label hlabel d hmem
    rcases List.mem_cons.mp hmem with rfl | hmem
    · exact hc
    · exact hlabel d hmem
  cases h with
  | last hlabel => exact .last (hlonger hlabel)
  | more hlabel hd hrest => exact .more (hlonger hlabel) hd hrest

/-- Each delimiter ends a label, and the last label ends with the field. -/
theorem Labelled.length_eq (h : Labelled delimiters field labels) :
    labels.length = 1 + field.countP (delimiters.contains ·) := by
  have hnone : ∀ {label : List Char}, (∀ c ∈ label, c ∉ delimiters) → label.countP (delimiters.contains ·) = 0 := by
    intro label hlabel
    rw [List.countP_eq_zero]
    intro c hmem
    simpa using hlabel c hmem
  induction h with
  | last hlabel => rw [hnone hlabel]; rfl
  | @more label field d labels hlabel hd hrest ih =>
    have hcount : (d :: field).countP (delimiters.contains ·) = field.countP (delimiters.contains ·) + 1 := by
      simp [hd]
    rw [List.length_cons, ih, List.countP_append, hnone hlabel, hcount]
    omega

theorem intercalate_labels (h : Labelled delimiters field labels) : List.intercalate ['.'] labels = dotted delimiters field := by
  have hkeep : ∀ {label : List Char}, (∀ c ∈ label, c ∉ delimiters) → dotted delimiters label = label := by
    intro label hlabel
    refine (List.map_congr_left fun c hmem => ?_).trans (List.map_id label)
    simp [hlabel c hmem]
  induction h with
  | last hlabel => rw [List.intercalate_singleton, hkeep hlabel]
  | @more label field d labels hlabel hd hrest ih =>
    have hsplit : dotted delimiters (label ++ d :: field) = dotted delimiters label ++ '.' :: dotted delimiters field := by
      simp [dotted, hd]
    cases hrest <;> simp [List.intercalate_cons_cons, ih, hsplit, hkeep hlabel]

theorem Labelled.no_delimiter (h : Labelled delimiters field labels) : ∀ label ∈ labels, ∀ c ∈ label, c ∉ delimiters := by
  intro label hmem
  induction h with
  | last hlabel =>
    rw [List.mem_singleton.mp hmem]
    exact hlabel
  | more hlabel hd hrest ih =>
    rcases List.mem_cons.mp hmem with rfl | hmem
    · exact hlabel
    · exact ih hmem

theorem Labelled.ne_nil (h : Labelled delimiters field labels) : labels ≠ [] := by
  cases h <;> exact List.cons_ne_nil _ _

/-- Labels with one and the same delimiter between them. -/
theorem labelled_intercalate {d : Char} (hd : d ∈ delimiters) (hne : labels ≠ [])
    (hlabels : ∀ label ∈ labels, ∀ c ∈ label, c ∉ delimiters) : Labelled delimiters (List.intercalate [d] labels) labels := by
  induction labels with
  | nil => exact absurd rfl hne
  | cons label labels ih =>
    have hlabel := hlabels label List.mem_cons_self
    cases labels with
    | nil =>
      rw [List.intercalate_singleton]
      exact .last hlabel
    | cons next labels =>
      rw [List.intercalate_cons_cons, List.append_assoc]
      exact .more hlabel hd (ih (List.cons_ne_nil _ _) fun l hl => hlabels l (List.mem_cons_of_mem _ hl))

/-- The labels of a field in the opposite order are those of another one. -/
theorem Labelled.reverse {d : Char} (hd : d ∈ delimiters) (h : Labelled delimiters field labels) :
    Labelled delimiters (List.intercalate [d] labels.reverse) labels.reverse :=
  labelled_intercalate hd (by simpa using h.ne_nil) fun label hmem => h.no_delimiter label (List.mem_reverse.mp hmem)

end Labelled

/-! ## Transformers -/

namespace Transformers

variable {t : Transformers} {field : List Char} {ls : List (List Char)}

theorem labelled_labels (t : Transformers) (field : List Char) : Labelled t.delimiters field (t.labels field) := by
  have hempty : ∀ c ∈ ([] : List Char), c ∉ t.delimiters := by simp
  induction field with
  | nil => exact .last hempty
  | cons c field ih =>
    have hstep : t.labels (c :: field) =
        if t.delimiters.contains c then [] :: t.labels field else (t.labels field).modifyHead (c :: ·) :=
      List.splitOnP_cons_eq_if_modifyHead c field
    rw [hstep]
    by_cases hc : c ∈ t.delimiters
    · rw [if_pos (by simpa using hc)]
      exact .more hempty hc ih
    · rw [if_neg (by simpa using hc)]
      exact ih.cons hc

theorem labelled_iff : Labelled t.delimiters field ls ↔ ls = t.labels field := by
  have hfree : ∀ {label : List Char}, (∀ c ∈ label, c ∉ t.delimiters) → ∀ c ∈ label, t.delimiters.contains c = false := by
    intro label hlabel c hmem
    simpa using hlabel c hmem
  constructor
  · intro h
    induction h with
    | last hlabel => exact (List.splitOnP_eq_singleton (hfree hlabel)).symm
    | @more label field d ls hlabel hd hrest ih =>
      have hsplit : t.labels (label ++ d :: field) = label :: t.labels field :=
        List.splitOnP_append_cons_of_forall_mem (hfree hlabel) d (by simpa using hd) field
      rw [hsplit, ih]
  · intro h
    rw [h]
    exact labelled_labels t field

/-- A positive number of labels, counted from the end. -/
theorem keep_count {n : Nat} (hn : 1 ≤ n) (ls : List (List Char)) :
    keep (some (n : Int)) ls = ls.drop (ls.length - min n ls.length) := by
  have hpos : (n : Int) > 0 := by omega
  have hdrop : ls.length - min n ls.length = ls.length - n := by omega
  rw [hdrop]
  exact if_pos hpos

end Transformers

/-! ## Expansions -/

section Expansions

variable {e : Expression} {ctx : Context} {v : String} {ls : List (List Char)}

/-- The labels of the field, turned around if asked for, as many as there are to be. -/
theorem expand_of_labelled (hne : e.transformers.delimiters ≠ []) (hplain : e.transformers.encoded = false)
    (hv : ctx.field e.letter = .ok (.str v)) (h : Labelled e.transformers.delimiters v.toList ls) :
    e.expand ctx = .ok (joined (Transformers.keep e.transformers.digits (if e.transformers.reversed then ls.reverse else ls))) := by
  have hempty : e.transformers.delimiters.isEmpty = false := by simpa using hne
  obtain rfl := Transformers.labelled_iff.mp h
  unfold Expression.expand
  rw [hv]
  show e.transformers.apply (.str v) = _
  unfold Transformers.apply Transformers.transform
  rw [hempty, hplain]
  rfl

/-- Without the digits a body says the same, but for the number. -/
theorem Says.without_digits {c : Char} {rest : List Char} {b : Body} (h : Says c rest b) :
    Says c (rest.dropWhile Text.isDigit) ⟨b.letter, { b.transformers with digits := none }⟩ := by
  have hbehind : (rest.dropWhile Text.isDigit).dropWhile Text.isDigit = rest.dropWhile Text.isDigit :=
    List.dropWhile_idempotent Text.isDigit rest
  have hrun : (rest.dropWhile Text.isDigit).takeWhile Text.isDigit = [] :=
    List.takeWhile_eq_nil_iff.mpr (List.dropWhile_eq_self_iff.mp hbehind)
  refine ⟨h.letter, ?_, fun n hn => ?_, ?_, ?_, ?_, h.encoded⟩
  · rw [hrun]
    rfl
  · cases hn
  · rw [hbehind]
    exact h.reversed
  · rw [hbehind]
    exact h.allowed
  · rw [hbehind]
    exact h.delimiters

/-- Digits that ask for as many labels as there are, or more, can as well be left out. -/
theorem expand_without_digits {c : Char} {rest : List Char} (hbrace : '\x7d' ∉ c :: rest)
    (hmeans : Says c rest ⟨e.letter, e.transformers⟩) (hplain : e.transformers.encoded = false)
    (hv : ctx.field e.letter = .ok (.str v)) (h : Labelled e.transformers.delimiters v.toList ls)
    {n : Nat} (hn : 1 ≤ n) (hdigits : e.transformers.digits = some (n : Int)) (hmany : ls.length ≤ n) :
    expandSingle ctx (braced (c :: rest.dropWhile Text.isDigit)) = e.expand ctx := by
  have hsuffix : '\x7d' ∉ c :: rest.dropWhile Text.isDigit := by
    intro hmem
    rcases List.mem_cons.mp hmem with hc | hmem
    · exact hbrace (hc ▸ List.mem_cons_self)
    · exact hbrace (List.mem_cons_of_mem _ ((List.dropWhile_suffix _).subset hmem))
  have hall : ∀ ls' : List (List Char), ls'.length = ls.length → Transformers.keep (some (n : Int)) ls' = ls' := by
    intro ls' hlength
    have hzero : ls'.length - min n ls'.length = 0 := by omega
    rw [Transformers.keep_count hn, hzero, List.drop_zero]
  have hlength : (if e.transformers.reversed then ls.reverse else ls).length = ls.length := by
    split
    · exact List.length_reverse
    · rfl
  -- The same expression without digits keeps all labels, and with these digits no fewer are kept.
  let e' : Expression := { e with transformers := { e.transformers with digits := none } }
  have hnone : e'.expand ctx = .ok (joined (if e.transformers.reversed then ls.reverse else ls)) :=
    expand_of_labelled (e := e') hmeans.delimiters_ne_nil hplain hv h
  rw [expandSingle_braced hsuffix (readBody_iff.mpr ⟨_, _, rfl, hmeans.without_digits⟩),
    expand_of_labelled hmeans.delimiters_ne_nil hplain hv h, hdigits]
  show e'.expand ctx = _
  rw [hnone, hall _ hlength]

/-- What an expression without encoding makes of a field that is a text. -/
theorem label_laws {text : String} {r : Reading} (hread : read text = .ok r) (he : e ∈ r.expressions)
    (hplain : e.transformers.encoded = false) (hv : ctx.field e.letter = .ok (.str v)) :
    ∃ (c : Char) (rest : List Char) (ls : List (List Char)),
      e.raw = braced (c :: rest) ∧ Says c rest ⟨e.letter, e.transformers⟩ ∧
      (∀ ls', Labelled e.transformers.delimiters v.toList ls' ↔ ls' = ls) ∧
      ls.length = 1 + v.toList.countP (e.transformers.delimiters.contains ·) ∧
      (e.transformers.digits = none → e.transformers.reversed = false →
        e.expand ctx = .ok (String.ofList (dotted e.transformers.delimiters v.toList))) ∧
      (e.transformers.digits = none → e.transformers.reversed = true → e.expand ctx = .ok (joined ls.reverse) ∧
        (∃ w, Labelled e.transformers.delimiters w ls.reverse) ∧
        ∀ (ctx' : Context) (w : String), ctx'.field e.letter = .ok (.str w) →
          Labelled e.transformers.delimiters w.toList ls.reverse →
          e.expand ctx' = .ok (String.ofList (dotted e.transformers.delimiters v.toList))) ∧
      ∀ i ∈ e.transformers.digits, ∃ n : Nat, i = n ∧ 1 ≤ n ∧ n ≤ 128 ∧
        (e.transformers.reversed = false → e.expand ctx = .ok (joined (ls.drop (ls.length - min n ls.length)))) ∧
        (e.transformers.reversed = true → e.expand ctx = .ok (joined (ls.take (min n ls.length)).reverse)) ∧
        (ls.length ≤ n → e.expand ctx = expandSingle ctx (braced (c :: rest.dropWhile Text.isDigit))) := by
  obtain ⟨body, hbrace, hraw, hbody⟩ := exists_body hread he
  obtain ⟨c, rest, rfl, hmeans⟩ := readBody_iff.mp hbody
  have hne := hmeans.delimiters_ne_nil
  have hls := e.transformers.labelled_labels v.toList
  have hexpand := expand_of_labelled hne hplain hv hls
  refine ⟨c, rest, e.transformers.labels v.toList, hraw, hmeans, fun ls' => Transformers.labelled_iff, hls.length_eq, ?_, ?_, ?_⟩
  · intro hdigits hr
    rw [hexpand, hdigits, hr, ← intercalate_labels hls]
    rfl
  · intro hdigits hr
    obtain ⟨d, hd⟩ := List.exists_mem_of_ne_nil _ hne
    refine ⟨?_, ⟨_, hls.reverse hd⟩, ?_⟩
    · rw [hexpand, hdigits, hr]
      rfl
    · intro ctx' w hw hlabelled
      rw [expand_of_labelled hne hplain hw hlabelled, hdigits, hr, ← intercalate_labels hls]
      simp only [if_true, List.reverse_reverse]
      rfl
  · intro i hi
    obtain hnone | ⟨n, hdigits, hlow, hhigh⟩ := hmeans.exists_count
    · rw [hnone] at hi
      cases hi
    · have hdigits : e.transformers.digits = some (n : Int) := hdigits
      obtain rfl : (n : Int) = i := Option.some.inj (hdigits.symm.trans hi)
      refine ⟨n, rfl, hlow, hhigh, fun hr => ?_, fun hr => ?_, fun hmany => ?_⟩
      · rw [hexpand, hdigits, hr]
        simp only [Bool.false_eq_true, if_false]
        rw [Transformers.keep_count hlow]
      · rw [hexpand, hdigits, hr]
        simp only [if_true]
        rw [Transformers.keep_count hlow, List.reverse_take, List.length_reverse]
      · exact (expand_without_digits hbrace hmeans hplain hv hls hlow hdigits hmany).symm

/-- A field that begins with a delimiter and has two of them side by side. -/
theorem label_laws_helo : ∃ (ctx : Context) (r : Reading) (e : Expression),
    read "%\x7bh2r.-\x7d" = .ok r ∧ e ∈ r.expressions ∧ e.transformers.encoded = false ∧
      ctx.field e.letter = .ok (.str "-a.b--c") ∧ e.expand ctx = .ok "a." := by
  let ctx : Context := ⟨fun _ => .str "-a.b--c"⟩
  let e : Expression := ⟨"%\x7bh2r.-\x7d", 0, .helo, ⟨some 2, true, ['.', '-'], false⟩⟩
  have hread : read "%\x7bh2r.-\x7d" = .ok ⟨[.expression e], []⟩ := by decide +kernel
  have he : e ∈ (⟨[.expression e], []⟩ : Reading).expressions := List.mem_cons_self
  have hv : ctx.field e.letter = .ok (.str "-a.b--c") := rfl
  obtain ⟨c, rest, ls, -, -, hls, -, -, -, hcount⟩ := label_laws hread he rfl hv
  obtain rfl : [[], ['a'], ['b'], [], ['c']] = ls :=
    (hls _).mp (Transformers.labelled_iff.mpr (by decide +kernel))
  obtain ⟨n, hn, -, -, -, hreversed, -⟩ := hcount 2 rfl
  obtain rfl : n = 2 := by omega
  exact ⟨ctx, _, e, hread, he, rfl, hv, hreversed rfl⟩

end Expansions

end SenderPolicy.MacroString
