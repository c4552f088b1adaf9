/-
  SenderPolicy.Proofs.Record.Agreement — the reader and the tokenizer on one record.

  The reader takes a record apart with all its checks; the tokenizer goes by the shape of the tokens alone,
  and names the terms that a flattening follows. On a record that is read without problems each outcome
  gives the term of its token, a modifier under its name in lower case. So the two see the same
  mechanisms unless a modifier is named like one: `all=x` is a modifier to the reader, and an `all` to
  whoever goes by the name of the term.
  - `readTerms_sound`: the outcomes of sound terms say what their tokens say.
  - `tokenize_parts`: the tokenizer sees the mechanisms and the modifiers, each in order.
  - `tokenize_agrees_iff`: the mechanisms agree exactly if no modifier is named like a mechanism.
  - `all_modifier_disagrees`: they do not on a record whose first term is `all=x`.
-/

import Mathlib.Data.List.Forall2
import SenderPolicy.Installed
import SenderPolicy.Proofs.Term.Written
import SenderPolicy.Record.Reader

namespace SenderPolicy

theorem mem_forall₂_left {α β : Type} {R : α → β → Prop} {as : List α} {bs : List β} (h : List.Forall₂ R as bs) {a : α}
    (ha : a ∈ as) : ∃ b ∈ bs, R a b := by
  induction h with
  | nil => cases ha
  | cons hr _ ih =>
    rcases List.mem_cons.mp ha with rfl | ha
    · exact ⟨_, List.mem_cons_self, hr⟩
    · obtain ⟨b, hb, hr⟩ := ih ha
      exact ⟨b, List.mem_cons_of_mem _ hb, hr⟩

theorem mem_forall₂_right {α β : Type} {R : α → β → Prop} {as : List α} {bs : List β} (h : List.Forall₂ R as bs) {b : β}
    (hb : b ∈ bs) : ∃ a ∈ as, R a b := mem_forall₂_left h.flip hb

theorem eq_ok_of_toOption {ε α : Type} {x : Except ε α} {a : α} (h : x.toOption = some a) : x = .ok a := by
  cases x with
  | error e => cases h
  | ok b => exact congrArg Except.ok (Option.some.inj h)

namespace Mechanism.Kind

theorem mem_standard_of_lookups? {k : Kind} {n : Nat} (h : k.lookups? = some n) : k ∈ standard := by
  cases k with
  | other name => cases h
  | _ => simp [standard]

theorem name_ofName {name : String} (h : ofName name ∈ standard) : (ofName name).name = name := by
  unfold ofName at h ⊢
  cases hf : standard.find? (·.name == name) with
  | none => rw [hf] at h; simp [standard] at h
  | some k => exact beq_iff_eq.mp (List.find?_some (p := fun k : Kind => k.name == name) hf)

theorem ofName_other {name n : String} (h : ofName name = .other n) : n = name := by
  unfold ofName at h
  cases hf : standard.find? (·.name == name) with
  | none => rw [hf] at h; exact (Kind.other.inj h).symm
  | some k =>
    have hk := List.mem_of_find?_eq_some hf
    rw [hf] at h
    obtain rfl : k = .other n := h
    simp [standard] at hk

end Mechanism.Kind

namespace Record

open Mechanism (Kind)

/-- The names of the mechanisms that the standard knows. -/
def mechanismNames : List String := Kind.standard.map (·.name)

/-- Whether a term goes by the name of a mechanism. -/
def goesAsMechanism (t : Term) : Bool := mechanismNames.contains t.name

/-- Whether a modifier, by its name in lower case, is named like a mechanism. -/
def namedLikeMechanism (m : Modifier) : Bool := mechanismNames.contains (Text.lower m.name)

/-- A modifier as a term: under its name in lower case, and without a qualifier. -/
def modifierTerm (m : Modifier) : Term := ⟨Text.lower m.name, .pass, some m.value⟩

/-- The term of what was read; none if it was rejected. -/
def Outcome.term? : Outcome → Option Term
  | .mechanism m _ _ => some m.term
  | .modifier m _ _ => some (modifierTerm m)
  | .rejected _ _ => none

/-! ## One term -/

/-- The lookups that a mechanism of its kind costs. -/
def costOf (k : Kind) : Int := (k.lookups?.getD 0 : Nat)

/-- An outcome that says what its token says, without a problem. -/
def Outcome.Reads (token : String) : Outcome → Prop
  | .mechanism m _ _ =>
    Token.term? token = some m.term ∧ m.kind ∈ Kind.standard ∧ m.qualifier ∈ Qualifier.standard ∧ m.lookups = costOf m.kind
  | .modifier m _ _ => Token.term? token = some (modifierTerm m) ∧ m.text = token
  | .rejected _ _ => False

theorem readMechanism_sound [Packages] {token : String} {w : Token.Written} {o : Outcome}
    (hw : Token.mechanism? token.toList = some w)
    (h : readMechanism token w = .ok o) (hp : o.problems = []) : o.Reads token := by
  unfold readMechanism at h
  dsimp only at h
  split at h
  · cases h; cases hp
  · cases h; cases hp
  · split at h
    · cases h
    · cases h
    · rename_i hl
      cases h
      have hk := Kind.mem_standard_of_lookups? hl
      refine ⟨?_, hk, (Token.mechanism?_parts hw).2.2, ?_⟩
      · unfold Token.term?
        simp only [hw, Mechanism.term, Kind.name_ofName hk]
      · unfold costOf
        simp only [hl, Option.getD_some]

theorem readModifier_sound [Expectations] {seen : Seen} {token name value : String} {o : Outcome}
    (hm : Token.mechanism? token.toList = none) (hw : Token.modifier? token.toList = some (name, value))
    (h : readModifier seen token name value = .ok o) (hp : o.problems = []) : o.Reads token := by
  unfold readModifier at h
  split at h
  · cases h; cases hp
  · dsimp only at h
    split at h
    · cases h; cases hp
    · split at h <;> cases h
      refine ⟨?_, Token.text_of_modifier? hw⟩
      unfold Token.term?
      rw [hm, hw]
      rfl

theorem readTerm_sound [Packages] {seen : Seen} {token : String} {o : Outcome} (h : readTerm seen token = .ok o)
    (hp : o.problems = []) : o.Reads token := by
  unfold readTerm at h
  cases hm : Token.mechanism? token.toList with
  | some w => rw [hm] at h; exact readMechanism_sound hm h hp
  | none =>
    rw [hm] at h
    cases hw : Token.modifier? token.toList with
    | none => rw [hw] at h; cases h; cases hp
    | some nv => rw [hw] at h; exact readModifier_sound hm hw h hp

theorem Outcome.Reads.term? {token : String} {o : Outcome} (h : o.Reads token) : Token.term? token = o.term? := by
  cases o with
  | mechanism m faults ws => exact h.1
  | modifier m faults ws => exact h.1
  | rejected t reason => exact h.elim

/-! ## All terms -/

theorem readTerms_cons [Packages] {seen : Seen} {t : String} {ts : List String} {os : List Outcome}
    (h : readTerms seen (t :: ts) = .ok os) :
    ∃ o os', os = o :: os' ∧ readTerm seen t = .ok o ∧ readTerms (seen.after t) ts = .ok os' := by
  unfold readTerms at h
  cases ho : readTerm seen t with
  | error e => simp [ho, bind, Except.bind] at h
  | ok o =>
    cases hs : readTerms (seen.after t) ts with
    | error e => simp [ho, hs, bind, Except.bind] at h
    | ok os' =>
      simp only [ho, hs, bind, Except.bind, Except.ok.injEq] at h
      exact ⟨o, os', h.symm, rfl, rfl⟩

theorem readTerms_sound [Packages] {seen : Seen} {ts : List String} {os : List Outcome} (h : readTerms seen ts = .ok os)
    (hp : ∀ o ∈ os, o.problems = []) : List.Forall₂ (fun t o => o.Reads t) ts os := by
  induction ts generalizing seen os with
  | nil =>
    cases h
    exact .nil
  | cons t ts ih =>
    obtain ⟨o, os', rfl, ho, hs⟩ := readTerms_cons h
    exact .cons (readTerm_sound ho (hp o List.mem_cons_self)) (ih hs fun o' ho' => hp o' (List.mem_cons_of_mem _ ho'))

theorem filterMap_reads {ts : List String} {os : List Outcome} (h : List.Forall₂ (fun t o => o.Reads t) ts os) :
    ts.filterMap Token.term? = os.filterMap Outcome.term? := by
  induction h with
  | nil => rfl
  | cons ho _ ih => rw [List.filterMap_cons, List.filterMap_cons, ho.term?, ih]

/-- A record that was read without problems comes from outcomes that say what its tokens say. -/
theorem read_outcomes [Packages] {record : String} {r : Record} (h : read record = .ok r) (hp : r.problems = []) :
    ∃ os, List.Forall₂ (fun t o => o.Reads t) ((tokens record).drop 1) os ∧
      r.mechanisms = os.filterMap Outcome.mechanism? ∧ r.modifiers = os.filterMap Outcome.modifier? := by
  unfold read at h
  cases hs : readTerms ⟨false, false⟩ ((tokens record).drop 1) with
  | error e => rw [hs] at h; cases h
  | ok os =>
    rw [hs] at h
    have hr : assemble (unquote record) (tokens record) os = r := Except.ok.inj h
    rw [← hr] at hp ⊢
    exact ⟨os, readTerms_sound hs (List.flatMap_eq_nil_iff.mp (List.append_eq_nil_iff.mp hp).2), rfl, rfl⟩

theorem isPlainWord_of_mem_tokens {record token : String} (h : token ∈ tokens record) : Text.IsPlainWord token := by
  obtain ⟨hword, hmem⟩ := Text.mem_words h
  refine ⟨hword, fun hq => ?_⟩
  have hquote := hmem _ hq
  rw [unquote, String.toList_ofList] at hquote
  exact quote_not_mem_joinFrom none _ (by simp) ((Text.trim_sublist _ _).subset hquote)

/-- A mechanism of a record stands in one of its tokens. -/
theorem mechanism_reads [Packages] {record : String} {r : Record} (h : read record = .ok r) (hp : r.problems = [])
    {m : Mechanism}
    (hm : m ∈ r.mechanisms) : ∃ token ∈ (tokens record).drop 1, Token.term? token = some m.term ∧ m.kind ∈ Kind.standard ∧
      m.qualifier ∈ Qualifier.standard ∧ m.lookups = costOf m.kind := by
  obtain ⟨os, hs, hms, _⟩ := read_outcomes h hp
  rw [hms] at hm
  obtain ⟨o, ho, hm⟩ := List.mem_filterMap.mp hm
  obtain ⟨token, htoken, hreads⟩ := mem_forall₂_right hs ho
  cases o with
  | mechanism m' faults ws => cases hm; exact ⟨token, htoken, hreads⟩
  | modifier m' faults ws => cases hm
  | rejected t reason => cases hm

/-- A modifier of a record, as it is written, is one of its tokens. -/
theorem modifier_reads [Packages] {record : String} {r : Record} (h : read record = .ok r) (hp : r.problems = []) {m : Modifier}
    (hm : m ∈ r.modifiers) : m.text ∈ (tokens record).drop 1 ∧ Token.term? m.text = some (modifierTerm m) := by
  obtain ⟨os, hs, _, hmods⟩ := read_outcomes h hp
  rw [hmods] at hm
  obtain ⟨o, ho, hm⟩ := List.mem_filterMap.mp hm
  obtain ⟨token, htoken, hreads⟩ := mem_forall₂_right hs ho
  cases o with
  | mechanism m' faults ws => cases hm
  | modifier m' faults ws =>
    cases hm
    obtain ⟨hterm, htext⟩ := hreads
    rw [htext]
    exact ⟨htoken, hterm⟩
  | rejected t reason => cases hm

/-- So it can be written as a word of a record. -/
theorem writable_of_mem [Packages] {record : String} {r : Record} (h : read record = .ok r) (hp : r.problems = [])
    {m : Mechanism} (hm : m ∈ r.mechanisms) : Token.Writable m.term := by
  obtain ⟨token, htoken, hterm, hk, hq, _⟩ := mechanism_reads h hp hm
  have hword := isPlainWord_of_mem_tokens (List.mem_of_mem_drop htoken)
  refine ⟨⟨m.kind, hk, rfl⟩, hq, fun v hv c hc => ?_⟩
  have hmem := Token.mem_value_of_term? hterm hv hc
  exact ⟨hword.noBlank c hmem, fun e => hword.noQuote (e ▸ hmem)⟩

/-! ## Agreement -/

theorem goesAsMechanism_iff {t : Term} : goesAsMechanism t = true ↔ Kind.ofName t.name ∈ Kind.standard := by
  unfold goesAsMechanism
  rw [List.contains_iff_mem]
  constructor
  · intro h
    obtain ⟨k, hk, he⟩ := List.mem_map.mp h
    rw [← he, Kind.ofName_name hk]
    exact hk
  · intro h
    rw [← Kind.name_ofName h]
    exact List.mem_map_of_mem h

theorem goesAsMechanism_term {m : Mechanism} (h : m.kind ∈ Kind.standard) : goesAsMechanism m.term = true :=
  List.contains_iff_mem.mpr (List.mem_map_of_mem h)

variable {os : List Outcome}

/-- What goes as a mechanism are the mechanisms and the modifiers that are named like one. -/
theorem length_goingAsMechanisms (hk : ∀ m ∈ os.filterMap Outcome.mechanism?, m.kind ∈ Kind.standard) :
    ((os.filterMap Outcome.term?).filter goesAsMechanism).length
      = (os.filterMap Outcome.mechanism?).length + ((os.filterMap Outcome.modifier?).filter namedLikeMechanism).length := by
  induction os with
  | nil => rfl
  | cons o os ih =>
    cases o with
    | mechanism m faults ws =>
      obtain ⟨hm, hk⟩ := List.forall_mem_cons.mp hk
      simp only [List.filterMap_cons, Outcome.term?, Outcome.mechanism?, Outcome.modifier?, List.filter_cons,
        goesAsMechanism_term hm, if_true, List.length_cons, ih hk]
      omega
    | modifier m faults ws =>
      have hm : goesAsMechanism (modifierTerm m) = namedLikeMechanism m := rfl
      simp only [List.filterMap_cons, Outcome.term?, Outcome.mechanism?, Outcome.modifier?, List.filter_cons, hm]
      split
      · simp only [List.length_cons, ih hk]
        omega
      · exact ih hk
    | rejected token reason =>
      simpa only [List.filterMap_cons, Outcome.term?, Outcome.mechanism?, Outcome.modifier?] using ih hk

/-- If no modifier is named like a mechanism, then the terms fall into mechanisms and modifiers. -/
theorem filter_goesAsMechanism (hk : ∀ m ∈ os.filterMap Outcome.mechanism?, m.kind ∈ Kind.standard)
    (hn : ∀ m ∈ os.filterMap Outcome.modifier?, namedLikeMechanism m = false) :
    (os.filterMap Outcome.term?).filter goesAsMechanism = (os.filterMap Outcome.mechanism?).map Mechanism.term ∧
      (os.filterMap Outcome.term?).filter (!goesAsMechanism ·) = (os.filterMap Outcome.modifier?).map modifierTerm := by
  induction os with
  | nil => exact ⟨rfl, rfl⟩
  | cons o os ih =>
    cases o with
    | mechanism m faults ws =>
      obtain ⟨hm, hk⟩ := List.forall_mem_cons.mp hk
      obtain ⟨ih₁, ih₂⟩ := ih hk hn
      simp [List.filterMap_cons, Outcome.term?, Outcome.mechanism?, Outcome.modifier?, goesAsMechanism_term hm, ih₁, ih₂]
    | modifier m faults ws =>
      obtain ⟨hm, hn⟩ := List.forall_mem_cons.mp hn
      have hm : goesAsMechanism (modifierTerm m) = false := hm
      obtain ⟨ih₁, ih₂⟩ := ih hk hn
      simp [List.filterMap_cons, Outcome.term?, Outcome.mechanism?, Outcome.modifier?, hm, ih₁, ih₂]
    | rejected token reason =>
      simpa only [List.filterMap_cons, Outcome.term?, Outcome.mechanism?, Outcome.modifier?] using ih hk hn

theorem tokenize_outcomes [Packages] {record : String} {r : Record} (h : read record = .ok r) (hp : r.problems = []) :
    ∃ os : List Outcome, tokenize record = os.filterMap Outcome.term? ∧ r.mechanisms = os.filterMap Outcome.mechanism? ∧
      r.modifiers = os.filterMap Outcome.modifier? ∧ ∀ m ∈ os.filterMap Outcome.mechanism?, m.kind ∈ Kind.standard := by
  obtain ⟨os, hs, hms, hmods⟩ := read_outcomes h hp
  refine ⟨os, filterMap_reads hs, hms, hmods, fun m hm => ?_⟩
  rw [← hms] at hm
  obtain ⟨_, _, _, hk, _⟩ := mechanism_reads h hp hm
  exact hk

/-- Without a modifier that is named like a mechanism the tokenizer sees the mechanisms and the modifiers. -/
theorem tokenize_parts [Packages] {record : String} {r : Record} (h : read record = .ok r) (hp : r.problems = [])
    (hn : ∀ m ∈ r.modifiers, namedLikeMechanism m = false) :
    (tokenize record).filter goesAsMechanism = r.mechanisms.map Mechanism.term ∧
      (tokenize record).filter (!goesAsMechanism ·) = r.modifiers.map modifierTerm := by
  obtain ⟨os, ht, hms, hmods, hk⟩ := tokenize_outcomes h hp
  rw [ht, hms, hmods]
  exact filter_goesAsMechanism hk (hmods ▸ hn)

/-- The terms that go as mechanisms are the mechanisms, with their qualifiers and values and in order,
exactly if no modifier is named like one. -/
theorem tokenize_agrees_iff [Packages] {record : String} {r : Record} (h : read record = .ok r) (hp : r.problems = []) :
    (tokenize record).filter goesAsMechanism = r.mechanisms.map Mechanism.term ↔
      ∀ m ∈ r.modifiers, namedLikeMechanism m = false := by
  constructor
  · intro he
    obtain ⟨os, ht, hms, hmods, hk⟩ := tokenize_outcomes h hp
    have hl := length_goingAsMechanisms hk
    rw [← ht, he, hms, List.length_map] at hl
    have hnone : (os.filterMap Outcome.modifier?).filter namedLikeMechanism = [] :=
      List.eq_nil_of_length_eq_zero (Nat.left_eq_add.mp hl)
    intro m hm
    rw [hmods] at hm
    simpa using List.filter_eq_nil_iff.mp hnone m hm
  · exact fun hn => (tokenize_parts h hp hn).1

theorem tokenize_agrees_plain :
    ∃ r, read "v=spf1 -IP4:192.0.2.1 redirect=b.example" = .ok r ∧ r.problems = [] ∧
      ((tokenize "v=spf1 -IP4:192.0.2.1 redirect=b.example").filter goesAsMechanism = r.mechanisms.map Mechanism.term ↔
        ∀ m ∈ r.modifiers, namedLikeMechanism m = false) := by
  have hsound : (read "v=spf1 -IP4:192.0.2.1 redirect=b.example").toOption.any (·.problems.isEmpty) = true := by
    decide +kernel
  cases hr : read "v=spf1 -IP4:192.0.2.1 redirect=b.example" with
  | error e => rw [hr] at hsound; cases hsound
  | ok r =>
    rw [hr] at hsound
    have hp : r.problems = [] := List.isEmpty_iff.mp hsound
    exact ⟨r, rfl, hp, tokenize_agrees_iff hr hp⟩

/-- A modifier that is named like a mechanism goes as one. -/
theorem all_modifier_disagrees :
    ((read "v=spf1 all=x ip4:192.0.2.1 -all").toOption.map fun r => (r.problems, r.mechanisms.map Mechanism.term))
        = some ([], [⟨"ip4", .pass, some "192.0.2.1"⟩, ⟨"all", .fail, none⟩]) ∧
      (tokenize "v=spf1 all=x ip4:192.0.2.1 -all").filter goesAsMechanism
        = [⟨"all", .pass, some "x"⟩, ⟨"ip4", .pass, some "192.0.2.1"⟩, ⟨"all", .fail, none⟩] := by
  decide +kernel

end Record

end SenderPolicy
