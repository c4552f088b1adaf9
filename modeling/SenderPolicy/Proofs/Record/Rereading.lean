/-
  SenderPolicy.Proofs.Record.Rereading — reading a record, writing it down and reading it again.

  A record that is rebuilt without replacements is written from what was read of it: the mechanisms and then
  the modifiers, whatever else stood in its text. A modifier is written as its token was, and at most one
  redirect and one explanation are among them, so all of them are read again. A mechanism is written without
  the case of its keyword and without a qualifier that is the default, neither of which counts for its
  syntax. But the colon before its value is written only if the value does not begin with a slash. Without the
  colon such a value reads back only if it is made of lengths, behind a keyword that can take them.
  - `check_text`: the written form of a mechanism is well formed exactly if its value allows that.
  - `read_rebuild`: the rebuilt record holds the modifiers and the mechanisms whose values do.
  - `slashed_include_is_lost`: `include:/a.example` is read, written and not read again.
-/

import SenderPolicy.Installed
import SenderPolicy.Proofs.Advice.Rebuilding
import SenderPolicy.Proofs.Term.Syntax

namespace SenderPolicy.Record

open Text
open Mechanism (Kind)

variable {token : String} {seen seen' : Seen} {m : Mechanism} {faults : List MacroString.Fault} {ws : List Warning}

/-! ## Values that begin with a slash -/

def takesLengths (k : Kind) : Bool := k == .a || k == .mx || k == .ptr

/-- Whether a text is made of the two lengths, of which either may be missing. -/
def isLengths (cs : List Char) : Bool := Grammar.optional Grammar.secondLength? (Grammar.optional Grammar.length? cs) == []

/-- Whether the value of a mechanism can stand behind its keyword as it is written there. -/
def readsBack (m : Mechanism) : Bool :=
  match m.value with
  | none => true
  | some v => v.toList.head? != some '/' || (takesLengths m.kind && isLengths v.toList)

theorem behind?_slash {k : Kind} {cs : List Char} (h : cs.head? = some '/') :
    Token.behind? k cs = some [] ↔ (takesLengths k && isLengths cs) = true := by
  obtain ⟨ds, rfl⟩ := List.head?_eq_some_iff.mp h
  have hcolon : Grammar.char? ':' ('/' :: ds) = none := rfl
  have hdomain : Grammar.domain? ('/' :: ds) = none := rfl
  cases k <;> simp [Token.behind?, takesLengths, isLengths, hcolon, hdomain, Grammar.optional]

/-! ## Mechanisms -/

/-- What a token says when a mechanism was read from it. -/
structure ReadFrom [Expectations] (token : String) (m : Mechanism) (w : Token.Written) : Prop where
  shape : Token.mechanism? token.toList = some w
  term : w.term = m.term
  wellFormed : Grammar.check token = none
  standard : m.kind ∈ Kind.standard

theorem readMechanism_eq [Packages] {w : Token.Written} (h : readMechanism token w = .ok (.mechanism m faults ws)) :
    Grammar.check token = none ∧ w.term = m.term ∧ m.kind ∈ Kind.standard ∧ Mechanism.checkValue m.kind m.value = none := by
  unfold readMechanism at h
  dsimp only at h
  split at h
  · cases h
  · cases h
  · rename_i hcheck hvalue
    split at h
    · cases h
    · cases h
    · rename_i hl
      cases h
      have hk := Kind.mem_standard_of_lookups? hl
      refine ⟨hcheck, ?_, hk, hvalue⟩
      rw [Mechanism.term, Kind.name_ofName hk]

theorem readMechanism_lookups [Packages] {w : Token.Written} (h : readMechanism token w = .ok (.mechanism m faults ws)) :
    m.kind.lookups?.map Int.ofNat = some m.lookups := by
  unfold readMechanism at h
  dsimp only at h
  split at h
  · cases h
  · cases h
  · split at h
    · cases h
    · cases h
    · rename_i hl
      cases h
      rw [hl]
      rfl

theorem readFrom_of_mechanism [Packages] (h : readTerm seen token = .ok (.mechanism m faults ws)) :
    ∃ w, ReadFrom token m w ∧ readMechanism token w = .ok (.mechanism m faults ws) := by
  unfold readTerm at h
  cases hw : Token.mechanism? token.toList with
  | some w =>
    rw [hw] at h
    obtain ⟨hcheck, hterm, hk, -⟩ := readMechanism_eq h
    exact ⟨w, ⟨hw, hterm, hcheck, hk⟩, h⟩
  | none =>
    rw [hw] at h
    cases hm : Token.modifier? token.toList with
    | none => rw [hm] at h; cases h
    | some nv =>
      rw [hm] at h
      unfold readModifier at h
      dsimp only at h
      repeat' split at h
      all_goals cases h

/-- Of a well-formed token the reader takes no more than its term. -/
theorem readMechanism_congr [Packages] {token' : String} {w w' : Token.Written} (hterm : w'.term = w.term)
    (hcheck : Grammar.check token' = none) (h : readMechanism token w = .ok (.mechanism m faults ws)) :
    ∃ ws', readMechanism token' w' = .ok (.mechanism m faults ws') := by
  have hsame : Grammar.check token = Grammar.check token' := by rw [hcheck, (readMechanism_eq h).1]
  unfold readMechanism at h ⊢
  rw [hterm, ← hsame]
  dsimp only at h ⊢
  split at h
  · cases h
  · cases h
  · split at h
    · cases h
    · cases h
    · cases h
      exact ⟨_, rfl⟩

/-- The keyword that is spelled is the name of the mechanism. -/
theorem ReadFrom.spells [Expectations] {w : Token.Written} (h : ReadFrom token m w) : w.keyword.map fold = m.kind.name.toList := by
  obtain ⟨_, ⟨k, hk, hs⟩, _⟩ := Token.mechanism?_spells h.shape
  have hname : lower (String.ofList w.keyword) = m.kind.name := congrArg Term.name h.term
  by_cases hf : ∃ c ∈ w.keyword, onlyFolds c = true
  · exact absurd hname (Token.lower_keyword_ne hf _ h.standard)
  · have hplain : ∀ c ∈ w.keyword, onlyFolds c = false := by simpa using hf
    rw [hs, ← hname, Token.lower_keyword hk hs hplain]

theorem standard_fold : ∀ k ∈ Kind.standard, k.name.toList.map fold = k.name.toList := by decide

/-- The written form of a mechanism is well formed exactly if its value allows that. -/
theorem check_text [Expectations] {w : Token.Written} (h : ReadFrom token m w) :
    Grammar.check m.text = none ↔ readsBack m = true := by
  have hq : m.qualifier ∈ Qualifier.standard := by
    have hqualifier : w.qualifier = m.qualifier := congrArg Term.qualifier h.term
    rw [← hqualifier]
    exact (Token.mechanism?_parts h.shape).2.2
  have hvalue : Token.value? w.rest = m.value := congrArg Term.value h.term
  have hend := (Token.mechanism?_spells h.shape).2.2
  have hbehind := (Token.check_mechanism h.shape h.standard h.spells).mp h.wellFormed
  rw [Mechanism.text, Token.check_mechanism (Token.mechanism?_text h.standard rfl hq) h.standard (standard_fold _ h.standard)]
  show Token.behind? m.kind (Token.restOf m.value) = some [] ↔ _
  unfold readsBack Token.restOf
  rw [← hvalue]
  cases hrest : w.rest with
  | nil => rw [hrest] at hbehind; simpa [Token.value?] using hbehind
  | cons c cs =>
    rw [hrest] at hbehind hend
    simp only [Token.value?, String.toList_ofList]
    rcases Bool.or_eq_true_iff.mp (hend c rfl) with hc | hc
    · rw [beq_iff_eq.mp hc] at hbehind ⊢
      by_cases hslash : cs.head? = some '/'
      · simpa [hslash] using behind?_slash hslash
      · simpa [hslash] using hbehind
    · rw [beq_iff_eq.mp hc] at hbehind ⊢
      simpa using behind?_slash rfl

/-- A mechanism read from a token of a record. -/
def IsRead [Packages] (m : Mechanism) : Prop :=
  ∃ seen token faults ws, IsPlainWord token ∧ readTerm seen token = .ok (.mechanism m faults ws)

theorem IsRead.readFrom [Packages] (h : IsRead m) : ∃ token w, IsPlainWord token ∧ ReadFrom token m w := by
  obtain ⟨_, token, _, _, hword, hread⟩ := h
  obtain ⟨w, hfrom, _⟩ := readFrom_of_mechanism hread
  exact ⟨token, w, hword, hfrom⟩

theorem IsRead.writable [Packages] (h : IsRead m) : Token.Writable m.term := by
  obtain ⟨token, w, hword, hfrom⟩ := h.readFrom
  have hterm : Token.term? token = some m.term := by
    unfold Token.term?
    simp only [hfrom.shape, hfrom.term]
  refine ⟨⟨m.kind, hfrom.standard, rfl⟩, ?_, fun v hv c hc => ?_⟩
  · rw [← hfrom.term]
    exact (Token.mechanism?_parts hfrom.shape).2.2
  · have hmem := Token.mem_value_of_term? hterm hv hc
    exact ⟨hword.noBlank c hmem, fun e => hword.noQuote (e ▸ hmem)⟩

/-- The written form of a mechanism has the shape of its term. -/
theorem IsRead.shape [Packages] (h : IsRead m) : ∃ w, Token.mechanism? m.text.toList = some w ∧ w.term = m.term := by
  obtain ⟨token, w, _, hfrom⟩ := h.readFrom
  refine ⟨_, Token.mechanism?_text hfrom.standard rfl h.writable.qualifier, ?_⟩
  simp only [Token.Written.term, Token.value?_restOf, String.ofList_toList, (Token.standard_names _ hfrom.standard).2.1]
  rfl

theorem readMechanism_faulty [Packages] {w : Token.Written} {fault : Grammar.Fault} (h : Grammar.check token = some fault) :
    readMechanism token w = .ok (.rejected token (.syntaxFault fault)) := by
  unfold readMechanism
  rw [h]

theorem opensExpression_plain {cs : List Char} (h : '%' ∉ cs) : opensExpression cs = false := by
  induction cs with
  | nil => rfl
  | cons c cs ih =>
    have hc : '%' ≠ c := fun he => h (he ▸ List.mem_cons_self)
    have hcs : '%' ∉ cs := fun hm => h (List.mem_cons_of_mem _ hm)
    unfold opensExpression
    split
    · rename_i he
      exact absurd (List.cons.inj he).1.symm hc
    · rename_i he
      obtain ⟨rfl, rfl⟩ := List.cons.inj he
      exact ih hcs
    · rename_i he
      cases he

/-- If the value of a mechanism allows it, the written form is read with the same faults as the token. -/
theorem readTerm_again [Packages] (hword : IsPlainWord token) (h : readTerm seen token = .ok (.mechanism m faults ws))
    (hback : readsBack m = true) (seen' : Seen) : ∃ ws', readTerm seen' m.text = .ok (.mechanism m faults ws') := by
  obtain ⟨w', hshape, hterm⟩ := IsRead.shape ⟨seen, token, faults, ws, hword, h⟩
  obtain ⟨w, hfrom, hread⟩ := readFrom_of_mechanism h
  obtain ⟨ws', hsame⟩ := readMechanism_congr (hterm.trans hfrom.term.symm) ((check_text hfrom).mpr hback) hread
  refine ⟨ws', ?_⟩
  unfold readTerm
  rw [hshape]
  exact hsame

/-- The written form of a mechanism is read as the mechanism, or rejected. -/
theorem readTerm_text [Packages] (h : IsRead m) (seen' : Seen) :
    ∃ o, readTerm seen' m.text = .ok o ∧ o.mechanism? = (if readsBack m then some m else none) ∧ o.modifier? = none := by
  obtain ⟨w', hshape, _⟩ := h.shape
  obtain ⟨seen, token, faults, ws, hword, hread⟩ := h
  by_cases hback : readsBack m = true
  · obtain ⟨ws', hagain⟩ := readTerm_again hword hread hback seen'
    exact ⟨_, hagain, by rw [if_pos hback]; rfl, rfl⟩
  · obtain ⟨w, hfrom, _⟩ := readFrom_of_mechanism hread
    cases hcheck : Grammar.check m.text with
    | none => exact absurd ((check_text hfrom).mp hcheck) hback
    | some fault =>
      refine ⟨.rejected m.text (.syntaxFault fault), ?_, by rw [if_neg hback]; rfl, rfl⟩
      unfold readTerm
      rw [hshape]
      exact readMechanism_faulty hcheck

/-! ## Modifiers -/

/-- Nothing counts as read that does not count as read in the other. -/
def Seen.Within (seen' seen : Seen) : Prop :=
  (seen'.redirect = true → seen.redirect = true) ∧ (seen'.exp = true → seen.exp = true)

theorem Seen.Within.refl (seen : Seen) : seen.Within seen := ⟨id, id⟩

theorem Seen.Within.after (h : seen'.Within seen) (token : String) : (seen'.after token).Within (seen.after token) := by
  unfold Seen.Within Seen.after
  simp only [Bool.or_eq_true]
  exact ⟨Or.imp_left h.1, Or.imp_left h.2⟩

theorem Seen.Within.grown (h : seen'.Within seen) (token : String) : seen'.Within (seen.after token) := by
  unfold Seen.Within Seen.after
  simp only [Bool.or_eq_true]
  exact ⟨fun hr => Or.inl (h.1 hr), fun he => Or.inl (h.2 he)⟩

theorem modifierError?_within [Expectations] {kind : Modifier.Kind} {value : String} (h : seen'.Within seen)
    (hnone : modifierError? seen token kind value = none) : modifierError? seen' token kind value = none := by
  obtain ⟨hredirect, hexp⟩ := h
  unfold modifierError? at hnone ⊢
  by_cases hr : (decide (kind = .redirect) && seen'.redirect) = true
  · simp only [Bool.and_eq_true] at hr
    rw [if_pos (by rw [hr.1, hredirect hr.2]; rfl)] at hnone
    cases hnone
  by_cases he : (decide (kind = .exp) && seen'.exp) = true
  · simp only [Bool.and_eq_true] at he
    split at hnone
    · cases hnone
    · rw [if_pos (by rw [he.1, hexp he.2]; rfl)] at hnone
      cases hnone
  rw [if_neg hr, if_neg he]
  split at hnone
  · cases hnone
  · split at hnone
    · cases hnone
    · exact hnone

/-- A modifier is written as its token, and read again where no more counts as read. -/
theorem readTerm_modifier [Packages] {mo : Modifier} (h : readTerm seen token = .ok (.modifier mo faults ws))
    (hw : seen'.Within seen) : mo.text = token ∧ readTerm seen' token = .ok (.modifier mo faults ws) := by
  unfold readTerm at h ⊢
  cases hm : Token.mechanism? token.toList with
  | some w =>
    rw [hm] at h
    unfold readMechanism at h
    dsimp only at h
    repeat' split at h
    all_goals cases h
  | none =>
    rw [hm] at h
    cases hv : Token.modifier? token.toList with
    | none => rw [hv] at h; cases h
    | some nv =>
      rw [hv] at h
      dsimp only at h ⊢
      unfold readModifier at h ⊢
      dsimp only at h ⊢
      split at h
      · cases h
      · rename_i hname
        rw [if_neg hname]
        split at h
        · cases h
        · rename_i hnone
          rw [modifierError?_within hw hnone]
          dsimp only
          split at h
          · cases h
          · cases h
            exact ⟨Token.text_of_modifier? hv, rfl⟩

/-! ## Whole records -/

theorem after_mechanism {w : Token.Written} (h : Token.mechanism? token.toList = some w) (seen : Seen) :
    seen.after token = seen := by
  unfold Seen.after modifierKind?
  rw [h]
  simp

/-- The written mechanisms of a record, with whatever stands behind them. -/
theorem readTerms_texts [Packages] {ms : List Mechanism} (hms : ∀ m ∈ ms, IsRead m) {rest : List String} {os : List Outcome}
    (hrest : readTerms seen rest = .ok os) :
    ∃ os', readTerms seen (ms.map (·.text) ++ rest) = .ok os' ∧
      os'.filterMap Outcome.mechanism? = ms.filter readsBack ++ os.filterMap Outcome.mechanism? ∧
      os'.filterMap Outcome.modifier? = os.filterMap Outcome.modifier? := by
  induction ms with
  | nil => exact ⟨os, hrest, rfl, rfl⟩
  | cons m ms ih =>
    obtain ⟨hm, hms⟩ := List.forall_mem_cons.mp hms
    obtain ⟨os', hread, hmechanisms, hmodifiers⟩ := ih hms
    obtain ⟨o, ho, hmechanism, hmodifier⟩ := readTerm_text hm seen
    obtain ⟨w, hshape, _⟩ := hm.shape
    refine ⟨o :: os', ?_, ?_, ?_⟩
    · simp only [List.map_cons, List.cons_append, readTerms, ho, after_mechanism hshape, hread, bind, Except.bind]
    · rw [List.filterMap_cons, hmechanism, List.filter_cons, hmechanisms]
      by_cases hb : readsBack m = true
      · rw [if_pos hb, if_pos hb, List.cons_append]
      · rw [if_neg hb, if_neg hb]
    · rw [List.filterMap_cons, hmodifier, hmodifiers]

/-- The written modifiers of a record are read again, and nothing else is. -/
theorem readTerms_modifierTexts [Packages] {ts : List String} {os : List Outcome} (h : readTerms seen ts = .ok os)
    (hw : seen'.Within seen) :
    readTerms seen' ((os.filterMap Outcome.modifier?).map (·.text)) = .ok (os.filter (·.modifier?.isSome)) := by
  induction ts generalizing seen seen' os with
  | nil =>
    cases h
    rfl
  | cons t ts ih =>
    obtain ⟨o, os, rfl, ho, hs⟩ := readTerms_cons h
    cases o with
    | modifier mo faults ws =>
      obtain ⟨htext, hagain⟩ := readTerm_modifier ho hw
      have hrest := ih hs (hw.after t)
      rw [List.filterMap_cons]
      simp only [Outcome.modifier?, List.map_cons, htext, readTerms, hagain, hrest, bind, Except.bind]
      rfl
    | mechanism m faults ws =>
      have hrest := ih hs (hw.grown t)
      exact hrest
    | rejected t' reason =>
      have hrest := ih hs (hw.grown t)
      exact hrest

theorem filter_modifiers (os : List Outcome) : (os.filter (·.modifier?.isSome)).filterMap Outcome.mechanism? = [] ∧
    (os.filter (·.modifier?.isSome)).filterMap Outcome.modifier? = os.filterMap Outcome.modifier? := by
  constructor
  · rw [List.filterMap_eq_nil_iff]
    intro o ho
    cases o with
    | modifier mo faults ws => rfl
    | _ => cases (List.mem_filter.mp ho).2
  · rw [List.filterMap_filter]
    refine List.filterMap_congr fun o _ => ?_
    cases o <;> rfl

theorem readTerms_modifiers [Packages] {ts : List String} {os : List Outcome} (h : readTerms seen ts = .ok os)
    (hw : seen'.Within seen) : ∃ os', readTerms seen' ((os.filterMap Outcome.modifier?).map (·.text)) = .ok os' ∧
      os'.filterMap Outcome.mechanism? = [] ∧ os'.filterMap Outcome.modifier? = os.filterMap Outcome.modifier? :=
  ⟨_, readTerms_modifierTexts h hw, filter_modifiers os⟩

theorem isRead_of_mem [Packages] {ts : List String} {os : List Outcome} (hword : ∀ t ∈ ts, IsPlainWord t)
    (h : readTerms seen ts = .ok os) : ∀ m ∈ os.filterMap Outcome.mechanism?, IsRead m := by
  induction ts generalizing seen os with
  | nil => cases h; simp
  | cons t ts ih =>
    obtain ⟨o, os, rfl, ho, hs⟩ := readTerms_cons h
    obtain ⟨ht, hts⟩ := List.forall_mem_cons.mp hword
    intro m hm
    cases o with
    | mechanism m' faults ws =>
      rcases List.mem_cons.mp hm with rfl | hm
      · exact ⟨seen, t, faults, ws, ht, ho⟩
      · exact ih hts hs m hm
    | _ => exact ih hts hs m hm

theorem modifierText_mem [Packages] {ts : List String} {os : List Outcome} (h : readTerms seen ts = .ok os) :
    ∀ mo ∈ os.filterMap Outcome.modifier?, mo.text ∈ ts := by
  induction ts generalizing seen os with
  | nil => cases h; simp
  | cons t ts ih =>
    obtain ⟨o, os, rfl, ho, hs⟩ := readTerms_cons h
    intro mo hmo
    cases o with
    | modifier mo' faults ws =>
      rcases List.mem_cons.mp hmo with rfl | hmo
      · rw [(readTerm_modifier ho (Seen.Within.refl _)).1]
        exact List.mem_cons_self
      · exact List.mem_cons_of_mem _ (ih hs mo hmo)
    | _ => exact List.mem_cons_of_mem _ (ih hs mo hmo)

theorem read_ok [Packages] {record : String} {r : Record} (h : read record = .ok r) :
    ∃ os, readTerms ⟨false, false⟩ ((tokens record).drop 1) = .ok os ∧ r = assemble (unquote record) (tokens record) os := by
  unfold read at h
  cases hs : readTerms ⟨false, false⟩ ((tokens record).drop 1) with
  | error e => rw [hs] at h; cases h
  | ok os =>
    rw [hs] at h
    exact ⟨os, rfl, (Except.ok.inj h).symm⟩

theorem isRead_of_read [Packages] {record : String} {r : Record} (h : read record = .ok r) : ∀ m ∈ r.mechanisms, IsRead m := by
  obtain ⟨os, hos, rfl⟩ := read_ok h
  exact isRead_of_mem (fun t ht => isPlainWord_of_mem_tokens (List.mem_of_mem_drop ht)) hos

theorem read_of_tokens [Packages] {text : String} {ts : List String} {os : List Outcome}
    (htokens : tokens text = versionTag :: ts)
    (h : readTerms ⟨false, false⟩ ts = .ok os) : read text = .ok (assemble (unquote text) (versionTag :: ts) os) := by
  unfold read
  rw [htokens, List.drop_succ_cons, List.drop_zero, h]
  rfl

theorem rebuild_plain (r : Record) : Advice.rebuild r (.ofNames [])
    = .ok (unwords (versionTag :: (r.mechanisms.map (·.text) ++ r.modifiers.map (·.text)))) := by
  have h := Advice.rebuild_nil r
  cases hr : Advice.rebuild r (.ofNames []) with
  | error e => rw [hr] at h; cases h
  | ok text =>
    rw [hr] at h
    exact congrArg Except.ok (Option.some.inj h)

/-- A record that is rebuilt without replacements and read again holds all modifiers, and the mechanisms
whose values can stand behind their keyword as they are written there: so all of them exactly if every
value can. -/
theorem read_rebuild [Packages] {record : String} {r : Record} (h : read record = .ok r) :
    ∃ text r', Advice.rebuild r (.ofNames []) = .ok text ∧ read text = .ok r' ∧
      r'.mechanisms = r.mechanisms.filter readsBack ∧ r'.modifiers = r.modifiers ∧
      (r'.mechanisms = r.mechanisms ↔ ∀ m ∈ r.mechanisms, readsBack m = true) := by
  obtain ⟨os, hread, rfl⟩ := read_ok h
  have hplain : ∀ t ∈ (tokens record).drop 1, IsPlainWord t :=
    fun t ht => isPlainWord_of_mem_tokens (List.mem_of_mem_drop ht)
  have hmechanisms := isRead_of_mem hplain hread
  obtain ⟨os₂, hread₂, hnone, hmodifiers⟩ := readTerms_modifiers hread (Seen.Within.refl _)
  obtain ⟨os₁, hread₁, hms₁, hmods₁⟩ := readTerms_texts hmechanisms hread₂
  have hwords : ∀ w ∈ (os.filterMap Outcome.mechanism?).map (·.text) ++ (os.filterMap Outcome.modifier?).map (·.text),
      IsPlainWord w := by
    intro w hw
    rcases List.mem_append.mp hw with hw | hw
    · obtain ⟨m, hm, rfl⟩ := List.mem_map.mp hw
      exact (hmechanisms m hm).writable.word
    · obtain ⟨mo, hmo, rfl⟩ := List.mem_map.mp hw
      exact hplain _ (modifierText_mem hread mo hmo)
  have htokens := (Advice.tokens_unwords hwords).2
  have hkept : os₁.filterMap Outcome.mechanism? = (os.filterMap Outcome.mechanism?).filter readsBack := by
    rw [hms₁, hnone, List.append_nil]
  refine ⟨_, _, rebuild_plain _, read_of_tokens htokens hread₁, hkept, hmods₁.trans hmodifiers, ?_⟩
  show os₁.filterMap Outcome.mechanism? = os.filterMap Outcome.mechanism? ↔ ∀ m ∈ os.filterMap Outcome.mechanism?, readsBack m = true
  rw [hkept, List.filter_eq_self]

theorem exists_read [Packages] {record : String} (h : (read record).toOption.isSome = true) : ∃ r, read record = .ok r := by
  cases hr : read record with
  | ok r => exact ⟨r, rfl⟩
  | error e => rw [hr] at h; cases h

theorem read_rebuild_upper_case :
    ∃ r, read "v=spf1 +A:b.example/24 include:/a.example redirect=c.example -all" = .ok r ∧
      ∃ text r', Advice.rebuild r (.ofNames []) = .ok text ∧ read text = .ok r' ∧
        r'.mechanisms = r.mechanisms.filter readsBack ∧ r'.modifiers = r.modifiers ∧
        (r'.mechanisms = r.mechanisms ↔ ∀ m ∈ r.mechanisms, readsBack m = true) := by
  obtain ⟨r, h⟩ : ∃ r, read "v=spf1 +A:b.example/24 include:/a.example redirect=c.example -all" = .ok r :=
    exists_read (by decide +kernel)
  exact ⟨r, h, read_rebuild h⟩

/-- The value of an include may begin with a slash, but a keyword with a slash behind it is no include. -/
theorem slashed_include_is_lost :
    ∃ r r', read "v=spf1 include:/a.example -all" = .ok r ∧
      Advice.rebuild r (.ofNames []) = .ok "v=spf1 include/a.example -all" ∧
      read "v=spf1 include/a.example -all" = .ok r' ∧
      r.mechanisms.map (fun m => (m.kind, m.value)) = [(.incl, some "/a.example"), (.all, none)] ∧
      r'.mechanisms.map (fun m => (m.kind, m.value)) = [(.all, none)] := by
  obtain ⟨r, h⟩ : ∃ r, read "v=spf1 include:/a.example -all" = .ok r := exists_read (by decide +kernel)
  obtain ⟨r', h'⟩ : ∃ r', read "v=spf1 include/a.example -all" = .ok r' := exists_read (by decide +kernel)
  have hms : (read "v=spf1 include:/a.example -all").toOption.map (fun r => r.mechanisms.map fun m => (m.kind, m.value))
      = some [(.incl, some "/a.example"), (.all, none)] := by decide +kernel
  have hms' : (read "v=spf1 include/a.example -all").toOption.map (fun r => r.mechanisms.map fun m => (m.kind, m.value))
      = some [(.all, none)] := by decide +kernel
  have htext : (read "v=spf1 include:/a.example -all").toOption.map (fun r => Advice.rebuild r (.ofNames []))
      = some (.ok "v=spf1 include/a.example -all") := by decide +kernel
  rw [h] at hms htext
  rw [h'] at hms'
  exact ⟨r, r', h, Option.some.inj htext, h', Option.some.inj hms, Option.some.inj hms'⟩

end SenderPolicy.Record
