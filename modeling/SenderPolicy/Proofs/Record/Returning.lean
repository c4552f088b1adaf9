/-
  SenderPolicy.Proofs.Record.Returning — which records are read to their end, and what is kept of each term.

  A term that is at fault is rejected with a reason, and the next one is read. But two things end the reading
  of the whole record, and they are looked at only after everything a term could be rejected for: the number of
  lookups of a mechanism whose keyword only folds to its name, and digits in the macros of a value that spell no
  number. Whether a modifier is rejected depends on the terms before it, so whether it ends the reading does too.
  - `isOk_readTerm`: a term yields something unless it halts.
  - `read_returns_iff`: a record is read exactly if none of its terms halts, and then every term is among its
    mechanisms, its modifiers or its problems, with every fault of its macros.
  - `folded_keyword_ends_the_reading`: such a keyword is no reason to reject its term.
-/

import SenderPolicy.Installed
import SenderPolicy.Proofs.MacroString.Numerals
import SenderPolicy.Proofs.Record.Rereading

namespace SenderPolicy.Record

open Text
open Mechanism (Kind)

variable {seen : Seen} {token : String}

/-! ## One term -/

theorem isOk_macrosOf (text : String) : (macrosOf text).isOk = !MacroString.halts text.toList := by
  unfold macrosOf
  split
  · exact MacroString.isOk_analyze text
  · rename_i h
    rw [MacroString.halts_plain (by simpa using h)]
    rfl

/-- Whether a mechanism in which nothing is wrong has a keyword that only folds to its name, or halts in its macros. -/
def mechanismHalts [Expectations] (token : String) (w : Token.Written) : Bool :=
  let kind := Kind.ofName w.term.name
  (Grammar.check token).isNone && (Mechanism.checkValue kind w.term.value).isNone &&
    (w.keyword.any onlyFolds || MacroString.halts ((Mechanism.target? kind w.term.value).getD "").toList)

/-- Whether a modifier in which nothing is wrong halts in its macros; those of an unknown one are not read. -/
def modifierHalts [Expectations] (seen : Seen) (token name value : String) : Bool :=
  Token.isModifierName name.toList && (modifierError? seen token (modifierKind name) value).isNone &&
    modifierKind name != .unknown && MacroString.halts value.toList

/-- Whether a term ends the reading of its record, if `seen` has been read before it. -/
def termHalts [Expectations] (seen : Seen) (token : String) : Bool :=
  match Token.mechanism? token.toList, Token.modifier? token.toList with
  | some w, _ => mechanismHalts token w
  | none, some (name, value) => modifierHalts seen token name value
  | none, none => false

/-- The lookups are known exactly for keywords that do not only fold to a name. -/
theorem lookups?_isSome {w : Token.Written} (h : Token.mechanism? token.toList = some w) :
    (Kind.ofName w.term.name).lookups?.isSome = !w.keyword.any onlyFolds := by
  obtain ⟨_, ⟨k, hk, hs⟩, _⟩ := Token.mechanism?_spells h
  show (Kind.ofName (lower (String.ofList w.keyword))).lookups?.isSome = _
  cases hf : w.keyword.any onlyFolds with
  | false =>
    rw [List.any_eq_false] at hf
    rw [Token.lower_keyword hk hs fun c hc => by simpa using hf c hc, Kind.ofName_name hk]
    revert hk
    cases k <;> simp [Kind.standard, Kind.lookups?]
  | true =>
    have hne := Token.lower_keyword_ne (List.any_eq_true.mp hf)
    cases hl : (Kind.ofName (lower (String.ofList w.keyword))).lookups? with
    | none => rfl
    | some n =>
      have hstandard := Kind.mem_standard_of_lookups? hl
      exact absurd (Kind.name_ofName hstandard).symm (hne _ hstandard)

theorem isOk_readMechanism [Packages] {w : Token.Written} (h : Token.mechanism? token.toList = some w) :
    (readMechanism token w).isOk = !mechanismHalts token w := by
  have hlookups := lookups?_isSome h
  unfold readMechanism mechanismHalts
  dsimp only
  cases Grammar.check token with
  | some fault => rfl
  | none =>
    cases Mechanism.checkValue (Kind.ofName w.term.name) w.term.value with
    | some reason => rfl
    | none =>
      have hmacros := isOk_macrosOf ((Mechanism.target? (Kind.ofName w.term.name) w.term.value).getD "")
      dsimp only
      simp only [Option.isNone_none, Bool.true_and, Bool.not_or, ← hlookups, ← hmacros]
      cases macrosOf ((Mechanism.target? (Kind.ofName w.term.name) w.term.value).getD "") with
      | error e => simp [Except.isOk, Except.toBool]
      | ok analysis => cases (Kind.ofName w.term.name).lookups? <;> rfl

theorem isOk_readModifier [Expectations] (seen : Seen) (token name value : String) :
    (readModifier seen token name value).isOk = !modifierHalts seen token name value := by
  unfold readModifier modifierHalts
  cases Token.isModifierName name.toList with
  | false => rfl
  | true =>
    simp only [Bool.not_true, Bool.false_eq_true, if_false, Bool.true_and]
    cases modifierError? seen token (modifierKind name) value with
    | some reason => rfl
    | none =>
      have hmacros := isOk_macrosOf (if modifierKind name = .unknown then "" else value)
      rw [Option.isNone_none, Bool.true_and]
      have hsame : MacroString.halts (if modifierKind name = .unknown then "" else value).toList
          = (modifierKind name != .unknown && MacroString.halts value.toList) := by
        by_cases hkind : modifierKind name = .unknown
        · simp [hkind, MacroString.halts_plain]
        · simp [hkind]
      rw [← hsame, ← hmacros]
      cases macrosOf (if modifierKind name = .unknown then "" else value) <;> rfl

/-- A term yields something unless it halts. -/
theorem isOk_readTerm [Packages] (seen : Seen) (token : String) : (readTerm seen token).isOk = !termHalts seen token := by
  unfold readTerm termHalts
  cases hm : Token.mechanism? token.toList with
  | some w => exact isOk_readMechanism hm
  | none =>
    cases Token.modifier? token.toList with
    | none => rfl
    | some nv => exact isOk_readModifier seen token nv.1 nv.2

/-- The term is read, or it is rejected by its name and with a reason. -/
def Outcome.AccountsFor (token : String) : Outcome → Prop
  | .rejected t _ => t = token
  | _ => True

theorem readTerm_accountsFor [Packages] {o : Outcome} (h : readTerm seen token = .ok o) : o.AccountsFor token := by
  cases o with
  | mechanism m faults ws => trivial
  | modifier m faults ws => trivial
  | rejected t reason =>
    unfold readTerm readMechanism readModifier at h
    dsimp only at h
    repeat' split at h
    all_goals cases h
    all_goals rfl

/-! ## All terms -/

def terms (record : String) : List String := (tokens record).drop 1

/-- Which modifiers that may stand only once are among the terms. -/
def seenIn (before : List String) : Seen := before.foldl Seen.after ⟨false, false⟩

theorem forall_split_cons {α : Type} {P : List α → α → Prop} {a : α} {as : List α} :
    (∀ before b after, a :: as = before ++ b :: after → P before b) ↔
      P [] a ∧ ∀ before b after, as = before ++ b :: after → P (a :: before) b := by
  constructor
  · intro h
    exact ⟨h [] a as rfl, fun before b after hs => h (a :: before) b after (by rw [hs, List.cons_append])⟩
  · rintro ⟨hhead, htail⟩ before b after hs
    cases before with
    | nil =>
      obtain ⟨rfl, _⟩ := List.cons.inj hs
      exact hhead
    | cons c before =>
      rw [List.cons_append, List.cons.injEq] at hs
      obtain ⟨rfl, hs⟩ := hs
      exact htail before b after hs

theorem isOk_readTerms [Packages] (seen : Seen) (ts : List String) :
    (readTerms seen ts).isOk = true ↔
      ∀ before token after, ts = before ++ token :: after → termHalts (before.foldl Seen.after seen) token = false := by
  induction ts generalizing seen with
  | nil =>
    refine iff_of_true rfl fun before token after h => ?_
    simp at h
  | cons t ts ih =>
    have hhead := isOk_readTerm seen t
    refine Iff.trans ?_ forall_split_cons.symm
    refine Iff.trans ?_ (and_congr_right' (ih (seen.after t)))
    rw [readTerms, List.foldl_nil]
    cases ho : readTerm seen t with
    | error e =>
      rw [ho] at hhead
      have hhalts : termHalts seen t = true := Bool.not_eq_eq_eq_not.mp hhead.symm
      rw [hhalts]
      exact iff_of_false (by simp [bind, Except.bind, Except.isOk, Except.toBool]) (by simp)
    | ok o =>
      rw [ho] at hhead
      have hhalts : termHalts seen t = false := Bool.not_eq_eq_eq_not.mp hhead.symm
      rw [hhalts]
      cases readTerms (seen.after t) ts <;> simp [bind, Except.bind, Except.isOk, Except.toBool]

/-- Each outcome is that of the term at its place. -/
theorem readTerms_getElem? [Packages] {ts : List String} {os : List Outcome} (h : readTerms seen ts = .ok os) :
    ∀ before token after, ts = before ++ token :: after →
      ∃ o, os[before.length]? = some o ∧ readTerm (before.foldl Seen.after seen) token = .ok o := by
  induction ts generalizing seen os with
  | nil => simp
  | cons t ts ih =>
    obtain ⟨o, os, rfl, ho, hs⟩ := readTerms_cons h
    exact forall_split_cons.mpr ⟨⟨o, rfl, ho⟩, fun before token after hts => ih hs before token after hts⟩

theorem exists_readTerm_of_mem [Packages] {ts : List String} {os : List Outcome} (h : readTerms seen ts = .ok os) {o : Outcome}
    (ho : o ∈ os) : ∃ seen' token, readTerm seen' token = .ok o := by
  induction ts generalizing seen os with
  | nil => cases h; cases ho
  | cons token ts ih =>
    obtain ⟨o', os', rfl, ho', hs⟩ := readTerms_cons h
    rcases List.mem_cons.mp ho with rfl | ho
    · exact ⟨seen, token, ho'⟩
    · exact ih hs ho

theorem mem_versionProblems {tokens : List String} {token : String} {reason : TermError} :
    .rejected token reason ∉ versionProblems tokens := by
  unfold versionProblems
  split
  · simp
  · split <;> simp

/-- A term that a record rejects is one that is rejected where it stands. -/
theorem exists_rejected [Packages] {record : String} {r : Record} {reason : TermError} (h : read record = .ok r)
    (hm : .rejected token reason ∈ r.problems) : ∃ seen, readTerm seen token = .ok (.rejected token reason) := by
  obtain ⟨os, hread, rfl⟩ := read_ok h
  rcases List.mem_append.mp hm with hm | hm
  · exact absurd hm mem_versionProblems
  · obtain ⟨o, ho, hproblem⟩ := List.mem_flatMap.mp hm
    obtain ⟨seen, token', hterm⟩ := exists_readTerm_of_mem hread ho
    cases o with
    | mechanism m faults ws => simp [Outcome.problems] at hproblem
    | modifier m faults ws => simp [Outcome.problems] at hproblem
    | rejected token'' reason' =>
      obtain ⟨rfl, rfl⟩ : token = token'' ∧ reason = reason' := by simpa [Outcome.problems] using hproblem
      obtain rfl : token = token' := readTerm_accountsFor hterm
      exact ⟨seen, hterm⟩

theorem exists_read_iff [Packages] {record : String} :
    (∃ r, read record = .ok r) ↔ (readTerms ⟨false, false⟩ (terms record)).isOk = true := by
  unfold read terms
  cases readTerms ⟨false, false⟩ ((tokens record).drop 1) with
  | error e => exact iff_of_false (by rintro ⟨r, h⟩; cases h) (by simp [Except.isOk, Except.toBool])
  | ok os => exact iff_of_true ⟨_, rfl⟩ rfl

/-- A record is read exactly if none of its terms halts. Then there is one outcome for every term, in order: it
is a mechanism or a modifier of the record, or the term is rejected by its name, and the problems of the record are
those of its version and of the outcomes. -/
theorem read_returns_iff [Packages] (record : String) :
    ((∃ r, read record = .ok r) ↔
      ∀ before token after, terms record = before ++ token :: after → termHalts (seenIn before) token = false) ∧
    ∀ r, read record = .ok r → ∃ os : List Outcome, os.length = (terms record).length ∧
      (∀ before token after, terms record = before ++ token :: after →
        ∃ o, os[before.length]? = some o ∧ readTerm (seenIn before) token = .ok o ∧ o.AccountsFor token) ∧
      r.mechanisms = os.filterMap Outcome.mechanism? ∧ r.modifiers = os.filterMap Outcome.modifier? ∧
      r.problems = versionProblems (tokens record) ++ os.flatMap Outcome.problems := by
  refine ⟨exists_read_iff.trans (isOk_readTerms _ _), fun r h => ?_⟩
  obtain ⟨os, hread, rfl⟩ := read_ok h
  refine ⟨os, length_readTerms hread, fun before token after hs => ?_, rfl, rfl, rfl⟩
  obtain ⟨o, hat, ho⟩ := readTerms_getElem? hread before token after hs
  exact ⟨o, hat, ho, readTerm_accountsFor ho⟩

/-- A superscript counts in no number, but the macros of a modifier that is rejected anyway are not read. -/
theorem read_returns_second_redirect :
    ∃ r, read "v=spf1 redirect=a.example redirect=%\x7bd²\x7d" = .ok r ∧
      ∃ os : List Outcome, os.length = (terms "v=spf1 redirect=a.example redirect=%\x7bd²\x7d").length ∧
        (∀ before token after, terms "v=spf1 redirect=a.example redirect=%\x7bd²\x7d" = before ++ token :: after →
          ∃ o, os[before.length]? = some o ∧ readTerm (seenIn before) token = .ok o ∧ o.AccountsFor token) ∧
        r.mechanisms = os.filterMap Outcome.mechanism? ∧ r.modifiers = os.filterMap Outcome.modifier? ∧
        r.problems = versionProblems (tokens "v=spf1 redirect=a.example redirect=%\x7bd²\x7d") ++ os.flatMap Outcome.problems := by
  obtain ⟨r, h⟩ : ∃ r, read "v=spf1 redirect=a.example redirect=%\x7bd²\x7d" = .ok r := exists_read (by decide +kernel)
  exact ⟨r, h, (read_returns_iff _).2 r h⟩

/-- A dotless `i` only folds to a letter of a keyword. -/
theorem folded_keyword_ends_the_reading :
    read "v=spf1 exısts:a.example -all" = .error (.unknownCost "exısts") := by decide +kernel

end SenderPolicy.Record
