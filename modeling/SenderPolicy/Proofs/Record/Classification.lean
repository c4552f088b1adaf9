/-
  SenderPolicy.Proofs.Record.Classification — well-formed terms have a shape, and the right one.

  Whether a term is well formed is decided by its syntax, and what it says is read off its shape, which asks for less:
  a keyword in front of the first colon or slash, or else an equals sign. A term that is well formed as a mechanism has
  the shape of one, since what follows a keyword begins with a colon or a slash. One that is well formed as a modifier
  has not, and the name before its first equals sign is well formed. So a term that has neither shape, or the shape of a
  modifier and no proper name, is always rejected for its syntax.
  - `mechanism?_eq_some`: what has been read of a mechanism, by its kind.
  - `shape_of_isMechanism`, `shape_of_isModifier`: the shapes of well-formed terms.
  - `readTerm_rejected`: the two reasons that no term is ever rejected for.
  - `grammar_agrees_with_shapes`: all of this, for tokens and for records.
-/

import SenderPolicy.Installed
import SenderPolicy.Proofs.Record.Returning

namespace SenderPolicy

open Text
open Mechanism (Kind)

namespace Grammar

variable {cs rest : List Char}

/-- The reading as a mechanism uses up the term, so that no other is longer. -/
def IsMechanism (token : List Char) : Prop := mechanism? (unqualified token) = some []

/-- The reading as a modifier uses up the term, and that as a mechanism does not. -/
def IsModifier (token : List Char) : Prop := modifier? token = some [] ∧ ¬IsMechanism token

theorem check_none_iff_or [Expectations] (token : String) :
    check token = none ↔ IsMechanism token.toList ∨ IsModifier token.toList := by
  rw [check_none_iff, rest?, IsModifier, IsMechanism]
  cases mechanism? (unqualified token.toList) with
  | none => cases modifier? token.toList <;> simp
  | some r =>
    cases modifier? token.toList with
    | none => simp
    | some s =>
      cases r with
      | nil => simp
      | cons c r =>
        by_cases hs : s = []
        · simp [hs]
        · have hshorter : (if s.length < (c :: r).length then s else c :: r) ≠ [] := by
            split
            · exact hs
            · exact List.cons_ne_nil c r
          simpa [hs] using hshorter

/-! ## Mechanisms -/

theorem words?_eq_some {names : List String} (h : words? names cs = some rest) :
    ∃ name ∈ names, ∃ keyword, cs = keyword ++ rest ∧ keyword.map fold = name.toList := by
  obtain ⟨name, hname, hword⟩ := List.exists_of_findSome?_eq_some h
  obtain ⟨keyword, hcs, hkeyword⟩ := afterWord?_eq_some.mp hword
  exact ⟨name, hname, keyword, hcs, hkeyword⟩

/-- One of the keywords is read, and its kind leaves what it leaves. -/
theorem words?_behind (kinds : List Kind) {left : List Char} (h : words? (kinds.map Kind.name) cs = some left)
    (hkinds : ∀ k ∈ kinds, k ∈ Kind.standard ∧ Token.behind? k left = some rest) :
    ∃ k ∈ Kind.standard, ∃ keyword left, cs = keyword ++ left ∧ keyword.map fold = k.name.toList ∧
      Token.behind? k left = some rest := by
  obtain ⟨name, hname, keyword, hcs, hkeyword⟩ := words?_eq_some h
  obtain ⟨k, hk, rfl⟩ := List.mem_map.mp hname
  obtain ⟨hstandard, hbehind⟩ := hkinds k hk
  exact ⟨k, hstandard, keyword, left, hcs, hkeyword, hbehind⟩

/-- A mechanism is a keyword, and behind it what its kind asks for. -/
theorem mechanism?_eq_some (h : mechanism? cs = some rest) :
    ∃ k ∈ Kind.standard, ∃ keyword left, cs = keyword ++ left ∧ keyword.map fold = k.name.toList ∧
      Token.behind? k left = some rest := by
  unfold mechanism? at h
  simp only [Option.orElse_eq_orElse, Option.orElse_eq_or, Option.or_eq_some_iff] at h
  -- One case for each alternative of the grammar. That the ones before it fail is of no use here.
  rcases h with hall | ⟨-, hdomain | ⟨-, hv4 | ⟨-, hv6 | ⟨-, hhosts⟩⟩⟩⟩
  · exact words?_behind [.all] hall (by simp [Kind.standard, Token.behind?])
  · obtain ⟨left, hword, hleft⟩ := Option.bind_eq_some_iff.mp hdomain
    exact words?_behind [.incl, .exist] hword (by simp [Kind.standard, Token.behind?, hleft])
  · rw [Option.bind_assoc, Option.map_bind] at hv4
    obtain ⟨left, hword, hleft⟩ := Option.bind_eq_some_iff.mp hv4
    exact words?_behind [.ip4] hword (by simpa [Kind.standard, Token.behind?] using hleft)
  · rw [Option.bind_assoc, Option.map_bind] at hv6
    obtain ⟨left, hword, hleft⟩ := Option.bind_eq_some_iff.mp hv6
    exact words?_behind [.ip6] hword (by simpa [Kind.standard, Token.behind?] using hleft)
  · obtain ⟨left, hword, hleft⟩ := Option.map_eq_some_iff.mp hhosts
    exact words?_behind [.a, .mx, .ptr] hword (by simp [Kind.standard, Token.behind?, hleft])

/-! ## Modifiers -/

theorem char?_eq_some {k : Char} (h : char? k cs = some rest) : cs = k :: rest := by
  cases cs with
  | nil => cases h
  | cons c cs =>
    by_cases hc : c = k
    · simpa [char?, hc] using h
    · simp [char?, hc] at h

/-- A modifier is a name, an equals sign and a value. -/
theorem modifier?_eq_some (h : modifier? cs = some rest) :
    ∃ name value, cs = name ++ '=' :: value ∧ Token.isModifierName name = true ∧ value.dropWhile isDomainChar = rest := by
  unfold modifier? at h
  cases cs with
  | nil => cases h
  | cons c cs =>
    dsimp only at h
    by_cases hletter : isLetter c = true
    · rw [if_pos hletter] at h
      obtain ⟨value, hequals, hvalue⟩ := Option.map_eq_some_iff.mp h
      refine ⟨c :: cs.takeWhile isNameChar, value, ?_, ?_, hvalue⟩
      · have hsplit := List.takeWhile_append_dropWhile (p := isNameChar) (l := cs)
        rw [char?_eq_some hequals] at hsplit
        rw [List.cons_append, hsplit]
      · simp [Token.isModifierName, hletter, List.all_takeWhile]
    · rw [if_neg hletter] at h
      cases h

end Grammar

namespace Token

/-! ## Shapes -/

variable {token : List Char}

/-- What follows the keyword of a mechanism that is read to its end begins with a colon or a slash. -/
theorem endsKeyword_of_behind? {k : Kind} {cs : List Char} (h : behind? k cs = some []) :
    ∀ c ∈ cs.head?, endsKeyword c = true := by
  intro c hc
  obtain ⟨cs, rfl⟩ := List.head?_eq_some_iff.mp hc
  by_contra hends
  have hother : c ≠ ':' ∧ c ≠ '/' := by simpa [endsKeyword] using hends
  have hcolon : Grammar.char? ':' (c :: cs) = none := by simp [Grammar.char?, hother.1]
  have hslash : Grammar.char? '/' (c :: cs) = none := by simp [Grammar.char?, hother.2]
  cases k <;>
    simp [behind?, Grammar.domain?, Grammar.length?, Grammar.secondLength?, Grammar.optional, hcolon, hslash] at h

theorem shape_of_isMechanism (h : Grammar.IsMechanism token) : ∃ w, mechanism? token = some w := by
  obtain ⟨k, hk, keyword, left, hbody, hkeyword, hbehind⟩ := Grammar.mechanism?_eq_some h
  exact ⟨_, mechanism?_of_spells hbody hk hkeyword (endsKeyword_of_behind? hbehind)⟩

theorem modifier?_name {name value : List Char} (hname : isModifierName name = true) :
    modifier? (name ++ '=' :: value) = some (String.ofList name, String.ofList value) := by
  have hequals : ∀ c ∈ name, (c != '=') = true := by
    intro c hc
    rw [bne_iff_ne]
    rintro rfl
    cases name with
    | nil => cases hc
    | cons d ds =>
      obtain ⟨hletter, hchars⟩ := Bool.and_eq_true_iff.mp hname
      rcases List.mem_cons.mp hc with rfl | hc
      · exact absurd hletter (by decide)
      · exact absurd (List.all_eq_true.mp hchars _ hc) (by decide)
  unfold modifier?
  rw [List.dropWhile_append_of_pos hequals, List.takeWhile_append_of_pos hequals]
  simp

theorem shape_of_isModifier (h : Grammar.IsModifier token) :
    mechanism? token = none ∧ ∃ name value, modifier? token = some (name, value) ∧ isModifierName name.toList = true := by
  obtain ⟨name, value, rfl, hname, -⟩ := Grammar.modifier?_eq_some h.1
  refine ⟨?_, String.ofList name, String.ofList value, modifier?_name hname, by rwa [String.toList_ofList]⟩
  cases hshape : mechanism? (name ++ '=' :: value) with
  | none => rfl
  | some w =>
    have hnone := modifier?_mechanism hshape
    rw [h.1] at hnone
    cases hnone

end Token

namespace Record

/-! ## Reasons -/

variable {seen : Seen} {token : String} {reason : TermError}

/-- What is said of a term that is well formed, but has no shape that can be read. -/
def isFallback : TermError → Bool
  | .unknownTerm _ | .invalidModifier _ => true
  | _ => false

/-- A term without the shape of a mechanism or of a modifier with a proper name is not well formed. -/
theorem exists_fault [Expectations] (hmechanism : Token.mechanism? token.toList = none)
    (hmodifier : ∀ name value, Token.modifier? token.toList = some (name, value) → Token.isModifierName name.toList = false) :
    ∃ fault, Grammar.check token = some fault := by
  cases hcheck : Grammar.check token with
  | some fault => exact ⟨fault, rfl⟩
  | none =>
    rcases (Grammar.check_none_iff_or token).mp hcheck with hform | hform
    · obtain ⟨w, hw⟩ := Token.shape_of_isMechanism hform
      rw [hmechanism] at hw
      cases hw
    · obtain ⟨-, name, value, hshape, hname⟩ := Token.shape_of_isModifier hform
      rw [hmodifier name value hshape] at hname
      cases hname

theorem checkValue_not_fallback {k : Kind} {value : Option String} (h : Mechanism.checkValue k value = some reason) :
    isFallback reason = false := by
  unfold Mechanism.checkValue Mechanism.checkNetwork Mechanism.checkLengths at h
  dsimp only at h
  repeat' split at h
  all_goals cases h <;> rfl

theorem modifierError?_not_fallback [Expectations] {kind : Modifier.Kind} {value : String}
    (h : modifierError? seen token kind value = some reason) : isFallback reason = false := by
  unfold modifierError? at h
  repeat' split at h
  case isFalse.isFalse.isFalse.isFalse =>
    obtain ⟨fault, -, rfl⟩ := Option.map_eq_some_iff.mp h
    rfl
  all_goals cases h <;> rfl

/-- No term is rejected for a fallback: where there is one, the syntax is at fault and comes first. -/
theorem readTerm_rejected [Packages] {t : String} (h : readTerm seen token = .ok (.rejected t reason)) :
    isFallback reason = false := by
  unfold readTerm at h
  cases hw : Token.mechanism? token.toList with
  | some w =>
    rw [hw] at h
    unfold readMechanism at h
    dsimp only at h
    repeat' split at h
    all_goals cases h
    · rfl
    · rename_i hvalue
      exact checkValue_not_fallback hvalue
  | none =>
    rw [hw] at h
    cases hm : Token.modifier? token.toList with
    | none =>
      obtain ⟨fault, hfault⟩ := exists_fault hw fun name value hshape => by rw [hm] at hshape; cases hshape
      rw [hm, hfault] at h
      cases h
      rfl
    | some nv =>
      rw [hm] at h
      unfold readModifier at h
      dsimp only at h
      by_cases hname : Token.isModifierName nv.1.toList = true
      · simp only [hname, Bool.not_true, Bool.false_eq_true, if_false] at h
        repeat' split at h
        all_goals cases h
        rename_i herror
        exact modifierError?_not_fallback herror
      · have hproper : ∀ name value, Token.modifier? token.toList = some (name, value) → Token.isModifierName name.toList = false := by
          intro name value hshape
          rw [hm] at hshape
          cases hshape
          simpa using hname
        obtain ⟨fault, hfault⟩ := exists_fault hw hproper
        simp only [hname, hfault] at h
        cases h
        rfl

/-- A token is well formed as a mechanism or as a modifier, and has the shape of what it is well formed as. No record
has a problem with a term that is well formed but has no shape. -/
theorem grammar_agrees_with_shapes [Packages] :
    (∀ token : String, (Grammar.check token = none ↔ Grammar.IsMechanism token.toList ∨ Grammar.IsModifier token.toList) ∧
      (Grammar.IsMechanism token.toList → ∃ w, Token.mechanism? token.toList = some w) ∧
      (Grammar.IsModifier token.toList → Token.mechanism? token.toList = none ∧
        ∃ name value, Token.modifier? token.toList = some (name, value) ∧ Token.isModifierName name.toList = true)) ∧
    ∀ (record : String) (r : Record), read record = .ok r → ∀ token reason, .rejected token reason ∈ r.problems →
      ∀ t, reason ≠ .unknownTerm t ∧ reason ≠ .invalidModifier t := by
  constructor
  · intro token
    exact ⟨Grammar.check_none_iff_or token, Token.shape_of_isMechanism, Token.shape_of_isModifier⟩
  · intro record r hread token reason hmem t
    obtain ⟨seen, hterm⟩ := exists_rejected hread hmem
    have hreason := readTerm_rejected hterm
    constructor
    all_goals
      rintro rfl
      cases hreason

/-- A keyword in capitals, an empty value, and three terms that are not well formed. -/
theorem grammar_agrees_with_shapes_spelled :
    (∃ w, Token.mechanism? "-INCLUDE:a.example".toList = some w) ∧
      (∃ name value, Token.modifier? "x.y=".toList = some (name, value) ∧ Token.isModifierName name.toList = true) ∧
      ∃ r, read "v=spf1 =x x 1=x" = .ok r ∧ r.problems.length = 3 ∧
        ∀ token reason, .rejected token reason ∈ r.problems → ∀ t, reason ≠ .unknownTerm t ∧ reason ≠ .invalidModifier t := by
  obtain ⟨htokens, hrecords⟩ := grammar_agrees_with_shapes
  have hmechanism : Grammar.IsMechanism "-INCLUDE:a.example".toList := by unfold Grammar.IsMechanism; decide +kernel
  have hmodifier : Grammar.IsModifier "x.y=".toList := by unfold Grammar.IsModifier Grammar.IsMechanism; decide +kernel
  have hproblems : (read "v=spf1 =x x 1=x").toOption.map (·.problems.length) = some 3 := by decide +kernel
  cases hread : read "v=spf1 =x x 1=x" with
  | error e => rw [hread] at hproblems; cases hproblems
  | ok r =>
    rw [hread] at hproblems
    exact ⟨(htokens _).2.1 hmechanism, ((htokens _).2.2 hmodifier).2, r, rfl, Option.some.inj hproblems, hrecords _ r hread⟩

end Record

end SenderPolicy
