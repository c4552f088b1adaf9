/-
  SenderPolicy.Proofs.Record.Independence — what a term yields does not depend on the terms around it.

  Two things carry over from one term to the next: that there has been a redirect, and that there has been an
  explanation. They count for another modifier of the same kind alone, which is rejected. A mechanism takes no
  notice of them, so the mechanisms of a record are those of its terms, each read as the only term of a record.
  - `readTerm_congr`: terms read alike where no more of their own kind has been seen.
  - `mechanismsOf_lone`, `read_lone_of_first`: what a term yields in a record of its own.
  - `count_modifiers`: a redirect or an explanation is read once.
  - `terms_independent`: each term of a record is one mechanism, one modifier or one rejection, and the one that
    it is alone.
-/

import SenderPolicy.Installed
import SenderPolicy.Proofs.Record.Returning

namespace SenderPolicy.Record

open Text

variable {seen seen' : Seen} {token : String} {o : Outcome} {before : List String}

/-! ## What has been seen -/

/-- The modifiers that may stand only once. -/
def once : List Modifier.Kind := [.redirect, .exp]

def Seen.has (seen : Seen) : Modifier.Kind → Bool
  | .redirect => seen.redirect
  | .exp => seen.exp
  | _ => false

theorem once_of_has {k : Modifier.Kind} (h : seen.has k = true) : k ∈ once := by
  cases k with
  | redirect => exact List.mem_cons_self
  | exp => exact List.mem_cons_of_mem _ List.mem_cons_self
  | _ => cases h

@[simp]
theorem has_nothing (k : Modifier.Kind) : (⟨false, false⟩ : Seen).has k = false := by cases k <;> rfl

theorem has_after {k : Modifier.Kind} (hk : k ∈ once) (seen : Seen) (token : String) :
    (seen.after token).has k = (seen.has k || modifierKind? token == some k) := by
  simp only [once, List.mem_cons, List.not_mem_nil, or_false] at hk
  rcases hk with rfl | rfl <;> rfl

theorem has_seenIn {k : Modifier.Kind} (hk : k ∈ once) (before : List String) :
    (seenIn before).has k = before.any (modifierKind? · == some k) := by
  have hfrom : ∀ seen : Seen, (before.foldl Seen.after seen).has k = (seen.has k || before.any (modifierKind? · == some k)) := by
    induction before with
    | nil => simp
    | cons t ts ih =>
      intro seen
      rw [List.foldl_cons, ih, has_after hk, List.any_cons, Bool.or_assoc]
  rw [seenIn, hfrom, has_nothing, Bool.false_or]

/-- A redirect behind a redirect, or an explanation behind an explanation. -/
def Repeats (before : List String) (token : String) : Prop :=
  ∃ k ∈ once, modifierKind? token = some k ∧ ∃ t ∈ before, modifierKind? t = some k

theorem repeats_iff : Repeats before token ↔ ∃ k, modifierKind? token = some k ∧ (seenIn before).has k = true := by
  constructor
  · intro h
    obtain ⟨k, hk, htoken, t, ht, hkind⟩ := h
    refine ⟨k, htoken, ?_⟩
    rw [has_seenIn hk, List.any_eq_true]
    exact ⟨t, ht, beq_iff_eq.mpr hkind⟩
  · intro h
    obtain ⟨k, htoken, hhas⟩ := h
    have hk := once_of_has hhas
    rw [has_seenIn hk, List.any_eq_true] at hhas
    obtain ⟨t, ht, hkind⟩ := hhas
    exact ⟨k, hk, htoken, t, ht, beq_iff_eq.mp hkind⟩

/-! ## One term -/

theorem modifierKind?_eq {name value : String} (hshape : Token.mechanism? token.toList = none)
    (hmodifier : Token.modifier? token.toList = some (name, value)) (hname : Token.isModifierName name.toList = true) :
    modifierKind? token = some (modifierKind name) := by
  simp [modifierKind?, hshape, hmodifier, hname]

theorem modifierError?_congr [Expectations] {kind : Modifier.Kind} {value : String} (h : seen.has kind = seen'.has kind) :
    modifierError? seen token kind value = modifierError? seen' token kind value := by
  cases kind <;> simp_all [modifierError?, Seen.has]

/-- A term looks at what has been seen only for a modifier of its own kind. -/
theorem readTerm_congr [Packages] (h : ∀ k, modifierKind? token = some k → seen.has k = seen'.has k) :
    readTerm seen token = readTerm seen' token := by
  unfold readTerm
  cases hshape : Token.mechanism? token.toList with
  | some w => rfl
  | none =>
    cases hmodifier : Token.modifier? token.toList with
    | none => rfl
    | some nv =>
      unfold readModifier
      by_cases hname : Token.isModifierName nv.1.toList = true
      · have hsame := h _ (modifierKind?_eq hshape hmodifier hname)
        simp only [modifierError?_congr hsame]
      · simp [hname]

/-- A modifier by name is rejected for its error, if there is one, and else it is read. -/
theorem readTerm_named [Packages] {k : Modifier.Kind} (hkind : modifierKind? token = some k) :
    ∃ name value, Token.modifier? token.toList = some (name, value) ∧ ∀ seen,
      (∀ reason, modifierError? seen token k value = some reason → readTerm seen token = .ok (.rejected token reason)) ∧
      ∀ o, modifierError? seen token k value = none → readTerm seen token = .ok o → o.modifier?.isSome = true := by
  unfold modifierKind? at hkind
  split at hkind
  · rename_i name value hshape hmodifier
    by_cases hname : Token.isModifierName name.toList = true
    · rw [if_pos hname, Option.some.injEq] at hkind
      refine ⟨name, value, hmodifier, ?_⟩
      intro seen
      unfold readTerm readModifier
      simp only [hshape, hmodifier, hname, hkind, Bool.not_true, Bool.false_eq_true, if_false]
      constructor
      · intro reason herror
        simp [herror]
      · intro o herror h
        simp only [herror] at h
        cases hmacros : macrosOf (if k = .unknown then "" else value) with
        | error e => rw [hmacros] at h; cases h
        | ok analysis =>
          rw [hmacros] at h
          cases h
          rfl
    · rw [if_neg hname] at hkind
      cases hkind
  · cases hkind

/-- What has been seen of the kind of a modifier rejects it. -/
theorem readTerm_repeated [Packages] {k : Modifier.Kind} (hkind : modifierKind? token = some k) (h : seen.has k = true) :
    ∃ reason, readTerm seen token = .ok (.rejected token reason) := by
  obtain ⟨name, value, -, hread⟩ := readTerm_named hkind
  have herror : ∃ reason, modifierError? seen token k value = some reason := by
    cases k <;> simp_all [modifierError?, Seen.has]
  obtain ⟨reason, herror⟩ := herror
  exact ⟨reason, (hread seen).1 reason herror⟩

/-- A modifier that is read is of the kind of its token, and the first of it if it may stand only once. -/
theorem kind_of_modifier [Packages] {mo : Modifier} {faults : List MacroString.Fault} {ws : List Warning}
    (h : readTerm seen token = .ok (.modifier mo faults ws)) : modifierKind? token = some mo.kind ∧ seen.has mo.kind = false := by
  have hkind : modifierKind? token = some mo.kind := by
    unfold readTerm at h
    cases hshape : Token.mechanism? token.toList with
    | some w =>
      rw [hshape] at h
      unfold readMechanism at h
      dsimp only at h
      repeat' split at h
      all_goals cases h
    | none =>
      cases hmodifier : Token.modifier? token.toList with
      | none => rw [hshape, hmodifier] at h; cases h
      | some nv =>
        rw [hshape, hmodifier] at h
        dsimp only at h
        unfold readModifier at h
        by_cases hname : Token.isModifierName nv.1.toList = true
        · simp only [hname, Bool.not_true, Bool.false_eq_true, if_false] at h
          rw [modifierKind?_eq hshape hmodifier hname]
          repeat' split at h
          all_goals cases h
          all_goals rfl
        · simp [hname] at h
  refine ⟨hkind, ?_⟩
  by_contra hhas
  obtain ⟨reason, hrejected⟩ := readTerm_repeated hkind (by simpa using hhas)
  rw [h] at hrejected
  cases hrejected

theorem mechanism?_readTerm [Packages] (hshape : Token.mechanism? token.toList = none) (h : readTerm seen token = .ok o) :
    o.mechanism? = none := by
  cases o with
  | mechanism m faults ws =>
    obtain ⟨w, hfrom, _⟩ := readFrom_of_mechanism h
    rw [hfrom.shape] at hshape
    cases hshape
  | _ => rfl

/-! ## A term alone -/

/-- The record in which a term stands alone. -/
def lone (token : String) : String := unwords [versionTag, token]

/-- The mechanisms of a record; one that is not read has none. -/
def mechanismsOf [Packages] (record : String) : List Mechanism := ((read record).toOption.map (·.mechanisms)).getD []

theorem tokens_lone (h : IsPlainWord token) : tokens (lone token) = [versionTag, token] := by
  refine (Advice.tokens_unwords ?_).2
  intro w hw
  rw [List.mem_singleton.mp hw]
  exact h

theorem read_lone [Packages] (h : IsPlainWord token) :
    read (lone token) = (readTerm ⟨false, false⟩ token).map fun o => assemble (unquote (lone token)) [versionTag, token] [o] := by
  unfold read
  rw [tokens_lone h]
  simp only [List.drop_succ_cons, List.drop_zero, readTerms]
  cases readTerm ⟨false, false⟩ token <;> rfl

/-- Alone, a term yields the mechanism that it yields anywhere. -/
theorem mechanismsOf_lone [Packages] (hword : IsPlainWord token) (h : readTerm seen token = .ok o) :
    mechanismsOf (lone token) = o.mechanism?.toList := by
  unfold mechanismsOf
  rw [read_lone hword]
  cases hshape : Token.mechanism? token.toList with
  | some w =>
    have hnone : ∀ k, modifierKind? token = some k → (⟨false, false⟩ : Seen).has k = seen.has k := by
      simp [modifierKind?, hshape]
    rw [readTerm_congr hnone, h]
    cases o <;> rfl
  | none =>
    rw [mechanism?_readTerm hshape h]
    cases halone : readTerm ⟨false, false⟩ token with
    | error e => rfl
    | ok o' =>
      have hnone := mechanism?_readTerm hshape halone
      cases o' with
      | mechanism m faults ws => cases hnone
      | _ => rfl

/-- A term that repeats no modifier yields alone what it yields behind others. -/
theorem read_lone_of_first [Packages] (hword : IsPlainWord token) (h : readTerm (seenIn before) token = .ok o)
    (hfirst : ¬ Repeats before token) :
    ∃ alone, read (lone token) = .ok alone ∧ alone.mechanisms = o.mechanism?.toList ∧ alone.modifiers = o.modifier?.toList ∧
      alone.problems = o.problems := by
  have hsame : readTerm ⟨false, false⟩ token = .ok o := by
    rw [← h]
    refine readTerm_congr ?_
    intro k hkind
    have hnone : (seenIn before).has k = false := by
      by_contra hhas
      exact hfirst (repeats_iff.mpr ⟨k, hkind, by simpa using hhas⟩)
    exact (has_nothing k).trans hnone.symm
  have hversion : isVersion versionTag = true := by decide
  refine ⟨_, by rw [read_lone hword, hsame]; rfl, ?_⟩
  cases o <;> simp [assemble, Outcome.mechanism?, Outcome.modifier?, Outcome.problems, versionProblems, hversion]

theorem rejected_of_repeats [Packages] (h : readTerm (seenIn before) token = .ok o) (hrepeats : Repeats before token) :
    ∃ reason, o = .rejected token reason := by
  obtain ⟨k, hkind, hhas⟩ := repeats_iff.mp hrepeats
  obtain ⟨reason, hrejected⟩ := readTerm_repeated hkind hhas
  exact ⟨reason, Except.ok.inj (h.symm.trans hrejected)⟩

/-! ## All terms -/

def isRejection : Problem → Bool
  | .rejected _ _ => true
  | _ => false

/-- Every outcome is a mechanism, a modifier or a rejection. -/
theorem length_outcomes (os : List Outcome) :
    os.length = (os.filterMap Outcome.mechanism?).length + (os.filterMap Outcome.modifier?).length +
      ((os.flatMap Outcome.problems).filter isRejection).length := by
  induction os with
  | nil => rfl
  | cons o os ih =>
    have hfaults : ∀ faults : List MacroString.Fault, (faults.map Problem.macroFault).filter isRejection = [] := by
      intro faults
      simp [List.filter_eq_nil_iff, isRejection]
    rw [List.flatMap_cons, List.filter_append, List.length_append]
    cases o with
    | mechanism m faults ws =>
      simp only [Outcome.problems, hfaults, List.filterMap_cons, Outcome.mechanism?, Outcome.modifier?, List.length_cons, List.length_nil]
      omega
    | modifier mo faults ws =>
      simp only [Outcome.problems, hfaults, List.filterMap_cons, Outcome.mechanism?, Outcome.modifier?, List.length_cons, List.length_nil]
      omega
    | rejected t reason =>
      simp only [Outcome.problems, List.filterMap_cons, Outcome.mechanism?, Outcome.modifier?, List.length_cons, List.filter, isRejection,
        List.length_nil]
      omega

theorem filter_versionProblems (tokens : List String) : (versionProblems tokens).filter isRejection = [] := by
  rw [List.filter_eq_nil_iff]
  intro p hp
  cases p with
  | rejected token reason => exact absurd hp mem_versionProblems
  | _ => simp [isRejection]

theorem mechanisms_readTerms [Packages] {ts : List String} {os : List Outcome} (hword : ∀ t ∈ ts, IsPlainWord t)
    (h : readTerms seen ts = .ok os) : os.filterMap Outcome.mechanism? = ts.flatMap fun t => mechanismsOf (lone t) := by
  induction ts generalizing seen os with
  | nil => cases h; rfl
  | cons t ts ih =>
    obtain ⟨o, os, rfl, ho, hs⟩ := readTerms_cons h
    obtain ⟨ht, hts⟩ := List.forall_mem_cons.mp hword
    rw [List.flatMap_cons, mechanismsOf_lone ht ho, ← ih hts hs]
    cases o <;> rfl

/-- Of a kind that may stand only once there is no modifier behind another one. -/
theorem count_modifiers [Packages] {k : Modifier.Kind} (hk : k ∈ once) {ts : List String} {os : List Outcome}
    (h : readTerms seen ts = .ok os) : (os.filterMap Outcome.modifier?).countP (·.kind == k) ≤ if seen.has k then 0 else 1 := by
  induction ts generalizing seen os with
  | nil => cases h; simp
  | cons t ts ih =>
    obtain ⟨o, os, rfl, ho, hs⟩ := readTerms_cons h
    have hrest := ih hs
    rw [has_after hk] at hrest
    have hless : (if (seen.has k || modifierKind? t == some k) then 0 else 1) ≤ if seen.has k then 0 else 1 := by
      cases seen.has k <;> simp
      split <;> omega
    cases o with
    | mechanism m faults ws => exact Nat.le_trans hrest hless
    | rejected t' reason => exact Nat.le_trans hrest hless
    | modifier mo faults ws =>
      obtain ⟨hkind, hhas⟩ := kind_of_modifier ho
      rw [List.filterMap_cons]
      simp only [Outcome.modifier?, List.countP_cons]
      by_cases he : mo.kind = k
      · subst he
        simp [hkind, hhas] at hrest ⊢
        omega
      · simp only [beq_iff_eq, he, if_false, Nat.add_zero]
        exact Nat.le_trans hrest hless

/-- Each term of a record yields one mechanism, one modifier or one rejection, and none is lost. The mechanisms are
those that the terms yield alone. So are the modifiers and the problems, but for a redirect or an explanation behind
another one, which is rejected: at most one of each is read. -/
theorem terms_independent [Packages] {record : String} {r : Record} (h : read record = .ok r) :
    (terms record).length = r.mechanisms.length + r.modifiers.length + (r.problems.filter isRejection).length ∧
    (∀ token ∈ terms record, terms (lone token) = [token]) ∧
    r.mechanisms = (terms record).flatMap (fun token => mechanismsOf (lone token)) ∧
    (∃ os : List Outcome, os.length = (terms record).length ∧
      r.mechanisms = os.filterMap Outcome.mechanism? ∧ r.modifiers = os.filterMap Outcome.modifier? ∧
      r.problems = versionProblems (tokens record) ++ os.flatMap Outcome.problems ∧
      ∀ before token after, terms record = before ++ token :: after → ∃ o, os[before.length]? = some o ∧
        (Repeats before token → ∃ reason, o = .rejected token reason) ∧
        (¬ Repeats before token → ∃ alone, read (lone token) = .ok alone ∧ alone.mechanisms = o.mechanism?.toList ∧
          alone.modifiers = o.modifier?.toList ∧ alone.problems = o.problems)) ∧
    ∀ k ∈ once, r.modifiers.countP (·.kind == k) ≤ 1 := by
  have hword : ∀ t ∈ terms record, IsPlainWord t := fun t ht => isPlainWord_of_mem_tokens (List.mem_of_mem_drop ht)
  obtain ⟨os, hread, rfl⟩ := read_ok h
  have hlength := length_readTerms hread
  refine ⟨?_, ?_, mechanisms_readTerms hword hread, ⟨os, hlength, rfl, rfl, rfl, ?_⟩, ?_⟩
  · have hrejected : (versionProblems (tokens record) ++ os.flatMap Outcome.problems).filter isRejection
        = (os.flatMap Outcome.problems).filter isRejection := by
      rw [List.filter_append, filter_versionProblems, List.nil_append]
    show _ = (os.filterMap Outcome.mechanism?).length + (os.filterMap Outcome.modifier?).length +
      ((versionProblems (tokens record) ++ os.flatMap Outcome.problems).filter isRejection).length
    rw [hrejected, ← length_outcomes]
    exact hlength.symm
  · intro token htoken
    rw [terms, tokens_lone (hword token htoken)]
    rfl
  · intro before token after hs
    obtain ⟨o, hat, ho⟩ := readTerms_getElem? hread before token after hs
    have htoken : IsPlainWord token := hword token (by rw [hs]; simp)
    exact ⟨o, hat, rejected_of_repeats ho, read_lone_of_first htoken ho⟩
  · intro k hk
    have hcount := count_modifiers hk hread
    exact Nat.le_trans hcount (by split <;> omega)

/-- A redirect that is read alone is rejected behind another one, and a mechanism is not. -/
theorem terms_independent_second_redirect :
    ∃ r, read "v=spf1 redirect=a.example mx redirect=b.example =x -all" = .ok r ∧
      5 = r.mechanisms.length + r.modifiers.length + (r.problems.filter isRejection).length ∧
      r.mechanisms = ["redirect=a.example", "mx", "redirect=b.example", "=x", "-all"].flatMap (fun token => mechanismsOf (lone token)) ∧
      (∃ (os : List Outcome) (reason : TermError), r.problems = os.flatMap Outcome.problems ∧
        os[2]? = some (.rejected "redirect=b.example" reason)) ∧
      r.modifiers.countP (·.kind == .redirect) ≤ 1 ∧
      ∃ alone, read (lone "redirect=b.example") = .ok alone ∧ alone.modifiers.countP (·.kind == .redirect) = 1 := by
  obtain ⟨r, h⟩ : ∃ r, read "v=spf1 redirect=a.example mx redirect=b.example =x -all" = .ok r := exists_read (by decide +kernel)
  have hterms : terms "v=spf1 redirect=a.example mx redirect=b.example =x -all"
      = ["redirect=a.example", "mx"] ++ "redirect=b.example" :: ["=x", "-all"] := by decide +kernel
  have hversion : versionProblems (tokens "v=spf1 redirect=a.example mx redirect=b.example =x -all") = [] := by decide +kernel
  have hrepeats : Repeats ["redirect=a.example", "mx"] "redirect=b.example" :=
    ⟨.redirect, List.mem_cons_self, by decide +kernel, "redirect=a.example", List.mem_cons_self, by decide +kernel⟩
  obtain ⟨hcount, -, hmechanisms, ⟨os, -, -, -, hproblems, hos⟩, honce⟩ := terms_independent h
  obtain ⟨o, hat, hrejected, -⟩ := hos _ _ _ hterms
  obtain ⟨reason, rfl⟩ := hrejected hrepeats
  rw [hterms] at hcount hmechanisms
  rw [hversion] at hproblems
  have halone : (read "v=spf1 redirect=b.example").toOption.map (·.modifiers.countP (·.kind == .redirect)) = some 1 := by decide +kernel
  refine ⟨r, h, hcount, hmechanisms, ⟨os, reason, hproblems, hat⟩, honce _ List.mem_cons_self, ?_⟩
  show ∃ alone, read "v=spf1 redirect=b.example" = .ok alone ∧ _
  cases hread : read "v=spf1 redirect=b.example" with
  | error e => rw [hread] at halone; cases halone
  | ok alone =>
    rw [hread] at halone
    exact ⟨alone, rfl, Option.some.inj halone⟩

end SenderPolicy.Record
