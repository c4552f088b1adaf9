/-
  SenderPolicy.Proofs.Advice.MacroCounts — the reader and the assessment count the same macros.

  The reader counts the macros in the target of a mechanism, which behind `a` and `mx` is the value without its
  lengths; the assessment takes the whole value. The lengths are cut off without regard to braces, but they hold
  nothing but slashes and digits. Such characters make no macro, complete none and break none, so what is behind
  the cut counts for nothing, even if a brace before it is left open.
  - `expressions_append_inert`: behind a text, inert characters leave its expressions as they are.
  - `exists_inert_behind`: what is cut off a value is inert.
  - `IsRead.macroCount`, `IsRead.hasMacros`: the count of a mechanism, and its mark.
  - `macro_counts_agree`: the counts of the mechanisms, one by one and all together.
-/

import SenderPolicy.Installed
import SenderPolicy.Proofs.Advice.MacroReports
import SenderPolicy.Proofs.Record.Rereading
import SenderPolicy.Proofs.Term.DualLengths

namespace SenderPolicy

/-! ## Characters without a meaning -/

namespace MacroString

/-- A character that completes no escape, and neither opens nor closes a brace. -/
def isInert (c : Char) : Bool := c != '\x7b' && c != '\x7d' && (Escape.ofChar? c).isNone

def Lexeme.isBraced : Lexeme → Bool
  | .braced _ => true
  | _ => false

/-- The expressions that are read, whatever the faults. -/
def expressionsFrom (text : String) (position : Nat) (ls : List Lexeme) : Except Text.NumeralError (List Expression) :=
  (readFrom text position ls).map (·.expressions)

variable {text text' : String} {position : Nat}

theorem expressionsFrom_cons (l : Lexeme) {ls ls' : List Lexeme}
    (h : expressionsFrom text (position + l.spelled.length) ls = expressionsFrom text' (position + l.spelled.length) ls') :
    expressionsFrom text position (l :: ls) = expressionsFrom text' position (l :: ls') := by
  unfold expressionsFrom at h ⊢
  rw [readFrom.eq_def, readFrom.eq_def text' position (l :: ls')]
  dsimp only
  revert h
  generalize readFrom text (position + l.spelled.length) ls = after
  generalize readFrom text' (position + l.spelled.length) ls' = after'
  intro h
  have hput : ∀ put put' : Reading → Reading,
      (∀ r r', r.expressions = r'.expressions → (put r).expressions = (put' r').expressions) →
      (after.map put).map (·.expressions) = (after'.map put').map (·.expressions) := by
    intro put put' hkeeps
    cases after with
    | error e =>
      cases after' with
      | error e' => exact h
      | ok r' => cases h
    | ok r =>
      cases after' with
      | error e' => cases h
      | ok r' => exact congrArg Except.ok (hkeeps r r' (Except.ok.inj h))
  cases l with
  | braced body =>
    dsimp only
    cases readBody body with
    | error e => rfl
    | ok result =>
      cases result with
      | error f => exact hput _ _ fun _ _ he => he
      | ok b => exact hput _ _ fun _ _ he => congrArg (_ :: ·) he
  | _ => exact hput _ _ fun _ _ he => he

theorem expressionsFrom_unbraced {ls : List Lexeme} (h : ∀ l ∈ ls, l.isBraced = false) :
    expressionsFrom text position ls = .ok [] := by
  induction ls generalizing position with
  | nil => rfl
  | cons l ls ih =>
    have hrest : expressionsFrom text (position + l.spelled.length) ls = .ok [] := ih fun l' hl' => h l' (List.mem_cons_of_mem _ hl')
    have hfirst : expressionsFrom text position (l :: ls) = expressionsFrom text position [l] := expressionsFrom_cons l hrest
    have hl : l.isBraced = false := h l List.mem_cons_self
    rw [hfirst]
    cases l with
    | braced body => cases hl
    | _ => rfl

variable {tail : List Char}

theorem not_mem_of_inert (h : ∀ c ∈ tail, isInert c = true) {c : Char} (hc : isInert c = false) : c ∉ tail := by
  intro hmem
  rw [h c hmem] at hc
  cases hc

/-- A brace that is open stays open. -/
theorem lexFrom_open {body cs : List Char} (h : '\x7d' ∉ cs) : lexFrom (some body) cs = [.unclosed (cs.reverse ++ body).reverse] := by
  induction cs generalizing body with
  | nil => rfl
  | cons c cs ih =>
    have hc : c ≠ '\x7d' := fun he => h (he ▸ List.mem_cons_self)
    rw [lexFrom, if_neg hc, ih fun hm => h (List.mem_cons_of_mem _ hm), List.reverse_cons, List.append_assoc]
    rfl

theorem unbraced_inert (h : ∀ c ∈ tail, isInert c = true) : ∀ l ∈ lexFrom none tail, l.isBraced = false := by
  rw [lexFrom_of_noPercent (not_mem_of_inert h (by decide))]
  intro l hl
  obtain ⟨c, _, rfl⟩ := List.mem_map.mp hl
  rfl

/-- A percent sign at the end is a fault on its own, and still is one if inert characters follow. -/
theorem unbraced_percent (h : ∀ c ∈ tail, isInert c = true) : ∀ l ∈ lexFrom none ('%' :: tail), l.isBraced = false := by
  cases tail with
  | nil =>
    intro l hl
    rw [List.mem_singleton.mp hl]
    rfl
  | cons d ds =>
    obtain ⟨⟨hopen, -⟩, hescape⟩ : (d ≠ '\x7b' ∧ d ≠ '\x7d') ∧ Escape.ofChar? d = none := by
      simpa [isInert] using h d List.mem_cons_self
    rw [lexFrom, if_neg (by simp), hescape]
    dsimp only
    rw [if_neg hopen]
    exact List.forall_mem_cons.mpr ⟨rfl, unbraced_inert h⟩

theorem expressionsFrom_append_inert (h : ∀ c ∈ tail, isInert c = true) (state : Option (List Char)) (cs : List Char) (position : Nat) :
    expressionsFrom text position (lexFrom state (cs ++ tail)) = expressionsFrom text' position (lexFrom state cs) := by
  fun_induction lexFrom state cs generalizing position with
  | case1 body =>
    rw [List.nil_append, lexFrom_open (not_mem_of_inert h (by decide))]
    rfl
  | case2 body cs ih =>
    rw [List.cons_append, lexFrom, if_pos rfl]
    exact expressionsFrom_cons _ (ih _)
  | case3 body c cs hc ih =>
    rw [List.cons_append, lexFrom, if_neg hc]
    exact ih _
  | case4 => exact expressionsFrom_unbraced (unbraced_inert h)
  | case5 => exact expressionsFrom_unbraced (unbraced_percent h)
  | case6 c hc =>
    rw [List.cons_append, List.nil_append, lexFrom_plain hc]
    exact expressionsFrom_cons _ (expressionsFrom_unbraced (unbraced_inert h))
  | case7 c d cs hc ih =>
    rw [List.cons_append, lexFrom_plain hc]
    exact expressionsFrom_cons _ (ih _)
  | case8 c d cs hc e he ih =>
    rw [List.cons_append, List.cons_append, lexFrom, if_neg hc, he]
    exact expressionsFrom_cons _ (ih _)
  | case9 c cs hc he ih =>
    rw [List.cons_append, List.cons_append, lexFrom, if_neg hc, he]
    exact ih _
  | case10 c d cs hc he hd ih =>
    rw [List.cons_append, List.cons_append, lexFrom, if_neg hc, he]
    dsimp only
    rw [if_neg hd]
    exact expressionsFrom_cons _ (ih _)

/-- Behind a text, inert characters leave the expressions in it as they are, and bring no others. -/
theorem expressions_append_inert {before : String} (htext : text.toList = before.toList ++ tail) (h : ∀ c ∈ tail, isInert c = true) :
    (read text).map (·.expressions) = (read before).map (·.expressions) := by
  show expressionsFrom text 0 (lex text.toList) = expressionsFrom before 0 (lex before.toList)
  rw [htext]
  exact expressionsFrom_append_inert h none _ 0

end MacroString

/-! ## Lengths -/

namespace Cidr

open Text

theorem isInert_of_inLengths {c : Char} (h : inLengths c = true) : MacroString.isInert c = true := by
  have hne : ∀ s, inLengths s = false → c ≠ s := by
    intro s hs he
    rw [he, hs] at h
    cases h
  have hopen : c ≠ '\x7b' := hne _ (by decide)
  have hclose : c ≠ '\x7d' := hne _ (by decide)
  have hescape : c ≠ '%' ∧ c ≠ '_' ∧ c ≠ '-' := ⟨hne _ (by decide), hne _ (by decide), hne _ (by decide)⟩
  simp [MacroString.isInert, MacroString.Escape.ofChar?, hopen, hclose, hescape]

end Cidr

/-- What is cut off a value is inert. -/
theorem Mechanism.exists_inert_behind (k : Mechanism.Kind) {v : String} (h : '\n' ∉ v.toList) :
    ∃ tail, v.toList = ((target? k (some v)).getD "").toList ++ tail ∧ ∀ c ∈ tail, MacroString.isInert c = true := by
  have hsplit : ∃ tail, v.toList = (((Cidr.split (some v)).domain).getD "").toList ++ tail ∧
      ∀ c ∈ tail, MacroString.isInert c = true := by
    have hin := Cidr.inLengths_of_lengths? (Cidr.splitChars_lengths v.toList)
    refine ⟨_, ?_, fun c hc => Cidr.isInert_of_inLengths (hin c hc)⟩
    rw [Cidr.split, Cidr.body_of_noBlank h]
    show _ = ((Cidr.nonempty (Cidr.splitChars v.toList).1).getD "").toList ++ _
    rw [Cidr.toList_nonempty]
    exact (Cidr.splitChars_join v.toList).symm
  cases k with
  | a => exact hsplit
  | mx => exact hsplit
  | _ => exact ⟨[], (List.append_nil _).symm, by simp⟩

/-! ## Mechanisms -/

namespace Record

open MacroString

variable {m : Mechanism}

theorem expressions_of_macrosOf {text : String} {a : Analysis} (h : macrosOf text = .ok a) :
    (MacroString.read text).map (·.expressions) = .ok a.expressions := by
  unfold macrosOf at h
  split at h
  · unfold analyze at h
    cases hread : MacroString.read text with
    | error e => rw [hread] at h; cases h
    | ok r =>
      rw [hread] at h
      cases h
      rfl
  · rename_i hpercent
    cases h
    have hplain : '%' ∉ text.toList := by simpa using hpercent
    obtain ⟨hread, hnone⟩ := Advice.expressions_plain hplain
    rw [hread]
    exact congrArg Except.ok hnone

theorem macros_of_readMechanism [Packages] {token : String} {w : Token.Written} {faults : List Fault} {ws : List Warning}
    (h : readMechanism token w = .ok (.mechanism m faults ws)) :
    ∃ a, macrosOf ((Mechanism.target? m.kind m.value).getD "") = .ok a ∧ m.macroCount = a.expressions.length ∧
      m.hasMacros = opensExpression (m.value.getD "").toList := by
  unfold readMechanism at h
  dsimp only at h
  split at h
  · cases h
  · cases h
  · split at h
    · cases h
    · cases h
    · rename_i a lookups hmacros hlookups
      cases h
      exact ⟨a, hmacros, rfl, rfl⟩

theorem IsRead.macros [Packages] (h : IsRead m) :
    ∃ a, macrosOf ((Mechanism.target? m.kind m.value).getD "") = .ok a ∧ m.macroCount = a.expressions.length ∧
      m.hasMacros = opensExpression (m.value.getD "").toList := by
  obtain ⟨_, _, _, _, _, hread⟩ := h
  obtain ⟨w, _, hmechanism⟩ := readFrom_of_mechanism hread
  exact macros_of_readMechanism hmechanism

theorem IsRead.macroCount_none [Packages] (h : IsRead m) (hv : m.value = none) : m.macroCount = 0 := by
  obtain ⟨a, hmacros, hcount, _⟩ := h.macros
  have htarget : (Mechanism.target? m.kind m.value).getD "" = "" := by
    rw [hv]
    cases m.kind <;> rfl
  rw [htarget] at hmacros
  cases hmacros
  exact hcount

/-- The macros of a mechanism are those of its whole value. -/
theorem IsRead.macroCount [Packages] (h : IsRead m) {v : String} (hv : m.value = some v) :
    ∃ r, MacroString.read v = .ok r ∧ m.macroCount = r.expressions.length := by
  obtain ⟨a, hmacros, hcount, _⟩ := h.macros
  have hline : '\n' ∉ v.toList := by
    intro hmem
    have hblank := (h.writable.value v hv _ hmem).1
    revert hblank
    decide
  obtain ⟨tail, htail, hinert⟩ := Mechanism.exists_inert_behind m.kind hline
  rw [hv] at hmacros
  have hwhole := (expressions_append_inert htail hinert).trans (expressions_of_macrosOf hmacros)
  cases hread : MacroString.read v with
  | error e => rw [hread] at hwhole; cases hwhole
  | ok r =>
    rw [hread] at hwhole
    have hsame : r.expressions = a.expressions := Except.ok.inj hwhole
    exact ⟨r, rfl, by rw [hcount, hsame]⟩

theorem opensExpression_tail {c : Char} {cs : List Char} (h : opensExpression (c :: cs) = false) : opensExpression cs = false := by
  unfold opensExpression at h
  split at h
  · rename_i he
    obtain ⟨-, rfl⟩ := List.cons.inj he
    exact (Bool.or_eq_false_iff.mp h).2
  · rename_i he
    obtain ⟨-, rfl⟩ := List.cons.inj he
    exact h
  · rename_i he
    cases he

/-- Where nothing looks like the beginning of an expression, there is none. -/
theorem unbraced_of_opensExpression {state : Option (List Char)} {cs : List Char} (hstate : state = none)
    (h : opensExpression cs = false) : ∀ l ∈ lexFrom state cs, l.isBraced = false := by
  fun_induction lexFrom state cs with
  | case1 => cases hstate
  | case2 => cases hstate
  | case3 => cases hstate
  | case4 => simp
  | case5 => exact List.forall_mem_singleton.mpr rfl
  | case6 => exact List.forall_mem_singleton.mpr rfl
  | case7 c d cs hc ih => exact List.forall_mem_cons.mpr ⟨rfl, ih rfl (opensExpression_tail h)⟩
  | case8 c d cs hc e he ih => exact List.forall_mem_cons.mpr ⟨rfl, ih rfl (opensExpression_tail (opensExpression_tail h))⟩
  | case9 c cs hc he ih =>
    rw [show c = '%' by simpa using hc] at h
    cases h
  | case10 c d cs hc he hd ih => exact List.forall_mem_cons.mpr ⟨rfl, ih rfl (opensExpression_tail h)⟩

theorem hasMacros_of_expressions {v : String} {r : Reading} (h : MacroString.read v = .ok r) (hpos : 0 < r.expressions.length) :
    opensExpression v.toList = true := by
  by_contra hopens
  have hunbraced : ∀ l ∈ lex v.toList, l.isBraced = false := unbraced_of_opensExpression rfl (by simpa using hopens)
  have hread : expressionsFrom v 0 (lex v.toList) = .ok r.expressions := congrArg (Except.map _) h
  rw [expressionsFrom_unbraced hunbraced] at hread
  rw [← Except.ok.inj hread] at hpos
  exact absurd hpos (Nat.lt_irrefl _)

theorem IsRead.hasMacros [Packages] (h : IsRead m) (hpos : 0 < m.macroCount) : m.hasMacros = true := by
  obtain ⟨_, _, _, hmark⟩ := h.macros
  cases hv : m.value with
  | none =>
    rw [h.macroCount_none hv] at hpos
    exact absurd hpos (Int.lt_irrefl _)
  | some v =>
    obtain ⟨r, hread, hcount⟩ := h.macroCount hv
    rw [hmark, hv]
    exact hasMacros_of_expressions hread (by omega)

end Record

/-! ## Sums -/

namespace Advice

open Sequence (tally total)

/-- The report on a mechanism, but for the sample. -/
def reported? (m : Mechanism) : Option TermReport :=
  (m.value.map fun v => (false, m.kind.name, m.text, v)).bind outline?

/-- The reports on mechanisms alone. -/
def Summary.mechanismTerms (s : Summary) : List TermReport := s.terms.filter (!·.isModifier)

theorem isModifier_of_outline? {x : Bool × String × String × String} {t : TermReport} (h : outline? x = some t) :
    t.isModifier = x.1 := by
  obtain ⟨isModifier, kind, text, v⟩ := x
  simp only [outline?] at h
  repeat' split at h
  all_goals cases h
  rfl

theorem mechanismTerms_unsampled {ctx : MacroString.Context} {r : Record} {s : Summary} (h : assessMacros ctx r = .ok s) :
    s.mechanismTerms.map TermReport.unsampled = r.mechanisms.filterMap reported? := by
  have hmechanisms : ∀ t ∈ r.mechanisms.filterMap reported?, (!t.isModifier) = true := by
    intro t ht
    obtain ⟨m, _, hm⟩ := List.mem_filterMap.mp ht
    obtain ⟨x, hx, hxt⟩ := Option.bind_eq_some_iff.mp hm
    obtain ⟨v, _, rfl⟩ := Option.map_eq_some_iff.mp hx
    rw [isModifier_of_outline? hxt]
    rfl
  have hmodifiers : ∀ t ∈ (r.modifiers.map fun m => (true, m.kind.name, m.text, m.value)).filterMap outline?,
      ¬(!t.isModifier) = true := by
    intro t ht
    obtain ⟨x, hx, hxt⟩ := List.mem_filterMap.mp ht
    obtain ⟨m, _, rfl⟩ := List.mem_map.mp hx
    rw [isModifier_of_outline? hxt]
    simp
  have houtlines : (valuedTerms r).filterMap outline?
      = r.mechanisms.filterMap reported? ++ (r.modifiers.map fun m => (true, m.kind.name, m.text, m.value)).filterMap outline? := by
    rw [valuedTerms, List.filterMap_append, List.filterMap_filterMap]
    rfl
  have hterms := congrArg (List.filter (!·.isModifier)) ((terms_unsampled h).trans houtlines)
  rw [List.filter_append, List.filter_eq_self.mpr hmechanisms, List.filter_eq_nil_iff.mpr hmodifiers, List.append_nil,
    List.filter_map] at hterms
  exact hterms

theorem macroCount_eq_reported [Packages] {m : Mechanism} (h : Record.IsRead m) :
    m.macroCount = tally (·.expressions.length) (reported? m).toList := by
  cases hv : m.value with
  | none =>
    rw [h.macroCount_none hv, reported?, hv]
    rfl
  | some v =>
    obtain ⟨reading, hread, hcount⟩ := h.macroCount hv
    rw [hcount, reported?, hv]
    simp only [Option.map_some, Option.bind_some, outline?, hread]
    split
    · rename_i hnone
      rw [List.isEmpty_iff.mp hnone]
      rfl
    · rfl

theorem total_macroCount [Packages] {ms : List Mechanism} (h : ∀ m ∈ ms, Record.IsRead m) :
    total (·.macroCount) ms = tally (·.expressions.length) (ms.filterMap reported?) := by
  induction ms with
  | nil => rfl
  | cons m ms ih =>
    rw [total, macroCount_eq_reported (h m List.mem_cons_self), ih fun m' hm' => h m' (List.mem_cons_of_mem _ hm')]
    cases hm : reported? m with
    | none => rw [List.filterMap_cons_none hm]; simp [tally]
    | some t => rw [List.filterMap_cons_some hm]; simp [tally]

/-- The number of macros of a mechanism that was read is that of its whole value, and it has none without a value. It is marked
if it has any. All mechanisms together have as many as are reported for them when the record is assessed. -/
theorem macro_counts_agree [Packages] {record : String} {r : Record} {ctx : MacroString.Context} {s : Summary}
    (h : Record.read record = .ok r) (hs : assessMacros ctx r = .ok s) :
    (∀ m ∈ r.mechanisms, (m.value = none → m.macroCount = 0) ∧
      (∀ v, m.value = some v → ∃ a, MacroString.analyze v = .ok a ∧ m.macroCount = a.expressions.length) ∧
      (0 < m.macroCount → m.hasMacros = true)) ∧
    total (·.macroCount) r.mechanisms = tally (·.expressions.length) s.mechanismTerms := by
  have hread := Record.isRead_of_read h
  constructor
  · intro m hm
    refine ⟨(hread m hm).macroCount_none, ?_, (hread m hm).hasMacros⟩
    intro v hv
    obtain ⟨reading, hreading, hcount⟩ := (hread m hm).macroCount hv
    exact ⟨reading.analysis, congrArg (Except.map _) hreading, hcount⟩
  · rw [total_macroCount hread, ← mechanismTerms_unsampled hs, tally_unsampled fun _ => rfl]

/-- The length of the first mechanism is cut out of a brace that is never closed, that of the second off a percent sign. -/
theorem macro_counts_agree_cut :
    ∃ r s, Record.read "v=spf1 a:%\x7bd/24 mx:%\x7bl\x7d.%/24 include:%\x7bi\x7d.%\x7bd\x7d/24 -all redirect=%\x7bd\x7d" = .ok r ∧
      assessMacros (.sample 0) r = .ok s ∧
      r.mechanisms.map (fun m => (m.value, m.macroCount, m.hasMacros))
        = [(some "%\x7bd/24", 0, true), (some "%\x7bl\x7d.%/24", 1, true), (some "%\x7bi\x7d.%\x7bd\x7d/24", 2, true), (none, 0, false)] ∧
      (∀ m ∈ r.mechanisms, (m.value = none → m.macroCount = 0) ∧
        (∀ v, m.value = some v → ∃ a, MacroString.analyze v = .ok a ∧ m.macroCount = a.expressions.length) ∧
        (0 < m.macroCount → m.hasMacros = true)) ∧
      total (·.macroCount) r.mechanisms = tally (·.expressions.length) s.mechanismTerms := by
  obtain ⟨r, s, h, hs, hvalues⟩ := exists_assessed (.sample 0)
    "v=spf1 a:%\x7bd/24 mx:%\x7bl\x7d.%/24 include:%\x7bi\x7d.%\x7bd\x7d/24 -all redirect=%\x7bd\x7d"
    (fun r _ => r.mechanisms.map fun m => (m.value, m.macroCount, m.hasMacros))
    (a := [(some "%\x7bd/24", 0, true), (some "%\x7bl\x7d.%/24", 1, true), (some "%\x7bi\x7d.%\x7bd\x7d/24", 2, true), (none, 0, false)])
    (by decide +kernel)
  exact ⟨r, s, h, hs, hvalues, macro_counts_agree h hs⟩

end Advice

end SenderPolicy
