/-
  SenderPolicy.Proofs.MacroString.Failures — when trying out a macro-string gives no answer.

  A fault of the text, a missing field and an address that is none are answered with an error of their own. In a
  context whose fields have the right kinds three things are not: digits of an expression that spell no number,
  the nibbles of a sender address with a scope id, and a time with more digits than are ever written.
  - `unanswered_field`: which letters have no answer in a context.
  - `unanswered_expandPieces`: the first of them ends the expansion, unless another error comes before it.
  - `answered_iff`: all of this of a text, and what the answer says if there is one.
-/

import SenderPolicy.MacroString.Expansion
import SenderPolicy.Proofs.Address.Spelling
import SenderPolicy.Proofs.MacroString.Braces

namespace SenderPolicy

/-- No text with a percent sign is IPv6. -/
theorem Address.readV6_percent {cs : List Char} (h : '%' ∈ cs) : ∃ e, Address.readV6 cs = .error e := by
  cases hread : Address.readV6 cs with
  | error e => exact ⟨e, rfl⟩
  | ok n => exact absurd h (Address.not_mem_spelledV6 (Address.readV6_iff.mp hread) (by decide) (by decide) (by decide))

namespace MacroString

/-- An error that is no answer to a macro-string or an incomplete context. -/
def Unanswered {α : Type} (x : Except ExpansionError α) : Prop := ∃ e, x = .error e ∧ e.isExpected = false

section Unanswered

variable {α β : Type} {x : Except ExpansionError α}

theorem unanswered_ok (a : α) : ¬ Unanswered (.ok a : Except ExpansionError α) := by
  rintro ⟨e, he, -⟩
  cases he

theorem unanswered_error {e : ExpansionError} : Unanswered (.error e : Except ExpansionError α) ↔ e.isExpected = false := by
  simp [Unanswered]

theorem unanswered_bind {f : α → Except ExpansionError β} :
    Unanswered (x.bind f) ↔ Unanswered x ∨ ∃ a, x = .ok a ∧ Unanswered (f a) := by
  cases x <;> simp [Unanswered, Except.bind]

theorem unanswered_map {f : α → β} : Unanswered (x.map f) ↔ Unanswered x := by
  cases x <;> simp [Unanswered, Except.map]

theorem answered_of_not (h : ¬ Unanswered x) : (∃ a, x = .ok a) ∨ ∃ e, x = .error e ∧ e.isExpected = true := by
  cases x with
  | ok a => exact .inl ⟨a, rfl⟩
  | error e => exact .inr ⟨e, rfl, by simpa [unanswered_error] using h⟩

end Unanswered

/-! ## Fields -/

/-- Whether the field of a letter cannot be written: the nibbles of an address with a scope id, or a time that has
too many digits. -/
def Context.Breaks (ctx : Context) : Letter → Prop
  | .ip => ∃ s a, ctx.get .senderIp = .str s ∧ Address.ofText? s = some a ∧ a.scope.isSome = true
  | .timestamp => ∃ i : Int, ctx.get .timestamp = .int i ∧ Text.Numeral.maxDigits < (Nat.toDigits 10 i.natAbs).length
  | _ => False

variable {ctx : Context}

theorem unanswered_require (l : Letter) : ¬ Unanswered (ctx.require l) := by
  unfold Context.require
  split
  · simp [unanswered_error, ExpansionError.isExpected]
  · simp [unanswered_error, ExpansionError.isExpected]
  · exact unanswered_ok _

theorem require_ok {l : Letter} {v : Json} (h : ctx.require l = .ok v) : ctx.get l.field = v ∧ v ≠ .null := by
  unfold Context.require at h
  split at h
  · cases h
  · cases h
  · rename_i hnull _
    cases h
    exact ⟨rfl, hnull⟩

/-- The fields that are there are texts, and the time a whole number. -/
theorem Context.Typed.require (hctx : ctx.Typed) {l : Letter} {v : Json} (h : ctx.require l = .ok v) :
    (l ≠ .timestamp ∧ ∃ s, v = .str s) ∨ (l = .timestamp ∧ ∃ i, v = .int i) := by
  obtain ⟨rfl, hnull⟩ := require_ok h
  have hfield : l.field = .timestamp ↔ l = .timestamp := by cases l <;> simp [Letter.field]
  rcases hctx l.field with hv | ⟨hl, s, hv⟩ | ⟨hl, i, hv⟩
  · exact absurd hv hnull
  · exact .inl ⟨fun he => hl (hfield.mpr he), s, hv⟩
  · exact .inr ⟨hfield.mp hl, i, hv⟩

theorem Context.Typed.require_text (hctx : ctx.Typed) {l : Letter} (hl : l ≠ .timestamp) {v : Json} (h : ctx.require l = .ok v) :
    ∃ s, v = .str s := by
  rcases hctx.require h with ⟨-, hs⟩ | ⟨he, -⟩
  · exact hs
  · exact absurd he hl

theorem unanswered_sender (hctx : ctx.Typed) {l : Letter} (hl : l ≠ .timestamp) : ¬ Unanswered (ctx.sender l) := by
  intro h
  rcases unanswered_bind.mp h with h | ⟨v, hv, h⟩
  · exact unanswered_require l h
  · obtain ⟨s, rfl⟩ := hctx.require_text hl hv
    exact unanswered_ok s h

theorem unanswered_address (l : Letter) : ¬ Unanswered (ctx.address l) := by
  intro h
  rcases unanswered_bind.mp h with h | ⟨v, -, h⟩
  · exact unanswered_require l h
  · cases ha : Context.address? v with
    | some a =>
      rw [ha] at h
      exact unanswered_ok a h
    | none =>
      rw [ha] at h
      exact absurd (unanswered_error.mp h) (by simp [ExpansionError.isExpected])

theorem require_ip (hctx : ctx.Typed) {v : Json} : ctx.require .ip = .ok v ↔ ∃ s, v = .str s ∧ ctx.get .senderIp = .str s ∧ s ≠ "" := by
  constructor
  · intro h
    obtain ⟨s, rfl⟩ := hctx.require_text (by decide) h
    refine ⟨s, rfl, (require_ok h).1, ?_⟩
    rintro rfl
    rw [Context.require, (require_ok h).1] at h
    cases h
  · rintro ⟨s, rfl, hs, hne⟩
    unfold Context.require
    rw [show Letter.ip.field = .senderIp from rfl, hs]
    split
    · rename_i he; cases he
    · rename_i he; cases he; exact absurd rfl hne
    · rfl

theorem address_ip (hctx : ctx.Typed) {a : Address} :
    ctx.address .ip = .ok a ↔ ∃ s, ctx.get .senderIp = .str s ∧ Address.ofText? s = some a := by
  have hread : ∀ s, ctx.require .ip = .ok (.str s) → (ctx.address .ip = .ok a ↔ Address.ofText? s = some a) := by
    intro s hs
    have htext : Context.address? (.str s) = Address.ofText? s := rfl
    unfold Context.address
    rw [hs, ← htext]
    cases ha : Context.address? (.str s) <;> simp [bind, Except.bind, ha]
  constructor
  · intro h
    cases hv : ctx.require .ip with
    | error e => rw [Context.address, hv] at h; cases h
    | ok v =>
      obtain ⟨s, rfl, hs, -⟩ := (require_ip hctx).mp hv
      exact ⟨s, hs, (hread s hv).mp h⟩
  · rintro ⟨s, hs, ha⟩
    have hne : s ≠ "" := by
      rintro rfl
      have hnone : Address.ofText? "" = none := by decide
      rw [hnone] at ha
      cases ha
    exact (hread s ((require_ip hctx).mpr ⟨s, rfl, hs, hne⟩)).mpr ha

/-- The nibbles of an address with a scope id are not written: its text is read once more, with the scope id. -/
theorem unanswered_addressLabels {a : Address} (h : ScopeFits a.family a.scope) :
    Unanswered (addressLabels a) ↔ a.scope.isSome = true := by
  unfold addressLabels
  cases hf : a.family with
  | v4 =>
    rw [hf] at h
    have hscope : a.scope.isSome ≠ true := by
      intro hs
      obtain ⟨s, hs⟩ := Option.isSome_iff_exists.mp hs
      exact absurd (h s hs).1 (by decide)
    exact iff_of_false (unanswered_ok _) hscope
  | v6 =>
    dsimp only
    cases hs : a.scope with
    | none => exact iff_of_false (unanswered_ok _) (by simp)
    | some scope =>
      have hpercent : '%' ∈ a.text.toList := by
        rw [Address.text, String.toList_ofList, hf, hs]
        exact List.mem_append_right _ List.mem_cons_self
      obtain ⟨e, he⟩ := Address.readV6_percent hpercent
      dsimp only
      rw [he]
      exact iff_of_true (unanswered_error.mpr rfl) rfl

theorem unanswered_writeInt {i : Int} :
    Unanswered (match Text.writeInt i with | .ok s => .ok (.str s) | .error e => .error (.numeral e) : Except ExpansionError Json)
      ↔ Text.Numeral.maxDigits < (Nat.toDigits 10 i.natAbs).length := by
  unfold Text.writeInt
  by_cases h : (Nat.toDigits 10 i.natAbs).length > Text.Numeral.maxDigits
  · rw [if_pos h]
    exact iff_of_true (unanswered_error.mpr rfl) h
  · rw [if_neg h]
    exact iff_of_false (unanswered_ok _) h

theorem unanswered_field (hctx : ctx.Typed) (l : Letter) : Unanswered (ctx.field l) ↔ ctx.Breaks l := by
  have hsender : ∀ {l : Letter} {β : Type} (f : String → Except ExpansionError β), l ≠ .timestamp → (∀ s, ¬ Unanswered (f s)) →
      ¬ Unanswered ((ctx.sender l).bind f) := by
    intro l β f hl hf h
    rcases unanswered_bind.mp h with h | ⟨s, -, h⟩
    · exact unanswered_sender hctx hl h
    · exact hf s h
  have haddress : ∀ {l : Letter} {β : Type} (f : Address → Except ExpansionError β), (∀ a, ¬ Unanswered (f a)) →
      ¬ Unanswered ((ctx.address l).bind f) := by
    intro l β f hf h
    rcases unanswered_bind.mp h with h | ⟨a, -, h⟩
    · exact unanswered_address l h
    · exact hf a h
  cases l with
  | sender => exact iff_of_false (fun h => unanswered_sender hctx (by decide) (unanswered_map.mp h)) id
  | localPart => exact iff_of_false (hsender _ (by decide) fun s => unanswered_ok _) id
  | senderDomain =>
    refine iff_of_false (hsender _ (by decide) fun s => ?_) id
    dsimp only
    split
    · simp [unanswered_error, ExpansionError.isExpected]
    · exact unanswered_ok _
  | version => exact iff_of_false (haddress _ fun a => unanswered_ok _) id
  | clientIp => exact iff_of_false (haddress _ fun a => unanswered_ok _) id
  | domain => exact iff_of_false (unanswered_require _) id
  | validated => exact iff_of_false (unanswered_require _) id
  | helo => exact iff_of_false (unanswered_require _) id
  | receiver => exact iff_of_false (unanswered_require _) id
  | ip =>
    show Unanswered ((ctx.address .ip).bind fun a => (addressLabels a).map Json.str) ↔ _
    rw [unanswered_bind, or_iff_right (unanswered_address _)]
    constructor
    · rintro ⟨a, ha, hlabels⟩
      obtain ⟨s, hs, hread⟩ := (address_ip hctx).mp ha
      exact ⟨s, a, hs, hread, (unanswered_addressLabels (Address.ofText?_fits hread)).mp (unanswered_map.mp hlabels)⟩
    · rintro ⟨s, a, hs, hread, hscope⟩
      exact ⟨a, (address_ip hctx).mpr ⟨s, hs, hread⟩,
        unanswered_map.mpr ((unanswered_addressLabels (Address.ofText?_fits hread)).mpr hscope)⟩
  | timestamp =>
    show Unanswered ((ctx.require .timestamp).bind fun v => (Context.seconds v).bind _) ↔ _
    rw [unanswered_bind, or_iff_right (unanswered_require _)]
    constructor
    · rintro ⟨v, hv, h⟩
      rcases hctx.require hv with ⟨hl, -⟩ | ⟨-, i, rfl⟩
      · exact absurd rfl hl
      · exact ⟨i, (require_ok hv).1, unanswered_writeInt.mp h⟩
    · rintro ⟨i, hi, hlong⟩
      have hrequire : ctx.require .timestamp = .ok (.int i) := by
        unfold Context.require
        rw [show Letter.timestamp.field = .timestamp from rfl, hi]
        rfl
      exact ⟨_, hrequire, unanswered_writeInt.mpr hlong⟩

/-- A field that is there is written as a text. -/
theorem field_text (hctx : ctx.Typed) {l : Letter} {v : Json} (h : ctx.field l = .ok v) : ∃ s, v = .str s := by
  cases l with
  | sender =>
    obtain ⟨s, -, rfl⟩ := map_eq_ok h
    exact ⟨s, rfl⟩
  | localPart =>
    obtain ⟨s, -, h⟩ := bind_eq_ok h
    cases h
    exact ⟨_, rfl⟩
  | senderDomain =>
    obtain ⟨s, -, h⟩ := bind_eq_ok h
    dsimp only at h
    split at h
    · cases h
    · cases h
      exact ⟨_, rfl⟩
  | ip =>
    obtain ⟨a, -, h⟩ := bind_eq_ok h
    obtain ⟨s, -, rfl⟩ := map_eq_ok h
    exact ⟨s, rfl⟩
  | version =>
    obtain ⟨a, -, h⟩ := bind_eq_ok h
    cases h
    exact ⟨_, rfl⟩
  | clientIp =>
    obtain ⟨a, -, h⟩ := bind_eq_ok h
    cases h
    exact ⟨_, rfl⟩
  | timestamp =>
    obtain ⟨t, -, h⟩ := bind_eq_ok h
    obtain ⟨i, -, h⟩ := bind_eq_ok h
    split at h
    · cases h
      exact ⟨_, rfl⟩
    · cases h
  | _ => exact hctx.require_text (by decide) h

/-! ## Pieces -/

/-- Whether each expression among the pieces has delimiters. -/
def Delimited (ps : List Piece) : Prop := ∀ e, .expression e ∈ ps → e.transformers.delimiters ≠ []

theorem readFrom_delimited {text : String} {position : Nat} {ls : List Lexeme} {r : Reading}
    (h : readFrom text position ls = .ok r) : Delimited r.pieces := by
  intro e he
  have hmem : e ∈ r.expressions := List.mem_filterMap.mpr ⟨_, he, rfl⟩
  obtain ⟨body, -, -, hbody⟩ := exists_body_from h e hmem
  obtain ⟨c, rest, -, hmeans⟩ := readBody_iff.mp hbody
  exact hmeans.delimiters_ne_nil

theorem unanswered_expression (hctx : ctx.Typed) {e : Expression} (h : e.transformers.delimiters ≠ []) :
    Unanswered (e.expand ctx) ↔ ctx.Breaks e.letter := by
  show Unanswered ((ctx.field e.letter).bind e.transformers.apply) ↔ _
  rw [unanswered_bind, unanswered_field hctx, or_iff_left]
  rintro ⟨v, hv, hunanswered⟩
  obtain ⟨s, rfl⟩ := field_text hctx hv
  rw [Transformers.apply, if_neg (by simpa using h)] at hunanswered
  exact unanswered_ok _ hunanswered

/-- An expansion has no answer if it comes to an expression that has none. -/
theorem unanswered_expandPieces (hctx : ctx.Typed) {ps : List Piece} (h : Delimited ps) :
    Unanswered (expandPieces ctx ps) ↔
      ∃ before e after s, ps = before ++ .expression e :: after ∧ expandPieces ctx before = .ok s ∧ ctx.Breaks e.letter := by
  induction ps with
  | nil =>
    refine iff_of_false (unanswered_ok _) ?_
    rintro ⟨before, e, after, s, hsplit, -⟩
    simp at hsplit
  | cons p ps ih =>
    have hrest := ih fun e he => h e (List.mem_cons_of_mem _ he)
    have hcons : ∀ qs, expandPieces ctx (p :: qs) = (p.expand ctx).bind fun s => (expandPieces ctx qs).bind fun rest => .ok (s ++ rest) :=
      fun qs => rfl
    rw [hcons, unanswered_bind]
    constructor
    · rintro (hp | ⟨s, hs, hunanswered⟩)
      · cases p with
        | plain c => exact absurd hp (unanswered_ok _)
        | escape e => exact absurd hp (unanswered_ok _)
        | expression e => exact ⟨[], e, ps, "", rfl, rfl, (unanswered_expression hctx (h e List.mem_cons_self)).mp hp⟩
      · rcases unanswered_bind.mp hunanswered with hunanswered | ⟨t, -, hunanswered⟩
        · obtain ⟨before, e, after, t, rfl, ht, hbreaks⟩ := hrest.mp hunanswered
          refine ⟨p :: before, e, after, s ++ t, rfl, ?_, hbreaks⟩
          rw [hcons, hs, ht]
          rfl
        · exact absurd hunanswered (unanswered_ok _)
    · rintro ⟨before, e, after, s, hsplit, hs, hbreaks⟩
      cases before with
      | nil =>
        obtain ⟨rfl, rfl⟩ := List.cons.inj hsplit
        exact .inl ((unanswered_expression hctx (h e List.mem_cons_self)).mpr hbreaks)
      | cons q before =>
        obtain ⟨rfl, rfl⟩ := List.cons.inj hsplit
        rw [hcons] at hs
        obtain ⟨t, ht, hs⟩ := bind_eq_ok hs
        obtain ⟨u, hu, -⟩ := bind_eq_ok hs
        exact .inr ⟨t, ht, unanswered_bind.mpr (.inl (hrest.mpr ⟨before, e, after, u, rfl, hu, hbreaks⟩))⟩

/-! ## Texts -/

/-- The text is not read to its end, or is read without fault and comes to an expression that has no answer. -/
inductive Ends (ctx : Context) (text : String) : Prop where
  | numeral : halts text.toList = true → Ends ctx text
  | field {r : Reading} {before after : List Piece} {e : Expression} {s : String} : read text = .ok r → r.faults = [] →
      r.pieces = before ++ .expression e :: after → expandPieces ctx before = .ok s → ctx.Breaks e.letter → Ends ctx text

theorem ends_of_error {text : String} {e : Text.NumeralError} (h : read text = .error e) : Ends ctx text := by
  have hok := isOk_read text
  rw [h] at hok
  exact .numeral (by simpa [Except.isOk, Except.toBool] using hok.symm)

/-- What ends a text that is read. -/
theorem ends_iff (hctx : ctx.Typed) {text : String} {r : Reading} (h : read text = .ok r) :
    Ends ctx text ↔ r.faults = [] ∧ Unanswered (expandPieces ctx r.pieces) := by
  rw [unanswered_expandPieces hctx (readFrom_delimited h)]
  constructor
  · rintro (hhalts | ⟨hread, hfaults, hsplit, hs, hbreaks⟩)
    · have hok := isOk_read text
      rw [h, hhalts] at hok
      cases hok
    · cases h.symm.trans hread
      exact ⟨hfaults, _, _, _, _, hsplit, hs, hbreaks⟩
  · rintro ⟨hfaults, before, e, after, s, hsplit, hs, hbreaks⟩
    exact .field h hfaults hsplit hs hbreaks

theorem unanswered_expandText (hctx : ctx.Typed) (text : String) : Unanswered (expandText ctx text) ↔ Ends ctx text := by
  show Unanswered ((faultless text).bind fun r => expandPieces ctx r.pieces) ↔ _
  unfold faultless
  cases h : read text with
  | error e => exact iff_of_true ⟨_, rfl, rfl⟩ (ends_of_error h)
  | ok r =>
    rw [ends_iff hctx h]
    dsimp only
    cases r.faults with
    | nil => simp [Except.bind]
    | cons f fs => exact iff_of_false (by simp [Unanswered, Except.bind, ExpansionError.isExpected]) (by simp)

theorem exists_tryOut_iff (hctx : ctx.Typed) (text : String) : (∃ t, tryOut ctx text = .ok t) ↔ ¬ Ends ctx text := by
  unfold tryOut
  cases h : read text with
  | error e => exact iff_of_false (by simp) (not_not_intro (ends_of_error h))
  | ok r =>
    rw [ends_iff hctx h]
    dsimp only
    cases r.faults with
    | cons f fs => exact iff_of_true ⟨_, rfl⟩ (by simp)
    | nil =>
      cases hpieces : expandPieces ctx r.pieces with
      | ok s => exact iff_of_true ⟨_, rfl⟩ (by simp [unanswered_ok])
      | error e =>
        cases he : e.isExpected with
        | true => exact iff_of_true ⟨⟨none, false, [e], Risk.highest (r.expressions.map (·.risk))⟩, by simp [he]⟩ (by simp [unanswered_error, he])
        | false => exact iff_of_false (by simp [he]) (by simp [unanswered_error, he])

/-- A result has an expansion or errors, and is valid if it has no errors and the text an expression. -/
theorem tryOut_result {text : String} {t : Trial} (h : tryOut ctx text = .ok t) :
    (t.expanded = none ↔ t.errors ≠ []) ∧
      (t.isValid = true ↔ t.errors = [] ∧ ∃ a, analyze text = .ok a ∧ a.expressions ≠ []) := by
  unfold tryOut at h
  cases hread : read text with
  | error e => rw [hread] at h; cases h
  | ok r =>
    have hanalyze : analyze text = .ok r.analysis := by rw [analyze, hread, Except.map]
    rw [hread] at h
    dsimp only at h
    split at h
    · split at h
      · cases h
        simp [hanalyze, Reading.analysis]
      · split at h
        · cases h
          simp
        · cases h
    · rename_i hfaults
      cases h
      have hsome : r.faults.map ExpansionError.malformed ≠ [] := by simpa using hfaults
      simp [hsome]

/-- In a context of the right kinds, a text expands or is answered with an error, unless it ends; it is tried out with
a result exactly then. A result has an expansion or errors, and is valid if it has no errors and the text an
expression. -/
theorem answered_iff (hctx : ctx.Typed) (text : String) :
    (((∃ s, expandText ctx text = .ok s) ∨ ∃ e, expandText ctx text = .error e ∧ e.isExpected = true) ↔ ¬ Ends ctx text) ∧
    ((∃ t, tryOut ctx text = .ok t) ↔ ¬ Ends ctx text) ∧
    ∀ t, tryOut ctx text = .ok t → (t.expanded = none ↔ t.errors ≠ []) ∧
      (t.isValid = true ↔ t.errors = [] ∧ ∃ a, analyze text = .ok a ∧ a.expressions ≠ []) := by
  refine ⟨⟨?_, fun h => ?_⟩, exists_tryOut_iff hctx text, fun t => tryOut_result⟩
  · rw [← unanswered_expandText hctx]
    rintro (⟨s, hs⟩ | ⟨e, he, hexpected⟩) hunanswered
    · rw [hs] at hunanswered
      exact unanswered_ok _ hunanswered
    · rw [he, unanswered_error, hexpected] at hunanswered
      cases hunanswered
  · rw [← unanswered_expandText hctx] at h
    exact answered_of_not h

/-- A message from a link-local address, with nothing else known of it. -/
def linkLocal : Context where
  get
    | .senderIp => .str "fe80::1%eth0"
    | _ => .null

theorem linkLocal_typed : linkLocal.Typed := by
  intro f
  cases f <;> simp [linkLocal]

/-- Of a link-local address the family and the bytes are given, the nibbles are not. -/
theorem answered_iff_linkLocal : linkLocal.Typed ∧ ¬ Ends linkLocal "%\x7bv\x7d.%\x7bc\x7d" ∧ Ends linkLocal "%\x7bv\x7d.%\x7bi\x7d" := by
  refine ⟨linkLocal_typed, ?_, ?_⟩
  · have hexpands : expandText linkLocal "%\x7bv\x7d.%\x7bc\x7d" = .ok "ip6.FE800000000000000000000000000001" := by decide +kernel
    exact (answered_iff linkLocal_typed _).1.mp (.inl ⟨_, hexpands⟩)
  · have hfails : (tryOut linkLocal "%\x7bv\x7d.%\x7bi\x7d").isOk = false := by decide +kernel
    by_contra hends
    obtain ⟨t, ht⟩ := (answered_iff linkLocal_typed _).2.1.mpr hends
    rw [ht] at hfails
    cases hfails

/-- The nibbles of a link-local address: neither an expansion nor one of the errors that are answers, and no result. -/
theorem scoped_sender_ends : ∃ e, expandText linkLocal "%\x7bi\x7d" = .error e ∧ e.isExpected = false ∧
    ∀ t, tryOut linkLocal "%\x7bi\x7d" ≠ .ok t := by
  have hcause : expandText linkLocal "%\x7bi\x7d" = .error (.scoped (.group (.notHex "1%eth0") "fe80::1%eth0")) := by decide +kernel
  have hfails : (tryOut linkLocal "%\x7bi\x7d").isOk = false := by decide +kernel
  refine ⟨_, hcause, rfl, fun t ht => ?_⟩
  rw [ht] at hfails
  cases hfails

end MacroString

end SenderPolicy
