/-
  SenderPolicy.Proofs.Advice.Splicing — a rebuilt record is the record with addresses in place of includes.

  The rebuilt text is read again term by term. The term of a network is well formed, takes its value and is read
  as a mechanism that costs no lookup; a mechanism that is kept is read as itself, with the faults it had; the
  modifiers are read as before. So what is read is what was read before with the networks spliced in, and
  replacing an include takes away its lookup and its faults.
  - `readTerm_literal`: the term of a network is read as its mechanism, without fault.
  - `allTerms_splice`: the terms that are written are those of the spliced mechanisms.
  - `readTerms_splice`: they are read as these.
  - `rebuild_splices`: what this makes of a whole record.
-/

import Mathlib.Data.List.Nodup
import Mathlib.Data.List.Perm.Subperm
import SenderPolicy.Installed
import SenderPolicy.Proofs.Address.Blocks
import SenderPolicy.Proofs.Record.Rereading

namespace SenderPolicy.Advice

open Text
open Mechanism (Kind)
open Record (readTerm readTerms Outcome Seen)

/-! ## The term of a network -/

/-- The mechanism that holds a network. -/
def literal (q : Qualifier) (n : Network) : Mechanism := ⟨kindOf n.family, q, some n.normal, 0, false, 0, [], []⟩

theorem hex_isV6Char : ∀ n < 128, (hexValue? (Char.ofNat n)).isSome = true → Grammar.isV6Char (Char.ofNat n) = true := by
  decide +kernel

theorem isV6Char_hex {c : Char} (h : (hexValue? c).isSome = true) : Grammar.isV6Char c = true := by
  have hrange := hex_range h
  have hchar := hex_isV6Char c.toNat (by omega)
  rw [Char.ofNat_toNat] at hchar
  exact hchar h

/-- The characters of a family's addresses. -/
def addressChar : Family → Char → Bool
  | .v4 => Grammar.isV4Char
  | .v6 => Grammar.isV6Char

theorem addressChar_valueText (family : Family) (value : Nat) :
    ∀ c ∈ Address.valueText family value none, addressChar family c = true := by
  intro c hc
  cases family with
  | v4 =>
    rcases mem_v4Text hc with rfl | hd
    · rfl
    · show (c.isDigit || c == '.') = true
      rw [hd, Bool.true_or]
  | v6 =>
    rw [Address.valueText, List.append_nil] at hc
    rcases mem_v6Text hc with rfl | hx
    · rfl
    · exact isV6Char_hex hx

/-- The normal form is an address, and maybe a length behind it. -/
theorem normal_parts {n : Network} (h : n.scope = none) :
    ∃ tail, n.normal.toList = Address.valueText n.family n.base none ++ tail ∧ (tail = [] ∨ tail = '/' :: Nat.toDigits 10 n.length) := by
  unfold Network.normal Network.text
  rw [h]
  split
  · exact ⟨[], by simp, .inl rfl⟩
  · exact ⟨_, by simp, .inr rfl⟩

theorem behind?_kindOf (family : Family) (cs : List Char) : Token.behind? (kindOf family) cs
    = ((Grammar.char? ':' cs).bind (Grammar.some? (addressChar family))).map (Grammar.optional Grammar.length?) := by
  cases family <;> rfl

/-- The syntax of the mechanism is right with this value behind the keyword. -/
theorem behind?_normal {n : Network} (h : n.scope = none) : Token.behind? (kindOf n.family) (':' :: n.normal.toList) = some [] := by
  obtain ⟨tail, htext, htail⟩ := normal_parts h
  obtain ⟨c, cs, hcs⟩ := List.exists_cons_of_ne_nil (valueText_ne_nil n.family n.base none)
  have hchars := addressChar_valueText n.family n.base
  rw [hcs] at hchars htext
  obtain ⟨hc, hrest⟩ := List.forall_mem_cons.mp hchars
  have hslash : addressChar n.family '/' = false := by cases n.family <;> rfl
  have haddress : Grammar.some? (addressChar n.family) n.normal.toList = some tail := by
    rw [htext, List.cons_append, Grammar.some?, if_pos hc, List.dropWhile_append_of_pos hrest]
    rcases htail with rfl | rfl
    · rfl
    · rw [List.dropWhile_cons, hslash]
      rfl
  have hlength : Grammar.optional Grammar.length? tail = [] := by
    rcases htail with rfl | rfl
    · rfl
    · obtain ⟨d, ds, hds⟩ := List.exists_cons_of_ne_nil (Nat.toDigits_ne_nil (b := 10) (n := n.length))
      have hdigits : ∀ d ∈ Nat.toDigits 10 n.length, d.isDigit = true := by
        intro d hd
        by_contra hno
        exact not_mem_toDigits (Bool.eq_false_iff.mpr hno) _ hd
      rw [hds] at hdigits ⊢
      obtain ⟨hd, hdrop⟩ := List.forall_mem_cons.mp hdigits
      have hread : Grammar.length? ('/' :: d :: ds) = some [] := by
        show Grammar.some? Char.isDigit (d :: ds) = some []
        rw [Grammar.some?, if_pos hd, List.dropWhile_eq_nil_iff.mpr hdrop]
      rw [Grammar.optional, hread]
      rfl
  have hcolon : Grammar.char? ':' (':' :: n.normal.toList) = some n.normal.toList := rfl
  rw [behind?_kindOf, hcolon, Option.bind_some, haddress, Option.map_some, hlength]

theorem checkValue_normal {n : Network} (h : n.scope = none) : Mechanism.checkValue (kindOf n.family) (some n.normal) = none := by
  have hempty : n.normal.isEmpty = false := by
    obtain ⟨tail, htext, _⟩ := normal_parts h
    rw [Bool.eq_false_iff]
    intro he
    have hnil : n.normal.toList = [] := by rw [String.isEmpty_iff.mp he]; rfl
    rw [hnil] at htext
    exact valueText_ne_nil _ _ _ (List.append_eq_nil_iff.mp htext.symm).1
  have hnetwork : ∀ k, Mechanism.checkNetwork k n.family n.normal = none := by
    intro k
    unfold Mechanism.checkNetwork
    rw [if_neg fun hm => percent_not_mem_normal h (List.contains_iff_mem.mp hm), Network.ofText?_normal (spellable_of_unscoped h)]
    exact if_pos rfl
  have hvalue : Mechanism.checkValue (kindOf n.family) (some n.normal) = if n.normal.isEmpty then
      some (.missingValue (kindOf n.family).name) else Mechanism.checkNetwork (kindOf n.family) n.family n.normal := by
    cases n.family <;> rfl
  rw [hvalue, hempty]
  exact hnetwork _

/-- The term of a network is read as its mechanism. -/
theorem readTerm_literal [Packages] {q : Qualifier} (hq : q ∈ Qualifier.standard) {n : Network} (h : n.scope = none)
    (seen : Seen) : readTerm seen (literal q n).text = .ok (.mechanism (literal q n) [] []) := by
  have hstandard : kindOf n.family ∈ Kind.standard := by cases n.family <;> decide
  have hshape := Token.mechanism?_text (t := spelledOut q n) hstandard rfl hq
  have hrest : Token.restOf (some n.normal) = ':' :: n.normal.toList :=
    if_neg fun he => head?_normal (spellable_of_unscoped h) (beq_iff_eq.mp he)
  have hcheck : Grammar.check (spelledOut q n).text = none := by
    rw [Token.check_mechanism hshape hstandard (Record.standard_fold _ hstandard)]
    show Token.behind? _ (Token.restOf (some n.normal)) = some []
    rw [hrest, behind?_normal h]
  have hkind : Kind.ofName (kindOf n.family).name = kindOf n.family := Kind.ofName_name hstandard
  have htarget : (Mechanism.target? (kindOf n.family) (some n.normal)).getD "" = n.normal := by cases n.family <;> rfl
  have hmacros : Record.macrosOf n.normal = .ok ⟨[], 0, [], [], [], []⟩ :=
    if_neg fun hm => percent_not_mem_normal h (List.contains_iff_mem.mp hm)
  have hcost : (kindOf n.family).lookups? = some 0 := by cases n.family <;> rfl
  have hwarnings : Record.mechanismWarnings (spelledOut q n).text (kindOf n.family) n.normal = [] := by cases n.family <;> rfl
  have hterm : (⟨q, (kindOf n.family).name.toList, Token.restOf (some n.normal)⟩ : Token.Written).term = spelledOut q n := by
    simp only [Token.Written.term, Token.value?_restOf, String.ofList_toList, (Token.standard_names _ hstandard).2.1]
    rfl
  show readTerm seen (spelledOut q n).text = _
  unfold readTerm
  rw [hshape]
  show Record.readMechanism (spelledOut q n).text ⟨q, (kindOf n.family).name.toList, Token.restOf (some n.normal)⟩ = _
  unfold Record.readMechanism
  rw [hterm]
  simp only [spelledOut] at hcheck hwarnings ⊢
  simp only [hkind, hcheck, checkValue_normal h, htarget, hmacros, hcost, hwarnings, Option.getD_some,
    Record.opensExpression_plain (percent_not_mem_normal h)]
  rfl

/-! ## Mechanisms in place of includes -/

/-- The addresses that stand for an include, if there are any. -/
def replacement? (names : List (String × List String)) (m : Mechanism) : Option (List String) :=
  (target? m).bind fun target => (names.find? fun entry => Domain.key entry.1 == target).map (·.2)

/-- The networks of a list of addresses, each once and in ascending order. -/
def ascending (ips : List String) : List Network := Sequence.sort Network.le (ips.filterMap Network.ofText?).eraseDups

/-- What stands for a mechanism: the networks of its domain with its qualifier, if there are any, or itself. -/
def splice (names : List (String × List String)) (m : Mechanism) : List Mechanism :=
  match replacement? names m with
  | none => [m]
  | some ips => (ascending ips).map (literal m.qualifier)

variable {names : List (String × List String)} {m : Mechanism}

/-- With different keys, what is found under a key is the entry that has it. -/
theorem find?_key {α : Type} {key : α → String} {as : List α} (hkeys : (as.map key).Nodup) {k : String} {a : α} :
    as.find? (key · == k) = some a ↔ a ∈ as ∧ key a = k := by
  constructor
  · intro h
    exact ⟨List.mem_of_find?_eq_some h, by simpa using List.find?_some h⟩
  · rintro ⟨ha, rfl⟩
    obtain ⟨b, hb⟩ : ∃ b, as.find? (key · == key a) = some b :=
      Option.isSome_iff_exists.mp (List.find?_isSome.mpr ⟨a, ha, beq_self_eq_true _⟩)
    have hkey : key b = key a := by simpa using List.find?_some hb
    rw [hb, List.inj_on_of_nodup_map hkeys (List.mem_of_find?_eq_some hb) ha hkey]

/-- With one entry for each domain, their order does not count. -/
theorem find?_ofNames (hkeys : (names.map fun entry => Domain.key entry.1).Nodup) (domain : String) :
    (Resolved.ofNames names).find? domain = (names.find? fun entry => Domain.key entry.1 == domain).map (·.2) := by
  have hreversed : (((names.map fun entry => (Domain.key entry.1, entry.2)).reverse).map (·.1)).Nodup := by
    rw [List.map_reverse, List.nodup_reverse, List.map_map]
    exact hkeys
  ext ips
  simp only [Resolved.ofNames, Resolved.find?, Option.map_eq_some_iff]
  constructor
  · rintro ⟨e, he, rfl⟩
    obtain ⟨hmem, hkey⟩ := (find?_key hreversed).mp he
    obtain ⟨entry, hentry, rfl⟩ := List.mem_map.mp (List.mem_reverse.mp hmem)
    exact ⟨entry, (find?_key hkeys).mpr ⟨hentry, hkey⟩, rfl⟩
  · rintro ⟨entry, he, rfl⟩
    obtain ⟨hentry, hkey⟩ := (find?_key hkeys).mp he
    exact ⟨(Domain.key entry.1, entry.2), (find?_key hreversed).mpr
      ⟨List.mem_reverse.mpr (List.mem_map.mpr ⟨entry, hentry, rfl⟩), hkey⟩, rfl⟩

theorem ascending_unscoped {ips : List String} (h : Plainly ips) : ∀ n ∈ ascending ips, n.scope = none := by
  intro n hn
  unfold ascending at hn
  rw [Sequence.mem_sort, List.mem_eraseDups] at hn
  exact (networks_of_plainly h).1 n hn

/-- They are the addresses of the list, each once and in order. -/
theorem ascending_spec {ips : List String} (h : Plainly ips) :
    (ascending ips).Pairwise (fun m n => m.le n = true) ∧ (ascending ips).Nodup ∧
      ∀ ip, ip ∈ ips ↔ ∃ n ∈ ascending ips, n.normal = ip := by
  obtain ⟨-, hmap⟩ := networks_of_plainly h
  unfold ascending
  refine ⟨Sequence.sort_pairwise Network.le_trans Network.le_total _, ?_, fun ip => ?_⟩
  · exact (Sequence.sort_perm _ _).nodup_iff.mpr (nodup_eraseDups _)
  · conv_lhs => rw [← hmap]
    simp only [List.mem_map, Sequence.mem_sort, List.mem_eraseDups]

theorem plainly_of_replacement? (hplain : ∀ entry ∈ names, Plainly entry.2) {ips : List String}
    (h : replacement? names m = some ips) : Plainly ips := by
  obtain ⟨target, _, hfound⟩ := Option.bind_eq_some_iff.mp h
  obtain ⟨entry, hentry, rfl⟩ := Option.map_eq_some_iff.mp hfound
  exact hplain entry (List.mem_of_find?_eq_some hentry)

/-- The terms that are written for a mechanism are those of what stands for it. -/
theorem termsFor_splice (hkeys : (names.map fun entry => Domain.key entry.1).Nodup) (hplain : ∀ entry ∈ names, Plainly entry.2) :
    termsFor (.ofNames names) m = .ok ((splice names m).map (·.text)) := by
  have hreplaced : (target? m).bind (Resolved.ofNames names).find? = replacement? names m :=
    congrArg (target? m).bind (funext (find?_ofNames hkeys))
  unfold termsFor splice
  rw [hreplaced]
  cases hr : replacement? names m with
  | none => rfl
  | some ips =>
    have hips := plainly_of_replacement? hplain hr
    obtain ⟨hscope, hmap⟩ := networks_of_plainly hips
    have hsorted := Network.sortTexts_normal fun n hn => spellable_of_unscoped (hscope n hn)
    rw [hmap] at hsorted
    have hterms := networkTerms_normal m.qualifier (ascending_unscoped hips)
    dsimp only
    rw [hsorted]
    exact hterms.trans (by rw [List.map_map]; rfl)

theorem allTerms_splice (hkeys : (names.map fun entry => Domain.key entry.1).Nodup) (hplain : ∀ entry ∈ names, Plainly entry.2)
    (ms : List Mechanism) : allTerms (.ofNames names) ms = .ok ((ms.flatMap (splice names)).map (·.text)) := by
  induction ms with
  | nil => rfl
  | cons m ms ih =>
    rw [allTerms, termsFor_splice hkeys hplain, ih, List.flatMap_cons, List.map_append]
    rfl

/-! ## Reading what is written -/

open Record (IsRead readsBack)

variable {seen seen' : Seen} {faults : List MacroString.Fault} {ws : List Warning}

theorem readTerms_cons_ok [Packages] {t : String} {ts : List String} {o : Outcome} {os : List Outcome} {w : Token.Written}
    (hshape : Token.mechanism? t.toList = some w) (ho : readTerm seen t = .ok o) (hos : readTerms seen ts = .ok os) :
    readTerms seen (t :: ts) = .ok (o :: os) := by
  simp only [readTerms, ho, Record.after_mechanism hshape, hos, bind, Except.bind]

theorem readTerms_literals [Packages] {q : Qualifier} (hq : q ∈ Qualifier.standard) {ns : List Network}
    (hns : ∀ n ∈ ns, n.scope = none) {ts : List String} {os : List Outcome} (hrest : readTerms seen ts = .ok os) :
    readTerms seen ((ns.map (literal q)).map (·.text) ++ ts) = .ok (ns.map (fun n => .mechanism (literal q n) [] []) ++ os) := by
  induction ns with
  | nil => exact hrest
  | cons n ns ih =>
    obtain ⟨hn, hns⟩ := List.forall_mem_cons.mp hns
    have hstandard : kindOf n.family ∈ Kind.standard := by cases n.family <;> decide
    exact readTerms_cons_ok (Token.mechanism?_text (t := spelledOut q n) hstandard rfl hq) (readTerm_literal hq hn seen) (ih hns)

/-- What stands for a mechanism is read as this, with no other faults than those of the mechanism. -/
theorem readTerms_spliced [Packages] {token : String} (hword : Text.IsPlainWord token)
    (h : readTerm seen token = .ok (.mechanism m faults ws))
    (hback : readsBack m = true) (hplain : ∀ entry ∈ names, Plainly entry.2) {ts : List String} {os : List Outcome}
    (hrest : readTerms seen' ts = .ok os) :
    ∃ os', readTerms seen' ((splice names m).map (·.text) ++ ts) = .ok (os' ++ os) ∧
      os'.filterMap Outcome.mechanism? = splice names m ∧ os'.filterMap Outcome.modifier? = [] ∧
      (os'.flatMap Outcome.problems).Sublist (faults.map .macroFault) := by
  have hread : IsRead m := ⟨seen, token, faults, ws, hword, h⟩
  unfold splice
  cases hr : replacement? names m with
  | none =>
    obtain ⟨w, hshape, _⟩ := hread.shape
    obtain ⟨ws', hagain⟩ := Record.readTerm_again hword h hback seen'
    refine ⟨[.mechanism m faults ws'], readTerms_cons_ok hshape hagain hrest, rfl, rfl, ?_⟩
    simp [Outcome.problems]
  | some ips =>
    have hscope := ascending_unscoped (plainly_of_replacement? hplain hr)
    refine ⟨_, readTerms_literals hread.writable.qualifier hscope hrest, ?_, ?_, ?_⟩
    · rw [List.filterMap_map]
      exact congrFun List.filterMap_eq_map _
    · rw [List.filterMap_map]
      exact List.filterMap_eq_nil_iff.mpr fun _ _ => rfl
    · have hnone : ((ascending ips).map fun n => Outcome.mechanism (literal m.qualifier n) [] []).flatMap Outcome.problems = [] := by
        rw [List.flatMap_map]
        exact List.flatMap_eq_nil_iff.mpr fun _ _ => rfl
      exact hnone ▸ List.nil_sublist _

/-- What stands for the mechanisms of a record is read as this. -/
theorem readTerms_splice [Packages] {ts : List String} (hwords : ∀ t ∈ ts, Text.IsPlainWord t) {os : List Outcome}
    (h : readTerms seen ts = .ok os)
    (hback : ∀ m ∈ os.filterMap Outcome.mechanism?, readsBack m = true) (hplain : ∀ entry ∈ names, Plainly entry.2)
    {ts' : List String} {os₂ : List Outcome} (hrest : readTerms seen' ts' = .ok os₂) :
    ∃ os₁, readTerms seen' (((os.filterMap Outcome.mechanism?).flatMap (splice names)).map (·.text) ++ ts') = .ok (os₁ ++ os₂) ∧
      os₁.filterMap Outcome.mechanism? = (os.filterMap Outcome.mechanism?).flatMap (splice names) ∧
      os₁.filterMap Outcome.modifier? = [] ∧
      (os₁.flatMap Outcome.problems).Sublist ((os.filter (!·.modifier?.isSome)).flatMap Outcome.problems) := by
  induction ts generalizing seen os with
  | nil =>
    cases h
    exact ⟨[], hrest, rfl, rfl, .slnil⟩
  | cons t ts ih =>
    obtain ⟨o, os, rfl, ho, hs⟩ := Record.readTerms_cons h
    obtain ⟨hword, hwords⟩ := List.forall_mem_cons.mp hwords
    cases o with
    | mechanism m faults ws =>
      obtain ⟨hm, hback⟩ := List.forall_mem_cons.mp hback
      obtain ⟨os₁, hread₁, hms₁, hmods₁, hproblems₁⟩ := ih hwords hs hback
      obtain ⟨os', hread, hms, hmods, hproblems⟩ := readTerms_spliced hword ho hm hplain hread₁
      refine ⟨os' ++ os₁, ?_, ?_, ?_, ?_⟩
      · rw [List.append_assoc, ← hread]
        simp only [List.filterMap_cons, Outcome.mechanism?, List.flatMap_cons, List.map_append, List.append_assoc]
      · rw [List.filterMap_append, hms, hms₁]
        rfl
      · rw [List.filterMap_append, hmods, hmods₁]
        rfl
      · rw [List.flatMap_append]
        exact hproblems.append hproblems₁
    | modifier mo faults ws =>
      have hothers := ih hwords hs hback
      exact hothers
    | rejected t' reason =>
      obtain ⟨os₁, hread₁, hms₁, hmods₁, hproblems₁⟩ := ih hwords hs hback
      exact ⟨os₁, hread₁, hms₁, hmods₁, hproblems₁.trans (List.sublist_append_right _ _)⟩

/-! ## Lookups -/

theorem lookups_of_incl [Packages] (h : IsRead m) (hk : m.kind = .incl) : m.lookups = 1 := by
  obtain ⟨_, _, _, _, _, hread⟩ := h
  obtain ⟨w, _, hread⟩ := Record.readFrom_of_mechanism hread
  have hcost := Record.readMechanism_lookups hread
  rw [hk] at hcost
  exact (Option.some.inj hcost).symm

/-- Each include that is replaced takes its lookup away. -/
theorem total_splice [Packages] {ms : List Mechanism} (hms : ∀ m ∈ ms, IsRead m) :
    Sequence.total (·.lookups) (ms.flatMap (splice names))
      = Sequence.total (·.lookups) ms - (ms.countP fun m => (replacement? names m).isSome) := by
  have hliterals : ∀ (q : Qualifier) (ns : List Network), Sequence.total (·.lookups) (ns.map (literal q)) = 0 := by
    intro q ns
    induction ns with
    | nil => rfl
    | cons n ns ih =>
      rw [List.map_cons, Sequence.total, ih]
      rfl
  induction ms with
  | nil => rfl
  | cons m ms ih =>
    obtain ⟨hm, hms⟩ := List.forall_mem_cons.mp hms
    rw [List.flatMap_cons, Sequence.total_append, ih hms, Sequence.total, List.countP_cons]
    unfold splice
    cases hr : replacement? names m with
    | none =>
      simp only [Sequence.total, Option.isSome_none, Bool.false_eq_true, if_false]
      omega
    | some ips =>
      obtain ⟨target, htarget, _⟩ := Option.bind_eq_some_iff.mp hr
      have hone := lookups_of_incl hm (target?_some htarget).1
      simp only [hliterals, Option.isSome_some, if_true]
      omega

/-! ## Whole records -/

/-- Whether a record with nothing but the written form of a mechanism is read as this mechanism. -/
def Rereads [Packages] (m : Mechanism) : Prop :=
  ∃ r, Record.read (unwords [Record.versionTag, m.text]) = .ok r ∧ r.mechanisms = [m]

theorem readsBack_of_rereads [Packages] (hread : IsRead m) (h : Rereads m) : readsBack m = true := by
  obtain ⟨r, hr, hms⟩ := h
  obtain ⟨o, ho, hmechanism, _⟩ := Record.readTerm_text hread ⟨false, false⟩
  obtain ⟨w, hshape, _⟩ := hread.shape
  have hword : Text.IsPlainWord m.text := hread.writable.word
  have htokens := (tokens_unwords (List.forall_mem_singleton.mpr hword)).2
  rw [Record.read_of_tokens htokens (readTerms_cons_ok hshape ho rfl)] at hr
  obtain rfl := Except.ok.inj hr
  change [o].filterMap Outcome.mechanism? = [m] at hms
  by_contra hback
  rw [if_neg hback] at hmechanism
  rw [List.filterMap_cons, hmechanism] at hms
  cases hms

theorem spliced_words [Packages] (hms : IsRead m) (hplain : ∀ entry ∈ names, Plainly entry.2) :
    ∀ m' ∈ splice names m, Text.IsPlainWord m'.text := by
  intro m' hm'
  unfold splice at hm'
  cases hr : replacement? names m with
  | none =>
    rw [hr] at hm'
    obtain rfl := List.mem_singleton.mp hm'
    exact hms.writable.word
  | some ips =>
    rw [hr] at hm'
    obtain ⟨n, hn, rfl⟩ := List.mem_map.mp hm'
    exact (writable_spelledOut hms.writable.qualifier (ascending_unscoped (plainly_of_replacement? hplain hr) n hn)).word

theorem lookupsOf_splice [Packages] {ms : List Mechanism} (hms : ∀ m ∈ ms, IsRead m) (modifiers : List Modifier) :
    Record.lookupsOf (ms.flatMap (splice names)) modifiers
      = Record.lookupsOf ms modifiers - (ms.countP fun m => (replacement? names m).isSome) := by
  unfold Record.lookupsOf
  rw [total_splice hms]
  omega

/-- The problems of the modifiers behind those of the other terms. -/
theorem problems_perm (os : List Outcome) :
    ((os.filter (!·.modifier?.isSome)).flatMap Outcome.problems ++ (os.filter (·.modifier?.isSome)).flatMap Outcome.problems).Perm
      (os.flatMap Outcome.problems) := by
  rw [← List.flatMap_append]
  exact (List.perm_append_comm.trans (List.filter_append_perm _ os)).flatMap_right _

/-- The terms that the rebuilt record has behind its version. -/
def rebuiltTerms (names : List (String × List String)) (os : List Outcome) : List String :=
  ((os.filterMap Outcome.mechanism?).flatMap (splice names)).map (·.text) ++ (os.filterMap Outcome.modifier?).map (·.text)

theorem rebuiltTerms_words [Packages] {ts : List String} (hwords : ∀ t ∈ ts, Text.IsPlainWord t) {os : List Outcome}
    (hos : readTerms seen ts = .ok os) (hplain : ∀ entry ∈ names, Plainly entry.2) :
    ∀ t ∈ rebuiltTerms names os, Text.IsPlainWord t := by
  intro t ht
  rcases List.mem_append.mp ht with ht | ht
  · obtain ⟨m', hm', rfl⟩ := List.mem_map.mp ht
    obtain ⟨m, hm, hm'⟩ := List.mem_flatMap.mp hm'
    exact spliced_words (Record.isRead_of_mem hwords hos m hm) hplain m' hm'
  · obtain ⟨mo, hmo, rfl⟩ := List.mem_map.mp ht
    exact hwords _ (Record.modifierText_mem hos mo hmo)

theorem rebuild_assemble (hkeys : (names.map fun entry => Domain.key entry.1).Nodup) (hplain : ∀ entry ∈ names, Plainly entry.2)
    (raw : String) (tokens : List String) (os : List Outcome) :
    rebuild (Record.assemble raw tokens os) (.ofNames names) = .ok (unwords (Record.versionTag :: rebuiltTerms names os)) := by
  rw [rebuild, allTerms_splice hkeys hplain]
  rfl

/-- A rebuilt record is read as the record with the networks of each replaced include in its place, and with
everything else as it was. Nothing new is wrong with it, and each include that is replaced costs one lookup less. -/
theorem rebuild_splices [Packages] {record : String} {r : Record} (hread : Record.read record = .ok r)
    (hback : ∀ m ∈ r.mechanisms, Rereads m)
    (hkeys : (names.map fun entry => Domain.key entry.1).Nodup) (hplain : ∀ entry ∈ names, Plainly entry.2) :
    ∃ text r', rebuild r (.ofNames names) = .ok text ∧ Record.read text = .ok r' ∧
      r'.mechanisms = r.mechanisms.flatMap (splice names) ∧ r'.modifiers = r.modifiers ∧ r'.problems.Subperm r.problems ∧
      r'.totalLookups = r.totalLookups - (r.mechanisms.countP fun m => (replacement? names m).isSome) ∧
      ∀ entry ∈ names, (ascending entry.2).Pairwise (fun m n => m.le n = true) ∧ (ascending entry.2).Nodup ∧
        ∀ ip, ip ∈ entry.2 ↔ ∃ n ∈ ascending entry.2, n.normal = ip := by
  obtain ⟨os, hos, rfl⟩ := Record.read_ok hread
  have hwords : ∀ t ∈ (Record.tokens record).drop 1, Text.IsPlainWord t :=
    fun t ht => Record.isPlainWord_of_mem_tokens (List.mem_of_mem_drop ht)
  have hms := Record.isRead_of_mem hwords hos
  have hmods := Record.readTerms_modifierTexts hos (Seen.Within.refl _)
  obtain ⟨os₁, hos₁, hms₁, hmods₁, hproblems₁⟩ := readTerms_splice hwords hos
    (fun m hm => readsBack_of_rereads (hms m hm) (hback m hm)) hplain hmods
  obtain ⟨hnone, hsame⟩ := Record.filter_modifiers os
  have hmechanisms : (os₁ ++ os.filter (·.modifier?.isSome)).filterMap Outcome.mechanism?
      = (os.filterMap Outcome.mechanism?).flatMap (splice names) := by
    rw [List.filterMap_append, hms₁, hnone, List.append_nil]
  have hmodifiers : (os₁ ++ os.filter (·.modifier?.isSome)).filterMap Outcome.modifier? = os.filterMap Outcome.modifier? := by
    rw [List.filterMap_append, hmods₁, hsame, List.nil_append]
  have htokens := (tokens_unwords (rebuiltTerms_words hwords hos hplain)).2
  refine ⟨_, _, rebuild_assemble hkeys hplain _ _ _, Record.read_of_tokens htokens hos₁, hmechanisms, hmodifiers, ?_, ?_,
    fun entry hentry => ascending_spec (hplain entry hentry)⟩
  · have hversion : Record.versionProblems (Record.versionTag :: rebuiltTerms names os) = [] := rfl
    show (Record.versionProblems _ ++ (os₁ ++ os.filter (·.modifier?.isSome)).flatMap Outcome.problems).Subperm
      (Record.versionProblems _ ++ os.flatMap Outcome.problems)
    rw [hversion, List.nil_append, List.flatMap_append]
    have hkept := (hproblems₁.append (List.Sublist.refl _)).subperm.trans (problems_perm os).subperm
    exact hkept.trans (List.sublist_append_right _ _).subperm
  · show Record.lookupsOf _ _ = Record.lookupsOf _ _ - _
    rw [hmechanisms, hmodifiers, lookupsOf_splice hms]
    rfl

theorem plainly_of_all {ips : List String}
    (h : (ips.all fun ip => (Network.ofText? ip).any fun n => n.scope.isNone && n.normal == ip) = true) : Plainly ips := by
  intro ip hip
  have hread := List.all_eq_true.mp h ip hip
  cases hn : Network.ofText? ip with
  | none => rw [hn] at hread; cases hread
  | some n =>
    rw [hn, Option.any_some, Bool.and_eq_true, Option.isNone_iff_eq_none, beq_iff_eq] at hread
    exact ⟨n, hread.1, hread.2⟩

/-- An include is replaced that is written in upper case and with a dot; another one stays. -/
theorem rebuild_splices_upper_case :
    ∃ r, Record.read "v=spf1 ~include:B.EXAMPLE. include:c.example bogus -all" = .ok r ∧
      ∃ text r', rebuild r (.ofNames [("b.example", ["2001:db8::1", "192.0.2.7", "2001:db8::1"])]) = .ok text ∧
        Record.read text = .ok r' ∧
        r'.mechanisms = r.mechanisms.flatMap (splice [("b.example", ["2001:db8::1", "192.0.2.7", "2001:db8::1"])]) ∧
        r'.problems.Subperm r.problems := by
  obtain ⟨r, hr⟩ : ∃ r, Record.read "v=spf1 ~include:B.EXAMPLE. include:c.example bogus -all" = .ok r :=
    Record.exists_read (by decide +kernel)
  have hall : (Record.read "v=spf1 ~include:B.EXAMPLE. include:c.example bogus -all").toOption.all (fun r => r.mechanisms.all fun m =>
      (Record.read (unwords [Record.versionTag, m.text])).toOption.any (·.mechanisms == [m])) = true := by decide +kernel
  rw [hr] at hall
  have hback : ∀ m ∈ r.mechanisms, Rereads m := by
    intro m hm
    have hread := List.all_eq_true.mp hall m hm
    unfold Rereads
    cases hr' : Record.read (unwords [Record.versionTag, m.text]) with
    | error e => rw [hr'] at hread; cases hread
    | ok r' =>
      rw [hr'] at hread
      exact ⟨r', rfl, beq_iff_eq.mp hread⟩
  have hplain : ∀ entry ∈ [("b.example", ["2001:db8::1", "192.0.2.7", "2001:db8::1"])], Plainly entry.2 :=
    List.forall_mem_singleton.mpr (plainly_of_all (by decide +kernel))
  obtain ⟨text, r', hrebuilt, hread, hms, -, hproblems, -⟩ := rebuild_splices hr hback (by simp) hplain
  exact ⟨r, hr, text, r', hrebuilt, hread, hms, hproblems⟩

end SenderPolicy.Advice
