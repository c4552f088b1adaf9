/-
  SenderPolicy.Proofs.Policy.Meaning — what the record of a domain says about an address.

  This is the reading of a record that a flattening is measured by. Its mechanisms are tried from left to
  right: `ip4`, `ip6`, `a` and `mx` match the addresses they stand for, an `include` matches if the record
  it names gives `pass`, and `all` matches always; the qualifier of the first mechanism that matches is
  the verdict. If none matches the redirect decides, which a record with `all` does not have; of several
  redirects the last one counts. Verdicts are given by levels, one for each record on the way down, and
  an evaluation settles on what they are from some level on.
  - `Reaches`: which records a record goes on to, by its includes before the first `all` and its redirect.
  - `mem_live_of_mem_counted`, `mem_counted_of_mem_live`: what the tokenizer sees before its first `all`.
  - `Settles.unique`: an evaluation settles on one verdict at most.
-/

import SenderPolicy.Flatten.Mask
import SenderPolicy.Proofs.Record.Agreement
import SenderPolicy.Record.Published

namespace SenderPolicy.Policy

open Dns
open Mechanism (Kind)

/-! ## Terms -/

def isAll (t : Term) : Bool := Kind.ofName t.name == .all

/-- The mechanism that a token has the shape of. -/
def mechanism? (token : String) : Option Term := (Token.mechanism? token.toList).map (·.term)

/-- The name, in lower case, of the modifier that a token has the shape of. -/
def modifierName? (token : String) : Option String :=
  if (mechanism? token).isSome then none else (Token.modifier? token.toList).map fun m => Text.lower m.1

def mechanisms (record : String) : List Term := ((Record.tokens record).drop 1).filterMap mechanism?

def modifierNames (record : String) : List String := ((Record.tokens record).drop 1).filterMap modifierName?

/-- The mechanisms before the first `all`. -/
def counted (record : String) : List Term := (mechanisms record).takeWhile (!isAll ·)

/-- The target of the redirect; a record with `all` has none. -/
def redirect? (record : String) : Option String :=
  if (mechanisms record).any isAll then none
  else ((Record.tokenize record).filter (·.name == "redirect")).getLast?.map fun t => t.value.getD ""

def include? (t : Term) : Option String :=
  if Kind.ofName t.name = .incl then t.value.map Domain.key else none

/-- The domains that a record goes on to. -/
def onward (record : String) : List String :=
  (counted record).filterMap include? ++ (redirect? record).toList.map Domain.key

/-! ## What the DNS says -/

variable (ask : Ask Id)

/-- The answers to a question; none if there is none. -/
def answers (name type : String) : List String :=
  match ask ⟨name, type⟩ with
  | .answers texts => texts
  | _ => []

/-- The record that the domain of this name publishes. -/
def record? (name : String) : Option String :=
  (Record.select (answers ask (Domain.key name) "TXT") (Domain.key name)).toOption

/-- The names whose addresses an `a` or `mx` term in the record of a domain stands for. -/
def hostsOf (domain : String) (t : Term) : List String :=
  let target := (Cidr.split t.value).domain.getD domain
  match Kind.ofName t.name with
  | .a => [target]
  | .mx => (answers ask target "MX").filterMap fun text =>
      ((Exchange.ofText target text).toOption.getD none).map Exchange.host
  | _ => []

/-- The addresses that are answered for a name. -/
def addressesAt (name : String) : List Address :=
  (answers ask name "A" ++ answers ask name "AAAA").filterMap Address.ofText?

/-- The addresses that are answered for an `a` or `mx` term. -/
def addressesOf (domain : String) (t : Term) : List Address := (hostsOf ask domain t).flatMap (addressesAt ask)

def byFamily (v4 v6 : Option String) : Family → Option String
  | .v4 => v4
  | .v6 => v6

/-- The network around an address that a term with these lengths stands for. -/
def widen? (v4 v6 : Option String) (a : Address) : Option Network :=
  (Flatten.maskAddress a (byFamily v4 v6 a.family)).toOption

/-- The networks that a term names, or that stand around the addresses answered for it. -/
def networksOf (domain : String) (t : Term) : List Network :=
  match Kind.ofName t.name with
  | .ip4 | .ip6 => (Network.ofText? (t.value.getD "")).toList
  | _ => (addressesOf ask domain t).filterMap (widen? (Cidr.split t.value).v4 (Cidr.split t.value).v6)

/-- Only these terms stand for networks. -/
theorem kind_of_networksOf {ask : Ask Id} {domain : String} {t : Term} {n : Network} (h : n ∈ networksOf ask domain t) :
    Kind.ofName t.name = .a ∨ Kind.ofName t.name = .mx ∨ Kind.ofName t.name = .ip4 ∨ Kind.ofName t.name = .ip6 := by
  unfold networksOf at h
  cases hk : Kind.ofName t.name <;> simp only [hk, addressesOf, hostsOf] at h ⊢ <;> simp at h ⊢

/-- The records that are reached from the record of a domain, its own included. -/
inductive Reaches : String → String → Prop
  | here (name : String) : Reaches name name
  | onward {name record next last : String} : record? ask name = some record → next ∈ onward record →
      Reaches next last → Reaches name last

/-! ## Verdicts -/

variable (family : Family) (value : Nat)

/-- Whether a term matches the address, given the verdicts of the records that it may include. -/
def Matches (verdict : String → Option Qualifier) (domain : String) (t : Term) : Bool :=
  match Kind.ofName t.name with
  | .all => true
  | .incl => (include? t).any fun name => verdict name == some .pass
  | _ => (networksOf ask domain t).any fun n => decide (n.Covers family value)

/-- The verdict of the record of a domain, as far as so many levels of records tell. -/
def verdict : (level : Nat) → String → Option Qualifier
  | 0, _ => none
  | level + 1, name =>
    match record? ask name with
    | none => none
    | some record =>
      match (mechanisms record).find? (Matches ask family value (verdict level) (Domain.key name)) with
      | some t => some t.qualifier
      | none => (redirect? record).bind fun target => verdict level (Domain.key target)

/-- The first term before `all` that matches, as far as so many levels of records tell. -/
def firstMatch? (level : Nat) (name : String) : Option Term :=
  (record? ask name).bind fun record =>
    (counted record).find? (Matches ask family value (verdict ask family value level) (Domain.key name))

/-- Evaluating the record of a domain gives this verdict, whatever level it is taken to from some level on. -/
def Settles (name : String) (q : Option Qualifier) : Prop :=
  ∃ enough, ∀ level ≥ enough, verdict ask family value level name = q

theorem Settles.unique {ask : Ask Id} {family : Family} {value : Nat} {name : String} {p q : Option Qualifier}
    (hp : Settles ask family value name p) (hq : Settles ask family value name q) : p = q := by
  obtain ⟨m, hm⟩ := hp
  obtain ⟨n, hn⟩ := hq
  rw [← hm (max m n) (Nat.le_max_left m n), hn (max m n) (Nat.le_max_right m n)]

/-- Whether one of the networks in a list holds the address. -/
def Covered (ips : List String) (family : Family) (value : Nat) : Prop :=
  ∃ ip ∈ ips, ∃ n, Network.ofText? ip = some n ∧ n.Covers family value

instance (ips : List String) (family : Family) (value : Nat) : Decidable (Covered ips family value) :=
  decidable_of_iff (∃ ip ∈ ips, ∃ n ∈ (Network.ofText? ip).toList, n.Covers family value) (by
    simp only [Covered, Option.mem_toList])

/-! ## Tokens before the first `all` -/

/-- What the tokenizer sees before its first `all`. -/
def live (record : String) : List Term := (Record.tokenize record).takeWhile (!isAll ·)

/-- A token has the shape of a mechanism, of a modifier, or of no term. -/
theorem token_cases (token : String) :
    (∃ t, mechanism? token = some t ∧ Token.term? token = some t ∧ modifierName? token = none) ∨
      (∃ t, mechanism? token = none ∧ Token.term? token = some t ∧ modifierName? token = some t.name) ∨
        mechanism? token = none ∧ Token.term? token = none ∧ modifierName? token = none := by
  unfold modifierName? mechanism? Token.term?
  cases Token.mechanism? token.toList with
  | some w => exact Or.inl ⟨w.term, rfl, rfl, rfl⟩
  | none =>
    cases Token.modifier? token.toList with
    | some m => exact Or.inr (Or.inl ⟨_, rfl, rfl, rfl⟩)
    | none => exact Or.inr (Or.inr ⟨rfl, rfl, rfl⟩)

theorem name_of_isAll {t : Term} (h : isAll t = true) : t.name = "all" := by
  have he : Kind.ofName t.name = .all := beq_iff_eq.mp h
  have hstandard : Kind.ofName t.name ∈ Kind.standard := by rw [he]; decide
  have hname := Kind.name_ofName hstandard
  rw [he] at hname
  exact hname.symm

variable {tokens : List String} {t : Term}

theorem mem_live_tokens (hall : "all" ∉ tokens.filterMap modifierName?)
    (h : t ∈ (tokens.filterMap mechanism?).takeWhile (!isAll ·)) :
    t ∈ (tokens.filterMap Token.term?).takeWhile (!isAll ·) := by
  induction tokens with
  | nil => cases h
  | cons token tokens ih =>
    rw [List.filterMap_cons] at h hall ⊢
    rcases token_cases token with ⟨u, hm, ht, hn⟩ | ⟨u, hm, ht, hn⟩ | ⟨hm, ht, hn⟩ <;> simp only [hm, ht, hn] at h hall ⊢
    · rw [List.takeWhile_cons] at h ⊢
      split at h
      · rename_i hu
        rw [if_pos hu]
        rcases List.mem_cons.mp h with rfl | h
        · exact List.mem_cons_self
        · exact List.mem_cons_of_mem _ (ih hall h)
      · cases h
    · have hu : isAll u = false := by
        cases he : isAll u with
        | false => rfl
        | true => exact absurd (by rw [name_of_isAll he]; exact List.mem_cons_self) hall
      rw [List.takeWhile_cons, if_pos (by rw [hu]; rfl)]
      exact List.mem_cons_of_mem _ (ih (fun hm => hall (List.mem_cons_of_mem _ hm)) h)
    · exact ih hall h

theorem mem_counted_tokens (hnames : ∀ name ∈ tokens.filterMap modifierName?, name ∉ Record.mechanismNames)
    (hgoes : Record.goesAsMechanism t = true) (h : t ∈ (tokens.filterMap Token.term?).takeWhile (!isAll ·)) :
    t ∈ (tokens.filterMap mechanism?).takeWhile (!isAll ·) := by
  induction tokens with
  | nil => cases h
  | cons token tokens ih =>
    rw [List.filterMap_cons] at h hnames ⊢
    rcases token_cases token with ⟨u, hm, ht, hn⟩ | ⟨u, hm, ht, hn⟩ | ⟨hm, ht, hn⟩ <;> simp only [hm, ht, hn] at h hnames ⊢
    · rw [List.takeWhile_cons] at h ⊢
      split at h
      · rename_i hu
        rw [if_pos hu]
        rcases List.mem_cons.mp h with rfl | h
        · exact List.mem_cons_self
        · exact List.mem_cons_of_mem _ (ih hnames h)
      · cases h
    · rw [List.takeWhile_cons] at h
      split at h
      · rcases List.mem_cons.mp h with rfl | h
        · exact absurd (List.contains_iff_mem.mp hgoes) (hnames _ List.mem_cons_self)
        · exact ih (fun name hname => hnames name (List.mem_cons_of_mem _ hname)) h
      · cases h
    · exact ih hnames h

/-- Without a modifier of that name the tokenizer stops at no other `all`. -/
theorem mem_live_of_mem_counted {record : String} (hall : "all" ∉ modifierNames record) (h : t ∈ counted record) :
    t ∈ live record := mem_live_tokens hall h

/-- Without a modifier that is named like a mechanism, what goes as one before the first `all` is one. -/
theorem mem_counted_of_mem_live {record : String}
    (hnames : ∀ name ∈ modifierNames record, name ∉ Record.mechanismNames) (hgoes : Record.goesAsMechanism t = true)
    (h : t ∈ live record) : t ∈ counted record := mem_counted_tokens hnames hgoes h

/-- What has the shape of a mechanism is a term to the tokenizer. -/
theorem mem_tokenize_of_mem_mechanisms {record : String} (h : t ∈ mechanisms record) : t ∈ Record.tokenize record := by
  obtain ⟨token, hmem, hm⟩ := List.mem_filterMap.mp h
  rcases token_cases token with ⟨u, hm', ht, _⟩ | ⟨u, hm', _⟩ | ⟨hm', _⟩
  · rw [hm] at hm'
    cases hm'
    exact List.mem_filterMap.mpr ⟨token, hmem, ht⟩
  · rw [hm] at hm'; cases hm'
  · rw [hm] at hm'; cases hm'

theorem mem_mechanisms_of_isAll {record : String} (hall : "all" ∉ modifierNames record) (h : t ∈ Record.tokenize record)
    (ht : isAll t = true) : t ∈ mechanisms record := by
  obtain ⟨token, hmem, hterm⟩ := List.mem_filterMap.mp h
  rcases token_cases token with ⟨u, hm, ht', _⟩ | ⟨u, _, ht', hn⟩ | ⟨_, ht', _⟩
  · rw [hterm] at ht'
    cases ht'
    exact List.mem_filterMap.mpr ⟨token, hmem, hm⟩
  · rw [hterm] at ht'
    cases ht'
    rw [name_of_isAll ht] at hn
    exact absurd (List.mem_filterMap.mpr ⟨token, hmem, hn⟩) hall
  · rw [hterm] at ht'; cases ht'

theorem any_isAll_tokenize {record : String} (hall : "all" ∉ modifierNames record) :
    (Record.tokenize record).any isAll = (mechanisms record).any isAll := by
  rw [Bool.eq_iff_iff, List.any_eq_true, List.any_eq_true]
  constructor
  · rintro ⟨t, ht, hisAll⟩
    exact ⟨t, mem_mechanisms_of_isAll hall ht hisAll, hisAll⟩
  · rintro ⟨t, ht, hisAll⟩
    exact ⟨t, mem_tokenize_of_mem_mechanisms ht, hisAll⟩

/-! ## Small zones -/

/-- A source that answers the questions of a table and knows no other names. -/
def zone (table : List (Question × List String)) : Ask Id := fun q =>
  match table.find? (·.1 == q) with
  | some entry => .answers entry.2
  | none => .failed (.noDomain q.name)

theorem mem_answers_zone {table : List (Question × List String)} {name type text : String}
    (h : text ∈ answers (zone table) name type) : ∃ entry ∈ table, text ∈ entry.2 := by
  unfold answers zone at h
  cases hf : table.find? (·.1 == (⟨name, type⟩ : Question)) with
  | none => rw [hf] at h; cases h
  | some entry => rw [hf] at h; exact ⟨entry, List.mem_of_find?_eq_some hf, h⟩

/-- A record is the text of one of the answers. -/
theorem record?_unquote {ask : Ask Id} {name record : String} (h : record? ask name = some record) :
    ∃ text ∈ answers ask (Domain.key name) "TXT", record = Record.unquote text := by
  unfold record? at h
  cases hs : Record.select (answers ask (Domain.key name) "TXT") (Domain.key name) with
  | error e => rw [hs] at h; cases h
  | ok r =>
    rw [hs] at h
    obtain rfl := Option.some.inj h
    have hc := Record.select_ok_iff.mp hs
    have hm : r ∈ Record.candidates (answers ask (Domain.key name) "TXT") := by rw [hc]; exact List.mem_singleton_self r
    obtain ⟨text, ht, he⟩ := List.mem_map.mp (List.mem_filter.mp hm).1
    exact ⟨text, ht, he.symm⟩

theorem record?_zone {table : List (Question × List String)} {name record : String}
    (h : record? (zone table) name = some record) : ∃ entry ∈ table, ∃ text ∈ entry.2, record = Record.unquote text := by
  obtain ⟨text, ht, he⟩ := record?_unquote h
  obtain ⟨entry, hentry, hmem⟩ := mem_answers_zone ht
  exact ⟨entry, hentry, text, hmem, he⟩

end SenderPolicy.Policy
