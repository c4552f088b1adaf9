/-
  SenderPolicy.Dns.Lookup — what is looked up for a policy: texts, addresses and mail exchanges.

  A lookup is a program over one effect, `Ask`, so it runs with a client and its memory as well as with
  a fixed table of outcomes. It gives a failure as a value, since the caller goes on after it; only
  a crash or a silence interrupts the caller as well.
  - `addresses_sorted`: the addresses of a name come in ascending order of their texts.
-/

import SenderPolicy.Address.Reader
import SenderPolicy.Dns.Question
import SenderPolicy.Sequence.Sort
import SenderPolicy.Text.Numeral

namespace SenderPolicy.Dns

/-- How a question is put to the DNS. -/
abbrev Ask (m : Type → Type) := Question → m Outcome

inductive Interruption where
  | crash (c : Crash)
  | silence
  deriving DecidableEq, Repr

/-- A program that asks questions and may be interrupted. -/
abbrev Lookup (m : Type → Type) := ExceptT Interruption m

variable {m : Type → Type} [Monad m]

/-- The answers to a question, as texts. -/
def texts (ask : Ask m) (name type : String) : Lookup m (Except Failure (List String)) := do
  match ← ask ⟨name, type⟩ with
  | .answers texts => return .ok texts
  | .failed f => return .error f
  | .crashed c => throw (.crash c)
  | .silent => throw .silence

/-- The answers to a question; a name without records of the type has none. -/
def someTexts (ask : Ask m) (name type : String) : Lookup m (Except Failure (List String)) := do
  match ← texts ask name type with
  | .error f => return if f.kind = .noAnswer then .ok [] else .error f
  | r => return r

/-! ## Addresses -/

def badAddress (name text : String) : Failure :=
  ⟨.malformed, s!"Malformed address answer for {name}: {Text.quoted text}"⟩

def textLe (a b : String) : Bool := !(b < a)

/-- The answers for a name in order, if each of them is an address. -/
def checkAddresses (name : String) (texts : List String) : Except Failure (List String) :=
  match texts.find? fun t => (Address.ofText? t).isNone with
  | some t => .error (badAddress name t)
  | none => .ok (Sequence.sort textLe texts)

/-- The addresses of a name, of both families. -/
def addresses (ask : Ask m) (name : String) : Lookup m (Except Failure (List String)) := do
  match ← someTexts ask name "A" with
  | .error f => return .error f
  | .ok v4 =>
    match ← someTexts ask name "AAAA" with
    | .error f => return .error f
    | .ok v6 => return checkAddresses name (v4 ++ v6)

/-! ## Mail exchanges -/

structure Exchange where
  priority : Int
  host : String
  deriving DecidableEq, Repr

namespace Exchange

def le (a b : Exchange) : Bool := if a.priority ≠ b.priority then a.priority < b.priority else textLe a.host b.host

/-- Whether the answer says that the domain takes no mail. -/
def isNull (parts : List String) : Bool := parts == ["0"] || parts == ["0", "."]

def malformed (name text : String) : Failure := ⟨.malformed, s!"Malformed MX answer for {name}: {text}"⟩

/-- Without the dots at the end and white space around it, in lower case. -/
def hostName (text : String) : String := Text.lower (Text.strip (Text.dropDots text))

/-- The exchange that an answer names; none for an answer that the domain takes no mail. -/
def ofText (name text : String) : Except Failure (Option Exchange) :=
  let parts := Text.words text
  if isNull parts then .ok none
  else match parts with
    | [priority, host] =>
      match Text.readInt priority with
      | .ok p => .ok (some ⟨p, hostName host⟩)
      | .error _ => .error (malformed name text)
    | _ => .error (malformed name text)

def readAll (name : String) : List String → Except Failure (List Exchange)
  | [] => .ok []
  | t :: ts => do
    let e ← ofText name t
    let es ← readAll name ts
    .ok (e.toList ++ es)

/-- The exchanges that the answers for a name give, by priority and then by host. -/
def ofTexts (name : String) (texts : List String) : Except Failure (List Exchange) :=
  (readAll name texts).map (Sequence.sort le)

end Exchange

/-- The mail exchanges of a name. -/
def exchanges (ask : Ask m) (name : String) : Lookup m (Except Failure (List Exchange)) := do
  match ← texts ask name "MX" with
  | .error f => return .error f
  | .ok ts => return Exchange.ofTexts name ts

/-! ## Order -/

theorem textLe_trans (a b c : String) (h₁ : textLe a b = true) (h₂ : textLe b c = true) : textLe a c = true := by
  simp only [textLe, Bool.not_eq_true', decide_eq_false_iff_not, String.not_lt] at *
  exact String.le_trans h₁ h₂

theorem textLe_total (a b : String) : textLe a b = true ∨ textLe b a = true := by
  simp only [textLe, Bool.not_eq_true', decide_eq_false_iff_not, String.not_lt]
  exact String.le_total a b

theorem addresses_sorted {name : String} {texts sorted : List String} (h : checkAddresses name texts = .ok sorted) :
    sorted.Pairwise (textLe · ·) := by
  unfold checkAddresses at h
  split at h
  · simp at h
  · injection h with h
    subst h
    exact Sequence.sort_pairwise textLe_trans textLe_total _

example : (Exchange.ofTexts "a.example" ["10 b.example.", "5 C.example", "0 ."]).toOption
    = some [⟨5, "c.example"⟩, ⟨10, "b.example"⟩] := by decide

end SenderPolicy.Dns
