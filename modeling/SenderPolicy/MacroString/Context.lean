/-
  SenderPolicy.MacroString.Context — what a macro-string can refer to.

  A context holds the facts about a message that the letters stand for. It is handed in from outside,
  so each field is a JSON value: null or an empty text is a missing field, and a value of the wrong kind
  is an error only where it is used.
  - `sample_typed`: the sample context is well typed.
-/

import SenderPolicy.Address.Reader
import SenderPolicy.Json.Display
import SenderPolicy.MacroString.Reading

namespace SenderPolicy.MacroString

inductive Field where
  | senderIp
  | senderEmail
  | currentDomain
  | heloDomain
  | validatedDomain
  | receivingDomain
  | timestamp
  deriving DecidableEq, Repr

def Field.name : Field → String
  | .senderIp => "sender_ip"
  | .senderEmail => "sender_email"
  | .currentDomain => "current_domain"
  | .heloDomain => "helo_domain"
  | .validatedDomain => "validated_domain"
  | .receivingDomain => "receiving_domain"
  | .timestamp => "timestamp"

def Letter.field : Letter → Field
  | .sender | .localPart | .senderDomain => .senderEmail
  | .domain => .currentDomain
  | .ip | .version | .clientIp => .senderIp
  | .validated => .validatedDomain
  | .helo => .heloDomain
  | .receiver => .receivingDomain
  | .timestamp => .timestamp

structure Context where
  get : Field → Json

namespace Context

/-- The fields of a JSON object. -/
def ofJson (v : Json) : Context := ⟨fun f => (v.field? f.name).getD .null⟩

/-- An example message, received at the time `now` in seconds. -/
def sample (now : Int) : Context where
  get
    | .senderIp => .str "192.168.1.100"
    | .senderEmail => .str "test@example.com"
    | .currentDomain => .str "company.com"
    | .heloDomain => .str "mail.example.com"
    | .validatedDomain => .str "mail.example.com"
    | .receivingDomain => .str "mx.company.com"
    | .timestamp => .int now

/-- Whether every field that is present is a text, and the time a whole number. -/
def Typed (ctx : Context) : Prop :=
  ∀ f, ctx.get f = .null
    ∨ (f ≠ .timestamp ∧ ∃ s, ctx.get f = .str s)
    ∨ (f = .timestamp ∧ ∃ i, ctx.get f = .int i)

theorem sample_typed (now : Int) : (sample now).Typed := by
  intro f
  cases f <;> simp [sample, Json.int]

end Context

/-- Why a macro-string has no expansion. The last five causes arise only from contexts with values of
the wrong kind, or from macros that were not read from a text. -/
inductive ExpansionError where
  | malformed (fault : Fault)
  | notSingle (text : String)
  | missing (letter : Letter)
  | badAddress (letter : Letter) (shown : String)
  | noDomainPart (sender : String)
  | unknownLetter (name : String)
  | numeral (cause : Text.NumeralError)
  | scoped (cause : AddressError)
  | notNumber
  | infinite
  | noTextMethods
  | notText
  | noDelimiters
  deriving DecidableEq, Repr

def ExpansionError.message : ExpansionError → String
  | .malformed f => f.message
  | .notSingle text => s!"{text} is not a single SPF macro"
  | .missing l => s!"Cannot expand %\x7b{l.name}\x7d: the {l.field.name} context field is missing"
  | .badAddress l shown => s!"Cannot expand %\x7b{l.name}\x7d: {shown} is not a valid IP address"
  | .noDomainPart sender => s!"Cannot expand %\x7bo\x7d: {sender} does not have a domain part"
  | .unknownLetter name =>
    let letter := Text.quoted name
    s!"Unknown SPF macro letter {letter}"
  | .numeral e => e.message
  | .scoped e => e.message
  | .notNumber => "cannot convert float NaN to integer"
  | .infinite => "cannot convert float infinity to integer"
  | .noTextMethods => "the value is no text"
  | .notText => "expected a text"
  | .noDelimiters => "unterminated character set at position 0"

/-- Whether the error is one that a macro-string or an incomplete context is answered with. -/
def ExpansionError.isExpected : ExpansionError → Bool
  | .malformed _ | .notSingle _ | .missing _ | .badAddress _ _ | .noDomainPart _ | .unknownLetter _ => true
  | _ => false

end SenderPolicy.MacroString
