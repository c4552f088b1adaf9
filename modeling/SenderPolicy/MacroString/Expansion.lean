/-
  SenderPolicy.MacroString.Expansion — what a macro-string stands for.

  Each expression is replaced by the field its letter names: the field is cut into labels at the
  delimiters, the labels are turned around if asked for, the last few of them are kept, and dots put
  them together again. What replaces an expression or an escape is not looked at a second time.
  - `labels_join`: with no delimiter in it, a field is its only label.
-/

import SenderPolicy.MacroString.Analysis
import SenderPolicy.MacroString.Context
import SenderPolicy.Text.Case
import SenderPolicy.Text.Percent

namespace SenderPolicy.MacroString

/-! ## Fields -/

namespace Context

def require (ctx : Context) (l : Letter) : Except ExpansionError Json :=
  match ctx.get l.field with
  | .null => .error (.missing l)
  | .str "" => .error (.missing l)
  | v => .ok v

def address? : Json → Option Address
  | .num (.int i) => Address.ofInt? i
  | .bool b => Address.ofInt? (if b then 1 else 0)
  | v => Address.ofText? v.display

def address (ctx : Context) (l : Letter) : Except ExpansionError Address := do
  let v ← ctx.require l
  match address? v with
  | some a => .ok a
  | none => .error (.badAddress l v.display)

/-- The sender address, which has to be a text. -/
def sender (ctx : Context) (l : Letter) : Except ExpansionError String := do
  match ← ctx.require l with
  | .str s => .ok s
  | _ => .error .noTextMethods

/-- The texts before and behind the last `@`; without one, all of it is domain. -/
def senderParts (sender : List Char) : List Char × List Char :=
  match sender.reverse.dropWhile (· != '@') with
  | [] => ([], sender)
  | _ :: before => (before.reverse, (sender.reverse.takeWhile (· != '@')).reverse)

def seconds : Json → Except ExpansionError Int
  | .num (.int i) => .ok i
  | .num (.real x) =>
    match Decimal.parts x with
    | .notNumber => .error .notNumber
    | .infinite _ => .error .infinite
    | .finite _ _ _ => .ok ((Decimal.truncate? x).getD 0)
  | .bool b => .ok (if b then 1 else 0)
  | .str s =>
    match Text.readInt s with
    | .ok i => .ok i
    | .error e => .error (.numeral e)
  | _ => .error .notText

end Context

/-- The nibbles of an IPv6 address, or the octets of an IPv4 one, between dots. -/
def addressLabels (a : Address) : Except ExpansionError String :=
  match a.family with
  | .v4 => .ok a.text
  | .v6 =>
    match a.scope with
    | none => .ok (String.ofList (List.intercalate ['.'] ((Text.hexFixed 32 a.value).map ([·]))))
    | some _ =>
      match Address.readV6 a.text.toList with
      | .ok n => .ok (String.ofList (List.intercalate ['.'] ((Text.hexFixed 32 n).map ([·]))))
      | .error e => .error (.scoped e)

/-- The bytes of an address as upper-case hexadecimal digits. -/
def addressDigits (a : Address) : String :=
  String.ofList ((Text.hexFixed (a.family.width / 4) a.value).map Char.toUpper)

/-- The field that a letter names, as the context gives it. -/
def Context.field (ctx : Context) (l : Letter) : Except ExpansionError Json :=
  match l with
  | .sender => (ctx.sender l).map .str
  | .localPart => do
    let (before, _) := senderParts (← ctx.sender l).toList
    .ok (.str (if before.isEmpty then "postmaster" else String.ofList before))
  | .senderDomain => do
    let sender ← ctx.sender l
    let (_, domain) := senderParts sender.toList
    if domain.isEmpty then .error (.noDomainPart sender) else .ok (.str (String.ofList domain))
  | .ip => do
    let a ← ctx.address l
    (addressLabels a).map .str
  | .version => do
    let a ← ctx.address l
    .ok (.str (match a.family with | .v4 => "in-addr" | .v6 => "ip6"))
  | .clientIp => do
    let a ← ctx.address l
    .ok (.str (addressDigits a))
  | .timestamp => do
    let v ← ctx.require l
    let i ← Context.seconds v
    match Text.writeInt i with
    | .ok s => .ok (.str s)
    | .error e => .error (.numeral e)
  | .domain | .validated | .helo | .receiver => ctx.require l

/-! ## Labels -/

namespace Transformers

/-- The labels between the delimiters; adjacent delimiters have an empty one between them. -/
def labels (t : Transformers) (field : List Char) : List (List Char) :=
  field.splitOnP fun c => t.delimiters.contains c

/-- The last `n` labels for a positive number, all for zero, and all but the first `n` for `-n`. -/
def keep (digits : Option Int) (ls : List (List Char)) : List (List Char) :=
  match digits with
  | none => ls
  | some n => if n > 0 then ls.drop (ls.length - n.toNat) else ls.drop n.natAbs

def transform (t : Transformers) (field : List Char) : List Char :=
  let ls := t.labels field
  let ls := if t.reversed then ls.reverse else ls
  let joined := List.intercalate ['.'] (keep t.digits ls)
  if t.encoded then Text.Percent.encode joined else joined

def apply (t : Transformers) (field : Json) : Except ExpansionError String :=
  if t.delimiters.isEmpty then .error .noDelimiters
  else match field with
    | .str s => .ok (String.ofList (t.transform s.toList))
    | _ => .error .notText

theorem labels_join {t : Transformers} {field : List Char} (h : ∀ c ∈ field, c ∉ t.delimiters) :
    t.labels field = [field] := by
  unfold labels
  induction field with
  | nil => rfl
  | cons c cs ih =>
    have hc : t.delimiters.contains c = false := by simpa using h c List.mem_cons_self
    rw [List.splitOnP_cons_eq_if_modifyHead, hc, ih fun d hd => h d (List.mem_cons_of_mem _ hd)]
    rfl

end Transformers

/-! ## Expansion -/

def Expression.expand (ctx : Context) (e : Expression) : Except ExpansionError String := do
  e.transformers.apply (← ctx.field e.letter)

/-- The field of a letter given by name, in either case. -/
def Context.named (ctx : Context) (name : String) : Except ExpansionError Json :=
  match Letter.ofName? (Text.lower name) with
  | some l => ctx.field l
  | none => .error (.unknownLetter (Text.lower name))

/-- Expands a macro whose parts are given. -/
def expandNamed (ctx : Context) (name : String) (t : Transformers) : Except ExpansionError String := do
  t.apply (← ctx.named name)

def Piece.expand (ctx : Context) : Piece → Except ExpansionError String
  | .plain c => .ok c.toString
  | .escape e => .ok (String.ofList e.meaning)
  | .expression e => e.expand ctx

def expandPieces (ctx : Context) : List Piece → Except ExpansionError String
  | [] => .ok ""
  | p :: ps => do
    let s ← p.expand ctx
    let rest ← expandPieces ctx ps
    .ok (s ++ rest)

/-- The reading of a text, which fails if the text has a fault. -/
def faultless (text : String) : Except ExpansionError Reading :=
  match read text with
  | .error e => .error (.numeral e)
  | .ok r => match r.faults with
    | f :: _ => .error (.malformed f)
    | [] => .ok r

/-- Expands every expression and every escape of a macro-string. -/
def expandText (ctx : Context) (text : String) : Except ExpansionError String := do
  expandPieces ctx (← faultless text).pieces

/-- Expands a text that is a single expression. -/
def expandSingle (ctx : Context) (text : String) : Except ExpansionError String := do
  match (← faultless text).pieces with
  | [.expression e] => e.expand ctx
  | _ => .error (.notSingle text)

/-- What trying out a macro-string shows. -/
structure Trial where
  expanded : Option String
  isValid : Bool
  errors : List ExpansionError
  risk : Risk
  deriving DecidableEq, Repr

/-- Expands a text and says what is wrong with it, if anything. -/
def tryOut (ctx : Context) (text : String) : Except ExpansionError Trial :=
  match read text with
  | .error e => .error (.numeral e)
  | .ok r =>
    let risk := Risk.highest (r.expressions.map (·.risk))
    if r.faults.isEmpty then
      match expandPieces ctx r.pieces with
      | .ok s => .ok ⟨some s, !r.expressions.isEmpty, [], risk⟩
      | .error e => if e.isExpected then .ok ⟨none, false, [e], risk⟩ else .error e
    else .ok ⟨none, false, r.faults.map .malformed, risk⟩

end SenderPolicy.MacroString
