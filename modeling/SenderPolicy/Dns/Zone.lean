/-
  SenderPolicy.Dns.Zone — DNS data kept in a JSON value, as a source of answers.

  A zone maps names to record types and these to entries, and is looked up by the exact name and type. An
  entry holds what one of three transports brings: the answers themselves, the replies of a stub
  resolver, or those of a server for DNS over HTTPS. An entry may also differ from one question to the
  next, by failing the first few times.
  - `has_set`: a name stays known whatever is done to its entries.
-/

import SenderPolicy.Dns.Https
import SenderPolicy.Dns.Session
import SenderPolicy.Dns.Stub

namespace SenderPolicy.Dns

inductive Transport where
  | plain
  | stub
  | https
  deriving DecidableEq, Repr

/-- Each name with its entries by record type. -/
structure Zone where
  names : List (String × List (String × Json))

namespace Zone

def fieldsOf : Json → List (String × Json)
  | .obj fields => fields
  | _ => []

def ofJson (v : Json) : Zone := ⟨(fieldsOf v).map fun (name, types) => (name, fieldsOf types)⟩

def types? (z : Zone) (name : String) : Option (List (String × Json)) := (z.names.find? (·.1 == name)).map (·.2)

def has (z : Zone) (name : String) : Bool := (z.types? name).isSome

def entry? (z : Zone) (q : Question) : Option Json :=
  (z.types? q.name).bind fun types => (types.find? (·.1 == q.type)).map (·.2)

def drop (z : Zone) (name : String) : Zone := ⟨z.names.filter (·.1 != name)⟩

/-- Puts an entry in the place of another one, or removes it; the name stays in any case. -/
def set (z : Zone) (q : Question) (entry : Option Json) : Zone :=
  let kept := ((z.types? q.name).getD []).filter (·.1 != q.type)
  ⟨(z.drop q.name).names ++ [(q.name, kept ++ (entry.toList.map (q.type, ·)))]⟩

/-! ## Entries -/

def text? (v : Json) (name : String) : Option String :=
  match v.field? name with
  | some (.str s) => some s
  | _ => none

def texts : Json → List String
  | .arr items => items.filterMap fun
    | .str s => some s
    | _ => none
  | _ => []

/-- The entry that counts when the question has been asked so many times before. -/
def entryFor (asked : Nat) (entry : Json) : Json :=
  match entry.field? "fail_first" with
  | some (.num (.int n)) => if (asked : Int) < n then (entry.field? "failure").getD .null else (entry.field? "answer").getD .null
  | _ => entry

def failureKind? (name : String) : Option FailureKind :=
  (([("timeout", .timeout), ("servfail", .servFail), ("nxdomain", .nxDomain), ("noanswer", .noAnswer),
     ("malformed", .malformed), ("general", .general)] : List (String × FailureKind)).find? (·.1 == name)).map (·.2)

def plainOutcome (entry : Json) : Outcome :=
  let message := (text? entry "message").getD ""
  match text? entry "error", entry.field? "hang", entry.field? "after_hang" with
  | some error, _, _ =>
    match failureKind? error with
    | some kind => .failed ⟨kind, message⟩
    | none => .crashed (.broken message)
  | none, some _, _ => .silent
  | none, none, some answers => .answers (texts answers)
  | none, none, none => .answers (texts entry)

def stubProblem (name : String) : Stub.Problem :=
  ((([("timeout", .timedOut), ("nonameservers", .noNameserver), ("formerr", .badMessage), ("syntax", .badSyntax),
      ("toolong", .nameTooLong)] : List (String × Stub.Problem)).find? (·.1 == name)).map (·.2)).getD .other

/-- The bytes that hexadecimal digits spell, two digits a byte. -/
def hexBytes : List Char → ByteArray
  | a :: b :: rest =>
    ByteArray.mk #[UInt8.ofNat (16 * (Text.hexValue? a).getD 0 + (Text.hexValue? b).getD 0)] ++ hexBytes rest
  | _ => ByteArray.empty

def byteString (v : Json) : ByteArray :=
  match v with
  | .str s => s.toByteArray
  | v => hexBytes ((text? v "hex").getD "").toList

/-- A TXT record is one string or a list of them. -/
def byteStrings : Json → List ByteArray
  | .arr items => items.map byteString
  | v => [byteString v]

def seconds? : Json → Option Float
  | .num n => n.float?
  | _ => some 0

def stubReply (type : String) (entry : Json) : Stub.Reply :=
  match text? entry "error", entry.field? "timeout" with
  | some "nxdomain", _ => .noDomain
  | some "noanswer", _ => .noRecords
  | some error, _ => .problem (stubProblem error) (text? entry "message")
  | none, some t =>
    match seconds? t with
    | some s => .problem (.timedOutAfter s) none
    | none => .crash .endless
  | none, none =>
    match entry with
    | .arr items => if type = "TXT" then .strings (items.map byteStrings) else .written (texts entry)
    | _ => .written []

def httpsReply (entry : Json) : Https.Reply :=
  let message := (text? entry "message").getD ""
  match text? entry "error" with
  | some "timeout" => .timedOut message
  | some "notjson" => .notJson message
  | some _ => .unserved message
  | none => .body ((entry.field? "payload").getD .null)

/-- What a question for which there is no entry brings. -/
def missing (t : Transport) (known : Bool) (q : Question) : Outcome :=
  match t with
  | .https => Https.interpret q (.body (.obj [("Status", .int (if known then 0 else 3))]))
  | _ => .failed (if known then .noRecords q else .noDomain q.name)

def outcome (t : Transport) (q : Question) (entry : Json) : Outcome :=
  match t with
  | .plain => plainOutcome entry
  | .stub => Stub.interpret q (stubReply q.type entry)
  | .https => Https.interpret q (httpsReply entry)

def source (z : Zone) (t : Transport) : Source := fun q asked =>
  match z.entry? q with
  | none => missing t (z.has q.name) q
  | some entry => outcome t q (entryFor asked entry)

theorem has_set (z : Zone) (q : Question) (entry : Option Json) : (z.set q entry).has q.name = true := by
  have h : List.find? (fun e => e.1 == q.name) (z.drop q.name).names = none := by
    simp [drop, List.find?_eq_none]
  simp [has, types?, set, List.find?_append, h]

end Zone

end SenderPolicy.Dns
