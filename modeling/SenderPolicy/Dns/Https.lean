/-
  SenderPolicy.Dns.Https — replies of the JSON form of DNS over HTTPS.

  The body of a reply is an object with a status and a list of answers. Answers of other types than the
  one asked for are skipped; those that are left have to be texts, and for an address type addresses. A
  TXT answer is a row of quoted strings; text without any is taken as it stands. A reply without answers
  is a failure.
  - `length_segment?`: a quoted string is followed by less than it began in.
-/

import SenderPolicy.Address.Reader
import SenderPolicy.Dns.Question
import SenderPolicy.Json.Display
import SenderPolicy.Text.Blank

namespace SenderPolicy.Dns.Https

/-- The numbers of the record types. -/
def typeNumbers : List (String × Int) := [("A", 1), ("MX", 15), ("TXT", 16), ("AAAA", 28)]

def typeNumber? (type : String) : Option Int := (typeNumbers.find? (·.1 == type)).map (·.2)

/-! ## Quoted strings -/

/-- The string up to its closing quote, backslashes included, and what follows the quote. A backslash
takes the next character with it, which is no line end. -/
def segment? : List Char → Option (List Char × List Char)
  | [] => none
  | '"' :: rest => some ([], rest)
  | '\\' :: '\n' :: _ => none
  | '\\' :: c :: rest => (segment? rest).map fun (s, r) => ('\\' :: c :: s, r)
  | ['\\'] => none
  | c :: rest => (segment? rest).map fun (s, r) => (c :: s, r)

theorem length_segment? {cs s r : List Char} (h : segment? cs = some (s, r)) : r.length < cs.length := by
  fun_induction segment? cs generalizing s r with
  | case1 => simp at h
  | case2 rest => simp at h; simp [← h.2]
  | case3 => simp at h
  | case4 c rest _ ih =>
    obtain ⟨⟨s', r'⟩, h', he⟩ := Option.map_eq_some_iff.1 h
    simp only [Prod.mk.injEq] at he
    have := ih h'
    simp only [List.length_cons, ← he.2]
    omega
  | case5 => simp at h
  | case6 c rest _ _ _ _ ih =>
    obtain ⟨⟨s', r'⟩, h', he⟩ := Option.map_eq_some_iff.1 h
    simp only [Prod.mk.injEq] at he
    have := ih h'
    simp only [List.length_cons, ← he.2]
    omega

/-- The quoted strings of a text; what stands between them does not count. -/
def segments : List Char → List (List Char)
  | [] => []
  | c :: cs =>
    if c = '"' then
      match _h : segment? cs with
      | some (s, r) => s :: segments r
      | none => segments cs
    else segments cs
  termination_by cs => cs.length
  decreasing_by
    · have := length_segment? _h
      simp only [List.length_cons]; omega
    · simp
    · simp

/-- The string with its quotes no longer escaped. -/
def unescape : List Char → List Char
  | '\\' :: '"' :: rest => '"' :: unescape rest
  | c :: rest => c :: unescape rest
  | [] => []

/-- The text of a TXT answer. -/
def textOf (data : String) : String :=
  match segments data.toList with
  | [] => data
  | ss => String.ofList (ss.flatMap unescape)

/-! ## Answers -/

def badAnswer (q : Question) (shown : String) : Failure :=
  ⟨.malformed, s!"Malformed {q.type} answer for {q.name}: {shown}"⟩

/-- The text of an answer's data. -/
def readData (q : Question) (data : Json) : Except Failure String :=
  match data with
  | .str s =>
    if q.type = "TXT" then .ok (textOf s)
    else
      let s := Text.dropDots s
      if (q.type = "A" || q.type = "AAAA") && (Address.ofText? s).isNone then .error (badAnswer q (Text.quoted s))
      else .ok s
  | v => .error (badAnswer q v.inspect)

/-- The data of the answers of the wanted type. -/
def dataOf (wanted : Int) (answers : List Json) : List Json :=
  answers.filterMap fun a =>
    match a with
    | .obj _ => if ((a.field? "type").getD .null).equalsInt wanted then some ((a.field? "data").getD .null) else none
    | _ => none

def readAll (q : Question) : List Json → Except Failure (List String)
  | [] => .ok []
  | d :: ds => do
    let s ← readData q d
    let ss ← readAll q ds
    .ok (s :: ss)

/-- The items of the answer section; the parts of a text or an object are no answers. -/
def answerSection (answer : Json) : Except Crash (List Json) :=
  if !answer.isTruthy then .ok []
  else match answer with
    | .arr items => .ok items
    | .num (.int _) => .error (.notIterable "int")
    | .num (.real _) => .error (.notIterable "float")
    | .bool _ => .error (.notIterable "bool")
    | _ => .ok []

def status? (q : Question) (status : Json) : Option Failure :=
  if status.equalsInt 3 then some (.noDomain q.name)
  else if status.equalsInt 1 then some ⟨.malformed, s!"The query for {q.name} was malformed (FORMERR)."⟩
  else if status.equalsInt 0 then none
  else
    let code := status.display
    some ⟨.servFail, s!"The nameservers failed to answer {q.type} for {q.name} (RCODE {code})."⟩

def readBody (q : Question) (body : Json) : Outcome :=
  match status? q ((body.field? "Status").getD .null) with
  | some f => .failed f
  | none =>
    match typeNumber? q.type with
    | none => .crashed (.unknownType q.type)
    | some wanted =>
      match answerSection ((body.field? "Answer").getD .null) with
      | .error c => .crashed c
      | .ok items =>
        match readAll q (dataOf wanted items) with
        | .error f => .failed f
        | .ok [] => .failed (.noRecords q)
        | .ok texts => .answers texts

inductive Reply where
  | body (v : Json)
  | timedOut (text : String)
  /-- The connection failed, or the server refused to serve. -/
  | unserved (text : String)
  | notJson (text : String)

def interpret (q : Question) : Reply → Outcome
  | .body (.obj fields) => readBody q (.obj fields)
  | .body _ => .failed ⟨.malformed, "Invalid DNS-over-HTTPS response"⟩
  | .timedOut text => .failed ⟨.timeout, text⟩
  | .unserved text => .failed ⟨.servFail, text⟩
  | .notJson text => .failed ⟨.malformed, s!"Invalid DNS-over-HTTPS response: {text}"⟩

end SenderPolicy.Dns.Https
