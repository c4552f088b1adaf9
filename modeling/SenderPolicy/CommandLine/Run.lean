/-
  SenderPolicy.CommandLine.Run — one run of the program, from its arguments to what it leaves behind.

  A run sees the files of its directory, the DNS and the time, and nothing else. It prints its report,
  or writes it to files whose names end in `.json` or `.csv`; other names are passed over. A single
  operand that is the name of a file stands for the domains in its lines.
  - `linesOf_join`: the lines of a text are all of it.
-/

import SenderPolicy.CommandLine.Options
import SenderPolicy.Dns.Zone
import SenderPolicy.Installed
import SenderPolicy.Json.Pretty
import SenderPolicy.Report.Table

namespace SenderPolicy.CommandLine

/-- What stands under a name. -/
inductive File where
  | missing
  | directory
  | text (content : String)
  /-- Nothing, since a file stands where a directory of the name would have to be. -/
  | blocked
  deriving DecidableEq, Repr

structure World where
  file : String → File
  source : Dns.Transport → Dns.Source
  /-- In seconds. -/
  now : Int
  settings : Settings

structure Result where
  exit : Nat
  output : String
  usageError : Option UsageError
  /-- Names and contents of the files that are written. -/
  files : List (String × String)
  deriving DecidableEq, Repr

inductive RunError where
  /-- An option that needs a value was given without one. -/
  | withoutValue (option : Name)
  | analysis (e : Check.AnalysisError)
  | check (e : Check.CheckError)
  | badCache
  | isDirectory (name : String)
  | noDirectory (name : String)
  /-- A file stands where a directory has to be. -/
  | notDirectory (name : String)
  | nullInName (name : String)
  | nameTooLong (name : String)
  deriving DecidableEq, Repr

/-! ## Domains -/

/-- A text with every line end written as a line feed. -/
def unifyLines : List Char → List Char
  | '\r' :: '\n' :: cs => '\n' :: unifyLines cs
  | '\r' :: cs => '\n' :: unifyLines cs
  | c :: cs => c :: unifyLines cs
  | [] => []

/-- The lines of a text, each with its line feed. -/
def linesOf : List Char → List (List Char)
  | [] => []
  | c :: cs =>
    if c = '\n' then ['\n'] :: linesOf cs
    else match linesOf cs with
      | [] => [[c]]
      | l :: ls => (c :: l) :: ls

def domainsOf (w : World) : List String → Except RunError (List String)
  | [name] =>
    match w.file name with
    | .missing | .blocked => .ok [name]
    | .directory => .error (.isDirectory name)
    | .text content => .ok ((linesOf (unifyLines content.toList)).map String.ofList)
  | names => .ok names

/-! ## Reports -/

/-- The reports of a run; the report on a single domain stands alone. -/
inductive Reports where
  | one (i : Report.Item)
  | many (is : List Report.Item)

def Reports.items : Reports → List Report.Item
  | .one i => [i]
  | .many is => is

def Reports.json : Reports → Json
  | .one i => i.json
  | .many is => .arr (is.map (·.json))

def Reports.csv (r : Reports) : String := Report.csv (r.items.map Report.row)

def Reports.ofChecks (cs : List Check.DomainCheck) : Reports :=
  match cs with
  | [c] => .one (.check c)
  | cs => .many (cs.map .check)

def checkOptions (w : World) (o : Options) : Check.Options where
  limits := Flatten.Limits.new o.recursive o.maxDepth (o.flattenTimeout.map .real) o.workers
  pause := o.wait.map .real
  share := none
  context := .sample w.now

/-- The client of a run and its empty memory. -/
def clientOf (w : World) (o : Options) : Except RunError (Dns.Client × Dns.Memory) :=
  match o.timeout, Dns.Cache.new w.settings.cacheCapacity (.int w.settings.cacheAge) with
  | none, _ => .error (.withoutValue .timeout)
  | some _, .error _ => .error .badCache
  | some _, .ok cache => .ok (⟨o.retries, w.source (if o.overHttps then .https else .stub)⟩, ⟨cache, []⟩)

def checkReports (w : World) (o : Options) : Except RunError Reports := do
  let lines ← domainsOf w o.domains
  let (client, memory) ← clientOf w o
  match ((Check.checkDomains (checkOptions w o) client.query lines).run memory).1 with
  | .error e => .error (.check e)
  | .ok cs => .ok (.ofChecks cs)

def reports (w : World) (o : Options) : Except RunError Reports :=
  match o.record with
  | some (some text) =>
    match Check.analyze (.sample w.now) text with
    | .error e => .error (.analysis e)
    | .ok a => .ok (.one (.analysis a))
  | some none => .error (.withoutValue .record)
  | none => checkReports w o

/-! ## Output -/

/-- The report as it is printed; any format but JSON and CSV shows the plain value. -/
def Reports.text (r : Reports) (format : String) : String :=
  let format := Text.lower format
  if format = "json" then r.json.pretty
  else if format = "csv" then r.csv
  else r.json.inspect

def hasEnding (ending name : String) : Bool := ending.toList.isSuffixOf (Text.lowerChars name.toList)

/-- The content for a file, if its name says which form it has. -/
def Reports.contentFor (r : Reports) (name : String) : Option String :=
  if hasEnding ".json" name then some r.json.pretty
  else if hasEnding ".csv" name then some r.csv
  else none

/-- The parts of a name up to each of its slashes, the shortest one first. -/
def parents (name : String) : List String :=
  let parts := name.toList.splitOn '/'
  (List.range (parts.length - 1)).map fun n => String.ofList ((parts.take (n + 1)).flatMap (· ++ ['/']))

/-- Whether some part between the slashes of a name has more than 255 bytes. -/
def hasLongPart (name : String) : Bool := (name.toList.splitOn '/').any fun p => (String.ofList p).utf8ByteSize > 255

/-- Why nothing can stand below a name. -/
def obstacle? (w : World) (name parent : String) : Option RunError :=
  if hasLongPart parent then some (.nameTooLong name)
  else match w.file parent with
    | .directory => none
    | .missing => some (.noDirectory name)
    | .text _ | .blocked => some (.notDirectory name)

/-- Why no file of this name can be written. -/
def refusal? (w : World) (name : String) : Option RunError :=
  if name.toList.contains '\x00' then some (.nullInName name)
  else if name.utf8ByteSize ≥ 4096 then some (.nameTooLong name)
  else match (parents name).findSome? (obstacle? w name) with
    | some e => some e
    | none =>
      if hasLongPart name then some (.nameTooLong name)
      else if w.file name = .directory then some (.isDirectory name)
      else none

/-- The world with a file of this name and content. -/
def World.write (w : World) (name content : String) : World :=
  { w with file := fun n => if n = name then .text content else if n = name ++ "/" then .blocked else w.file n }

def writeAll (w : World) (r : Reports) : List String → Except RunError (List (String × String))
  | [] => .ok []
  | name :: names =>
    match r.contentFor name with
    | none => writeAll w r names
    | some content =>
      match refusal? w name with
      | some e => .error e
      | none => (writeAll (w.write name content) r names).map ((name, content) :: ·)

def finish (w : World) (o : Options) (r : Reports) : Except RunError Result :=
  match o.outputs, o.format with
  | none, some format => .ok ⟨0, r.text format ++ "\n", none, []⟩
  | none, none => .error (.withoutValue .format)
  | some names, _ => (writeAll w r names).map fun files => ⟨0, "", none, files⟩

def run (w : World) (arguments : List String) : Except RunError Result :=
  match Options.read w.settings arguments with
  | .error .help => .ok ⟨0, "", none, []⟩
  | .error .version => .ok ⟨0, Settings.version ++ "\n", none, []⟩
  | .error (.usage e) => .ok ⟨2, "", some e, []⟩
  | .ok o =>
    match reports w o with
    | .error e => .error e
    | .ok r => finish w o r

theorem linesOf_join (cs : List Char) : (linesOf cs).flatten = cs := by
  induction cs with
  | nil => rfl
  | cons c cs ih =>
    unfold linesOf
    split
    · simp_all
    · split
      · rename_i h
        rw [h] at ih
        simp [← ih]
      · rename_i h
        rw [h] at ih
        simp [← ih]

end SenderPolicy.CommandLine
