/-
  SenderPolicy.Main — the program.

  Its DNS is a zone in a JSON file, which the variable `SPF_ZONE` names; without it no name exists. With
  `SPF_ZONE_FORM=https` the entries are replies over HTTPS, and otherwise those of a stub resolver. The
  time is that of `SOURCE_DATE_EPOCH`.
-/

import SenderPolicy.CommandLine.Run
import SenderPolicy.Json.Reader

namespace SenderPolicy.CommandLine

/-- What stands under a name now; 21 is the number of the fault that it is a directory. -/
def fileNow (name : String) : BaseIO (String × File) := do
  match ← (IO.FS.readFile name).toBaseIO with
  | .ok content => return (name, .text content)
  | .error (.inappropriateType _ code _) => return (name, if code = 21 then .directory else .blocked)
  | .error _ => return (name, .missing)

def zoneNow : BaseIO Dns.Zone := do
  let some name ← IO.getEnv "SPF_ZONE" | return ⟨[]⟩
  match ← fileNow name with
  | (_, .text content) => return Dns.Zone.ofJson ((Json.ofText? content).getD .null)
  | _ => return ⟨[]⟩

def settingsNow : IO Settings := do
  let names := ["DNS_CACHE_MAX_LEN", "DNS_CACHE_MAX_AGE_SECONDS", "DOH_URL", "SPF_FLATTEN_MAX_DEPTH",
    "SPF_FLATTEN_TIMEOUT", "SPF_FLATTEN_MAX_WORKERS"]
  let values ← names.mapM fun n => return (n, ← IO.getEnv n)
  match Settings.ofEnvironment fun n => (values.find? (·.1 == n)).bind (·.2) with
  | .ok s => return s
  | .error e => throw (.userError e.message)

/-- The names that a run may ask about: those of its operands and outputs, and of the directories they are in. -/
def namesIn (settings : Settings) (arguments : List String) : List String :=
  match Options.read settings arguments with
  | .error _ => []
  | .ok o =>
    let names := o.domains ++ o.outputs.getD []
    names ++ names.flatMap parents

def worldNow (arguments : List String) : IO World := do
  let settings ← settingsNow
  let files ← (namesIn settings arguments).mapM fun n => fileNow n
  let zone ← zoneNow
  let form ← IO.getEnv "SPF_ZONE_FORM"
  let seconds ← IO.getEnv "SOURCE_DATE_EPOCH"
  return {
    file := fun n => ((files.find? (·.1 == n)).map (·.2)).getD .missing
    source := fun _ => zone.source (if form == some "https" then .https else .stub)
    now := ((seconds.bind fun s => (Text.readInt s).toOption)).getD 0
    settings := settings }

/-- How an option is written, in all its spellings. -/
def Name.title (option : Name) : String := ((flags.find? (·.id == option)).map Flag.title).getD ""

def RunError.text : RunError → String
  | .withoutValue option => s!"{option.title} needs a value"
  | .analysis _ => "the record cannot be analysed"
  | .check _ => "the check was broken off"
  | .badCache => "the cache needs room and an age"
  | .isDirectory name => s!"{name} is a directory"
  | .noDirectory name => s!"there is no directory for {name}"
  | .notDirectory name => s!"a file stands in the place of a directory of {name}"
  | .nullInName _ => "no file has a name with a null character"
  | .nameTooLong name => s!"the name {name} is too long"

end SenderPolicy.CommandLine

open SenderPolicy.CommandLine in
def main (arguments : List String) : IO UInt32 := do
  match run (← worldNow arguments) arguments with
  | .error e => throw (.userError e.text)
  | .ok r =>
    IO.print r.output
    if let some e := r.usageError then IO.eprintln e.message
    for (name, content) in r.files do
      IO.FS.writeFile name content
    return r.exit.toUInt32
