/-
  SenderPolicy.CommandLine.Options — what a command line asks this program to do.

  Settings are taken in the order in which they are written, so of two settings of one option the later
  one counts, and the first thing that ends the run is the one that is reported: a value that cannot be
  read, the question for the version, or a fault of the line itself.
  - `read_nil`: with no arguments there is nothing to do.
-/

import SenderPolicy.CommandLine.Arguments
import SenderPolicy.Settings

namespace SenderPolicy.CommandLine

inductive Name where
  | help
  | record
  | recursive
  | maxDepth
  | format
  | output
  | nameserver
  | https
  | timeout
  | retries
  | flattenTimeout
  | workers
  | version
  | wait
  | debug
  deriving DecidableEq, Repr

def flags : List (Flag Name) :=
  [⟨.help, ["-h", "--help"], .none⟩, ⟨.record, ["-r", "--record"], .one⟩,
    ⟨.recursive, ["--recursive", "--no-recursive"], .none⟩, ⟨.maxDepth, ["--max-depth"], .one⟩,
    ⟨.format, ["-f", "--format"], .one⟩, ⟨.output, ["-o", "--output"], .many⟩,
    ⟨.nameserver, ["-n", "--nameserver"], .many⟩, ⟨.https, ["--doh"], .optional⟩,
    ⟨.timeout, ["-t", "--timeout"], .one⟩, ⟨.retries, ["--timeout-retries"], .one⟩,
    ⟨.flattenTimeout, ["--flatten-timeout"], .one⟩, ⟨.workers, ["--workers"], .one⟩,
    ⟨.version, ["-v", "--version"], .none⟩, ⟨.wait, ["-w", "--wait"], .one⟩, ⟨.debug, ["--debug"], .none⟩]

/-- The options of a run; one that was given without a value is `none`. -/
structure Options where
  /-- The record to look at, if it is asked for. -/
  record : Option (Option String)
  recursive : Bool
  maxDepth : Option Int
  format : Option String
  outputs : Option (List String)
  /-- Whether the DNS is asked over HTTPS. -/
  overHttps : Bool
  /-- The seconds for one question. -/
  timeout : Option Float
  retries : Option Int
  flattenTimeout : Option Float
  workers : Option Int
  /-- The seconds between two domains. -/
  wait : Option Float
  domains : List String

def Options.usual (s : Settings) : Options where
  record := none
  recursive := true
  maxDepth := some s.maxDepth
  format := some "json"
  outputs := none
  overHttps := false
  timeout := some Settings.questionTimeout
  retries := some Settings.retries
  flattenTimeout := some s.timeout
  workers := some s.workers
  wait := some 0
  domains := []

/-- Why a run is over before it has begun. -/
inductive Stop where
  | help
  | version
  | usage (e : UsageError)
  deriving DecidableEq, Repr

/-- The number that is the value of a setting, if it has one. -/
def numberOf {α : Type} (read : String → Except Text.NumeralError α) (type : String) (s : Setting Name) :
    Except Stop (Option α) :=
  match s.values with
  | [] => .ok none
  | text :: _ =>
    match read text with
    | .ok a => .ok (some a)
    | .error _ => .error (.usage (.invalid s.flag.title type text))

def intOf (s : Setting Name) : Except Stop (Option Int) := numberOf Text.readInt "int" s

def realOf (s : Setting Name) : Except Stop (Option Float) := numberOf Text.readReal "float" s

/-- What a setting makes of the options. -/
def Options.apply (o : Options) (s : Setting Name) : Except Stop Options :=
  match s.flag.id with
  | .help => .error .help
  | .version => .error .version
  | .record => .ok { o with record := some s.values.head? }
  | .recursive => .ok { o with recursive := s.name == "--recursive" }
  | .maxDepth => (intOf s).map fun i => { o with maxDepth := i }
  | .format => .ok { o with format := s.values.head? }
  | .output => .ok { o with outputs := some s.values }
  | .https => .ok { o with overHttps := true }
  | .timeout => (realOf s).map fun x => { o with timeout := x }
  | .retries => (intOf s).map fun i => { o with retries := i }
  | .flattenTimeout => (realOf s).map fun x => { o with flattenTimeout := x }
  | .workers => (intOf s).map fun i => { o with workers := i }
  | .wait => (realOf s).map fun x => { o with wait := x }
  | .nameserver | .debug => .ok o

def Options.applyAll (o : Options) : List (Setting Name) → Except Stop Options
  | [] => .ok o
  | s :: ss => do (← o.apply s).applyAll ss

def Options.read (usual : Settings) (arguments : List String) : Except Stop Options := do
  let parsed := parse flags arguments
  let o ← (Options.usual usual).applyAll parsed.settings
  let o := { o with domains := parsed.operands.getD [] }
  match parsed.fault with
  | some e => .error (.usage e)
  | none =>
    if !parsed.unrecognized.isEmpty then .error (.usage (.unrecognized parsed.unrecognized))
    else if o.record.isNone && o.domains.isEmpty then .error (.usage .nothingToDo)
    else .ok o

theorem read_nil (usual : Settings) : Options.read usual [] = .error (.usage .nothingToDo) := rfl

end SenderPolicy.CommandLine
