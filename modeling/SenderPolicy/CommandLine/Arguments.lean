/-
  SenderPolicy.CommandLine.Arguments — options and operands on a command line.

  An argument that begins with a hyphen is an option, if it is not a negative number and holds no space;
  an option may be given by the beginning of a long name, with its value behind an equals sign, and a
  short option with its value directly behind it. Short options without values may share an argument.
  Behind `--` there are operands only, and as the value inside an argument `--` means that there is
  none. All operands have to stand together; those of a second group belong to nothing.
  - `group_flatten`: grouping the arguments behind their options loses none of them.
-/

import SenderPolicy.Sequence.Total
import SenderPolicy.Text.Digit
import SenderPolicy.Text.Quoted

namespace SenderPolicy.CommandLine

/-- How many values an option takes. -/
inductive Arity where
  | none
  | one
  | optional
  | many
  deriving DecidableEq, Repr

structure Flag (α : Type) where
  id : α
  names : List String
  arity : Arity

/-- The names of an option, as messages call it. -/
def Flag.title {α : Type} (f : Flag α) : String := "/".intercalate f.names

inductive UsageError where
  | ambiguous (argument : String) (names : List String)
  | expectedOne (option : String)
  | expectedSome (option : String)
  | unusedValue (option value : String)
  | invalid (option type value : String)
  | unrecognized (arguments : List String)
  | nothingToDo
  deriving DecidableEq, Repr

def UsageError.message : UsageError → String
  | .ambiguous argument names => s!"ambiguous option: {argument} could match " ++ ", ".intercalate names
  | .expectedOne option => s!"argument {option}: expected one argument"
  | .expectedSome option => s!"argument {option}: expected at least one argument"
  | .unusedValue option value => s!"argument {option}: ignored explicit argument {Text.quoted value}"
  | .invalid option type value => s!"argument {option}: invalid {type} value: {Text.quoted value}"
  | .unrecognized arguments => "unrecognized arguments: " ++ " ".intercalate arguments
  | .nothingToDo => "one or more domains or --record is required"

open Sequence (tally)

variable {α : Type}

/-! ## Telling options from operands -/

/-- An option where it stands: the one that is meant, if any, the name it goes by, and a value that is
part of the argument. -/
structure Occurrence (α : Type) where
  argument : String
  flag : Option (Flag α)
  name : String
  value : Option (List Char)

inductive Item (α : Type) where
  | operand (text : String)
  /-- The first `--`. -/
  | terminator
  | occurrence (o : Occurrence α)

/-- The options that go by a name. -/
def named (flags : List (Flag α)) : List (String × Flag α) := flags.flatMap fun f => f.names.map (·, f)

def find? (flags : List (Flag α)) (name : String) : Option (Flag α) :=
  ((named flags).find? (·.1 == name)).map (·.2)

/-- The texts before and behind the first equals sign. -/
def splitValue (cs : List Char) : List Char × Option (List Char) :=
  match cs.dropWhile (· != '=') with
  | [] => (cs, none)
  | _ :: value => (cs.takeWhile (· != '='), some value)

def isLong (cs : List Char) : Bool := "--".toList.isPrefixOf cs

/-- The options that an argument may abbreviate, each with the name and the value it then has. -/
def candidates (flags : List (Flag α)) (argument : String) : List (Occurrence α) :=
  let cs := argument.toList
  if isLong cs then
    let (name, value) := splitValue cs
    ((named flags).filter fun f => name.isPrefixOf f.1.toList).map fun f => ⟨argument, some f.2, f.1, value⟩
  else
    (named flags).filterMap fun f =>
      if f.1.toList == cs.take 2 then some ⟨argument, some f.2, f.1, some (cs.drop 2)⟩
      else if cs.isPrefixOf f.1.toList then some ⟨argument, some f.2, f.1, none⟩
      else none

/-- A minus sign and digits, maybe with a point among them or in front. -/
def isNegativeNumber (cs : List Char) : Bool :=
  match cs with
  | '-' :: ds =>
    let ds := if ds.getLast? == some '\n' then ds.dropLast else ds
    match ds.dropWhile Text.isDecimal with
    | [] => !ds.isEmpty
    | '.' :: fraction => !fraction.isEmpty && fraction.all Text.isDecimal
    | _ => false
  | _ => false

def spelled? (flags : List (Flag α)) (argument : String) : Option (Occurrence α) :=
  match find? flags argument with
  | some f => some ⟨argument, some f, argument, none⟩
  | none =>
    match splitValue argument.toList with
    | (name, some value) =>
      (find? flags (String.ofList name)).map fun f => ⟨argument, some f, String.ofList name, some value⟩
    | _ => none

def classify (flags : List (Flag α)) (argument : String) : Except UsageError (Item α) :=
  let cs := argument.toList
  if cs.head? != some '-' || cs.length == 1 then .ok (.operand argument)
  else match spelled? flags argument with
    | some o => .ok (.occurrence o)
    | none =>
      match candidates flags argument with
      | [o] => .ok (.occurrence o)
      | [] =>
        if isNegativeNumber cs || cs.contains ' ' then .ok (.operand argument)
        else .ok (.occurrence ⟨argument, none, argument, none⟩)
      | os => .error (.ambiguous argument (os.map (·.name)))

def classifyAll (flags : List (Flag α)) : List String → Except UsageError (List (Item α))
  | [] => .ok []
  | a :: as =>
    if a = "--" then .ok (.terminator :: as.map .operand)
    else do
      let i ← classify flags a
      let is ← classifyAll flags as
      .ok (i :: is)

/-! ## Values -/

/-- The operands in front of the first option, and each option with those behind it; the terminator
counts as an operand without text. -/
def group : List (Item α) → List (Option String) × List (Occurrence α × List (Option String))
  | [] => ([], [])
  | .operand text :: rest => ((some text :: (group rest).1), (group rest).2)
  | .terminator :: rest => ((none :: (group rest).1), (group rest).2)
  | .occurrence o :: rest => ([], (o, (group rest).1) :: (group rest).2)

/-- An option, the name it was given by, and its values. -/
structure Setting (α : Type) where
  flag : Flag α
  name : String
  values : List String

/-- What one argument stands for: the settings in it, and the operands that are left behind it. -/
structure Taken (α : Type) where
  settings : List (Setting α)
  operands : List (Option String)

/-- Takes the values of an option from the operands that follow it. -/
def takeFollowing (f : Flag α) (name : String) (run : List (Option String)) : Except UsageError (Taken α) :=
  let texts := (run.takeWhile Option.isSome).filterMap id
  match f.arity with
  | .none => .ok ⟨[⟨f, name, []⟩], run⟩
  | .one =>
    match texts with
    | t :: _ => .ok ⟨[⟨f, name, [t]⟩], run.drop 1⟩
    | [] => .error (.expectedOne f.title)
  | .optional => .ok ⟨[⟨f, name, texts.take 1⟩], run.drop (texts.take 1).length⟩
  | .many =>
    if texts.isEmpty then .error (.expectedSome f.title) else .ok ⟨[⟨f, name, texts⟩], run.drop texts.length⟩

/-- The value that a text inside an argument gives. -/
def attached (text : List Char) : List String := if text = ['-', '-'] then [] else [String.ofList text]

/-- Takes the value of an option from its own argument. Behind a short option without a value the text
begins with the character of another one. -/
def takeAttached (flags : List (Flag α)) (f : Flag α) (name : String) (text : List Char)
    (run : List (Option String)) : Except UsageError (Taken α) :=
  let unused := UsageError.unusedValue f.title (String.ofList text)
  if f.arity ≠ .none then .ok ⟨[⟨f, name, attached text⟩], run⟩
  else match text with
    | [] => .error unused
    | c :: rest =>
      if isLong name.toList then .error unused
      else
        let next := String.ofList ['-', c]
        match find? flags next with
        | none => .error unused
        | some g =>
          let taken := if rest.isEmpty then takeFollowing g next run else takeAttached flags g next rest run
          taken.map fun t => { t with settings := ⟨f, name, []⟩ :: t.settings }
termination_by text.length

def take (flags : List (Flag α)) (f : Flag α) (o : Occurrence α) (run : List (Option String)) :
    Except UsageError (Taken α) :=
  match o.value with
  | none => takeFollowing f o.name run
  | some text => takeAttached flags f o.name text run

/-! ## The whole line -/

/-- What was read of a command line, up to the first fault in it. -/
structure Parsed (α : Type) where
  settings : List (Setting α)
  /-- The first group of operands. -/
  operands : Option (List String)
  unrecognized : List String
  fault : Option UsageError

def written : Option String → String
  | some t => t
  | none => "--"

/-- Operands are taken in one group; the terminator is not part of them. -/
def Parsed.addRun (p : Parsed α) (run : List (Option String)) : Parsed α :=
  if run.isEmpty then p
  else match p.operands with
    | none => { p with operands := some (run.filterMap id) }
    | some _ => { p with unrecognized := p.unrecognized ++ run.map written }

def parseGroups (flags : List (Flag α)) (p : Parsed α) : List (Occurrence α × List (Option String)) → Parsed α
  | [] => p
  | (o, run) :: rest =>
    match o.flag with
    | none => parseGroups flags (Parsed.addRun { p with unrecognized := p.unrecognized ++ [o.argument] } run) rest
    | some f =>
      match take flags f o run with
      | .error e => { p with fault := some e }
      | .ok t =>
        parseGroups flags (Parsed.addRun { p with settings := p.settings ++ t.settings } t.operands) rest

def parse (flags : List (Flag α)) (arguments : List String) : Parsed α :=
  match classifyAll flags arguments with
  | .error e => ⟨[], none, [], some e⟩
  | .ok items =>
    let (run, groups) := group items
    parseGroups flags (Parsed.addRun ⟨[], none, [], none⟩ run) groups

theorem group_flatten (items : List (Item α)) :
    (group items).1.length + tally (fun g => 1 + g.2.length) (group items).2 = items.length := by
  induction items with
  | nil => rfl
  | cons i is ih =>
    cases i <;> simp only [group, List.length_cons, List.length_nil, tally] <;> omega

end SenderPolicy.CommandLine
