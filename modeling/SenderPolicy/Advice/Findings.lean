/-
  SenderPolicy.Advice.Findings — what can be improved in a record without asking the DNS.

  Includes cost lookups that come close to the limit, mechanisms may repeat each other or list networks
  that overlap, networks may be joined to fewer ones, and `ptr` should not be used at all. Findings come
  with the most severe first, and of equal severity those that save the most.
  - `mem_duplicatesAfter`: every duplicate is a mechanism of the record.
-/

import SenderPolicy.Address.Lists
import SenderPolicy.Record.Basic
import SenderPolicy.Text.Case

namespace SenderPolicy.Advice

inductive Severity where
  | low
  | medium
  | high
  deriving DecidableEq, Repr

def Severity.rank : Severity → Nat
  | .low => 1
  | .medium => 2
  | .high => 3

def Severity.name : Severity → String
  | .low => "low"
  | .medium => "medium"
  | .high => "high"

inductive Finding where
  | flattenInclude (m : Mechanism)
  /-- An earlier mechanism has the same kind and value. -/
  | duplicate (m : Mechanism)
  | overlap (value other : String)
  /-- The networks of one kind fit into fewer blocks. -/
  | consolidation (kind : Mechanism.Kind) (values blocks : List String)
  | pointer (m : Mechanism)
  deriving DecidableEq, Repr

namespace Finding

def severity : Finding → Severity
  | .flattenInclude _ | .pointer _ => .high
  | _ => .low

/-- The lookups that the mechanism at fault costs, all of which are saved. -/
def savings : Finding → Int
  | .flattenInclude m | .duplicate m | .pointer m => m.lookups
  | _ => 0

def shown (value : Option String) : String := value.getD "None"

def mechanism : Finding → String
  | .flattenInclude m | .duplicate m | .pointer m => m.text
  | .overlap value other => s!"{value} and {other}"
  | .consolidation _ values _ => ", ".intercalate values

def description : Finding → String
  | .flattenInclude m =>
    s!"Consider flattening {shown m.value} as the record is approaching the {Budget.limit} DNS lookup limit"
  | .duplicate m => s!"Duplicate {m.kind.name} mechanism found"
  | .overlap _ _ => "Overlapping IP ranges detected"
  | .consolidation kind values blocks =>
    s!"{values.length} {kind.name} mechanisms can be consolidated into {blocks.length} CIDR blocks"
  | .pointer _ => "The ptr mechanism is deprecated, slow, and unreliable"

def implementation : Finding → String
  | .flattenInclude m =>
    s!"Resolve the SPF record of {shown m.value} and replace the include with ip4/ip6 mechanisms. The addresses must be monitored for changes."
  | .duplicate m => s!"Remove the duplicate \"{m.text}\" mechanism"
  | .overlap value other => s!"Consolidate overlapping IP ranges: {value} and {other}"
  | .consolidation kind _ blocks => " ".intercalate (blocks.map fun b => kind.name ++ ":" ++ b)
  | .pointer _ => "Remove the ptr mechanism and list the authorized sending IPs with ip4/ip6 mechanisms (RFC 7208 § 5.5)"

/-- The more severe one comes first, then the one that saves more. -/
def le (a b : Finding) : Bool :=
  if a.severity.rank ≠ b.severity.rank then a.severity.rank > b.severity.rank else a.savings ≥ b.savings

end Finding

/-! ## Repetitions and overlaps -/

/-- Mechanisms with one key are duplicates. -/
def duplicateKey (m : Mechanism) : String × String := (m.kind.name, Text.lower (m.value.getD ""))

/-- The mechanisms that repeat an earlier one; `seen` holds the keys so far. -/
def duplicatesAfter (seen : List (String × String)) : List Mechanism → List Mechanism
  | [] => []
  | m :: ms =>
    let rest := duplicatesAfter (duplicateKey m :: seen) ms
    if seen.contains (duplicateKey m) then m :: rest else rest

def duplicates (ms : List Mechanism) : List Mechanism := duplicatesAfter [] ms

def isNetworkKind (k : Mechanism.Kind) : Bool := k == .ip4 || k == .ip6

/-- The values that are networks, with these. -/
def networksOf (ms : List Mechanism) : List (String × Network) :=
  (ms.filter (isNetworkKind ·.kind)).filterMap fun m =>
    m.value.bind fun v => (Network.ofText? v).map fun n => (v, n)

/-- Pairs of different networks that share an address. -/
def overlapping : List (String × Network) → List (String × String)
  | [] => []
  | (v, n) :: rest =>
    (rest.filter fun o => n ≠ o.2 && n.overlaps o.2).map (fun o => (v, o.1)) ++ overlapping rest

def redundancies (ms : List Mechanism) : List Finding :=
  (duplicates ms).map .duplicate ++ (overlapping (networksOf ms)).map fun (v, o) => .overlap v o

/-! ## Consolidation -/

/-- A mechanism that needs a value has none. -/
structure MissingValue where
  deriving DecidableEq, Repr

/-- The values up to the first one that is missing or no network, and whether it is missing. -/
inductive Values where
  | networks (values : List String)
  | missing
  | notNetwork
  deriving DecidableEq, Repr

def Values.read : List (Option String) → Values
  | [] => .networks []
  | none :: _ => .missing
  | some v :: vs =>
    if (Network.ofText? (Text.strip v)).isNone then .notNetwork
    else match Values.read vs with
      | .networks values => .networks (v :: values)
      | r => r

/-- The finding that the networks of a kind that let mail pass fit into fewer blocks. -/
def consolidationOf (ms : List Mechanism) (kind : Mechanism.Kind) : Except MissingValue (List Finding) :=
  match Values.read ((ms.filter fun m => m.kind == kind && m.qualifier == .pass).map (·.value)) with
  | .missing => .error ⟨⟩
  | .notNetwork => .ok []
  | .networks values =>
    match Network.consolidate values with
    | .error _ => .ok []
    | .ok blocks =>
      .ok (if blocks.length < values.eraseDups.length then [.consolidation kind values blocks] else [])

def consolidations (ms : List Mechanism) : Except MissingValue (List Finding) := do
  let v4 ← consolidationOf ms .ip4
  let v6 ← consolidationOf ms .ip6
  .ok (v4 ++ v6)

/-! ## All findings -/

/-- Includes that could be flattened, if the record costs enough for that to matter. -/
def flattenable (r : Record) : List Finding :=
  if r.totalLookups ≥ Budget.warning then
    (r.mechanisms.filter fun m => m.kind == .incl && !m.hasMacros).map .flattenInclude
  else []

def findings (r : Record) : Except MissingValue (List Finding) := do
  let joined ← consolidations r.mechanisms
  let pointers := (r.mechanisms.filter (·.kind == .ptr)).map Finding.pointer
  .ok (Sequence.sort Finding.le (flattenable r ++ redundancies r.mechanisms ++ joined ++ pointers))

theorem mem_duplicatesAfter {seen : List (String × String)} {ms : List Mechanism} {m : Mechanism}
    (h : m ∈ duplicatesAfter seen ms) : m ∈ ms := by
  induction ms generalizing seen with
  | nil => simp [duplicatesAfter] at h
  | cons a as ih =>
    unfold duplicatesAfter at h
    dsimp only at h
    split at h
    · rcases List.mem_cons.1 h with rfl | h
      · exact List.mem_cons_self
      · exact List.mem_cons_of_mem _ (ih h)
    · exact List.mem_cons_of_mem _ (ih h)

end SenderPolicy.Advice
