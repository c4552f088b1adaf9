/-
  SenderPolicy.Json.Basic — JSON values.

  Whole numbers are kept apart from floats, and the fields of an object in the order they were written.
  Values come in as the context of a macro expansion and as answers of DNS over HTTPS, and go out as
  reports.
-/

import SenderPolicy.Decimal.Basic

namespace SenderPolicy

inductive Number where
  | int (i : Int)
  | real (x : Float)

/-- The number as a float, unless it is a whole number that is too large for one. -/
def Number.float? : Number → Option Float
  | .int i => Decimal.ofInt? i
  | .real x => some x

inductive Json where
  | null
  | bool (b : Bool)
  | num (n : Number)
  | str (s : String)
  | arr (items : List Json)
  | obj (fields : List (String × Json))

namespace Json

instance : Inhabited Json := ⟨.null⟩

def int (i : Int) : Json := .num (.int i)

def nat (n : Nat) : Json := .num (.int n)

def real (x : Float) : Json := .num (.real x)

def strings (ss : List String) : Json := .arr (ss.map .str)

def optional {α : Type} (f : α → Json) : Option α → Json
  | some a => f a
  | none => .null

/-- The value of a field; of two fields of one name the later one counts. -/
def field? (name : String) : Json → Option Json
  | .obj fields => (fields.reverse.find? (·.1 == name)).map (·.2)
  | _ => none

/-- Whether the value equals a whole number, as a number or as a truth value. -/
def equalsInt (i : Int) : Json → Bool
  | .num (.int j) => i == j
  | .num (.real x) => x == Float.ofInt i
  | .bool b => i == if b then 1 else 0
  | _ => false

/-- Whether the value is neither null, false, zero nor empty. -/
def isTruthy : Json → Bool
  | .null => false
  | .bool b => b
  | .num (.int i) => i != 0
  | .num (.real x) => x != 0
  | .str s => s != ""
  | .arr items => !items.isEmpty
  | .obj fields => !fields.isEmpty

end Json

end SenderPolicy
