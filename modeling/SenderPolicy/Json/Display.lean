/-
  SenderPolicy.Json.Display — a value inside the text of a message.

  Truth values and null are written as capitalised words, texts in quotes, and lists and objects with
  their parts between brackets. A text that makes up the whole value is shown as it is.
-/

import SenderPolicy.Json.Basic
import SenderPolicy.Decimal.Text
import SenderPolicy.Text.Quoted

namespace SenderPolicy

def Number.text : Number → String
  | .int i => toString i
  | .real x => Decimal.text x

namespace Json

mutual

/-- The value with texts in quotes. -/
def inspect : Json → String
  | .null => "None"
  | .bool true => "True"
  | .bool false => "False"
  | .num n => n.text
  | .str s => Text.quoted s
  | .arr items => "[" ++ ", ".intercalate (inspectItems items) ++ "]"
  | .obj fields => "\x7b" ++ ", ".intercalate (inspectFields fields) ++ "\x7d"

def inspectItems : List Json → List String
  | [] => []
  | v :: vs => inspect v :: inspectItems vs

def inspectFields : List (String × Json) → List String
  | [] => []
  | (k, v) :: fs => (Text.quoted k ++ ": " ++ inspect v) :: inspectFields fs

end

def display : Json → String
  | .str s => s
  | v => inspect v

end Json

end SenderPolicy
