/-
  SenderPolicy.Domain.Name — domain names as keys.

  A name is normalised by composing its characters, removing zero-width ones, stripping white space
  and lowering it. Its key, under which results are kept and looked up, has no dot at the end either.
-/

import SenderPolicy.Text.Blank
import SenderPolicy.Text.Case
import SenderPolicy.Text.Compose

namespace SenderPolicy.Domain

open Text

/-- The zero-width space, joiners and no-break space. -/
def isZeroWidth (c : Char) : Bool := (0x200b ≤ c.toNat && c.toNat ≤ 0x200d) || c.toNat == 0xfeff

def normalizeChars (cs : List Char) : List Char :=
  lowerChars (trim isBlank ((composeChars cs).filter (!isZeroWidth ·)))

def normalize (name : String) : String := String.ofList (normalizeChars name.toList)

def key (name : String) : String := dropDots (normalize name)

def labels (name : String) : List String := (name.toList.splitOn '.').map String.ofList

example : normalize " Example.COM. " = "example.com." := by decide
example : key "Example.COM.." = "example.com" := by decide

end SenderPolicy.Domain
