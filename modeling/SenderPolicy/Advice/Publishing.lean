/-
  SenderPolicy.Advice.Publishing — whether a record can be published.

  A TXT record is made of strings of at most 255 characters, and the whole answer should fit into one
  UDP packet, with room to spare.
  - `flatten_chunks`: the strings one after the other are the record.
-/

import SenderPolicy.Record.Reader

namespace SenderPolicy.Advice

def maxStringLength : Nat := 255

def recommendedBytes : Nat := 450

def maxBytes : Nat := 512

/-- Pieces of at most 255 characters. -/
def chunks (cs : List Char) : List (List Char) :=
  (List.range ((cs.length + (maxStringLength - 1)) / maxStringLength)).map fun i =>
    (cs.drop (maxStringLength * i)).take maxStringLength

/-- The strings that a record is published as; the empty record is one empty string. -/
def txtStrings (record : String) : List String :=
  if record = "" then [""] else (chunks record.toList).map String.ofList

inductive SizeWarning where
  | severalStrings (length strings : Nat)
  | tooLarge (bytes : Nat)
  | nearlyTooLarge (bytes : Nat)
  deriving DecidableEq, Repr

def SizeWarning.message : SizeWarning → String
  | .severalStrings length strings =>
    s!"The SPF record is {length} characters long and must be published as {strings} strings of at most {maxStringLength} characters"
  | .tooLarge bytes => s!"The SPF record is {bytes} bytes and will not fit in a {maxBytes} byte UDP DNS response"
  | .nearlyTooLarge bytes => s!"The SPF record is {bytes} bytes, close to the {maxBytes} byte UDP DNS response limit"

def sizeWarnings (raw : String) : List SizeWarning :=
  let bytes := raw.utf8ByteSize
  (if raw.length > maxStringLength then [.severalStrings raw.length (txtStrings raw).length] else [])
  ++ if bytes > maxBytes then [.tooLarge bytes] else if bytes > recommendedBytes then [.nearlyTooLarge bytes] else []

structure Validation where
  record : Record
  strings : List String
  bytes : Nat
  sizeWarnings : List SizeWarning
  deriving DecidableEq, Repr

/-- The warnings about the record and about its size. -/
def Validation.warnings (v : Validation) : List String :=
  v.record.warnings.map (·.message) ++ v.sizeWarnings.map (·.message)

def validate [Packages] (record : String) : Except Record.ReadError Validation :=
  (Record.read record).map fun r => ⟨r, txtStrings r.raw, r.raw.utf8ByteSize, sizeWarnings r.raw⟩

theorem flatten_take_chunks (cs : List Char) (n : Nat) :
    ((List.range n).map fun i => (cs.drop (maxStringLength * i)).take maxStringLength).flatten = cs.take (maxStringLength * n) := by
  induction n with
  | zero => simp
  | succ n ih =>
    rw [List.range_succ, List.map_append, List.flatten_append, ih]
    simp only [List.map_cons, List.map_nil, List.flatten_cons, List.flatten_nil, List.append_nil]
    rw [Nat.mul_succ, List.take_add]

theorem flatten_chunks (cs : List Char) : (chunks cs).flatten = cs := by
  rw [chunks, flatten_take_chunks, List.take_of_length_le]
  have := Nat.div_add_mod (cs.length + (maxStringLength - 1)) maxStringLength
  have := Nat.mod_lt (cs.length + (maxStringLength - 1)) (show 0 < maxStringLength by decide)
  simp only [maxStringLength] at *
  omega

end SenderPolicy.Advice
