/-
  SenderPolicy.Address.Text — addresses and networks as text.

  IPv4 is written as four decimal octets. IPv6 is written as eight hexadecimal groups, of which the
  longest run of two or more zeros, the first of several, becomes `::`; a scope id follows a `%`.
  A network is its first address, a slash and its length; the normal form of a single address leaves
  the length out.
-/

import SenderPolicy.Address.Basic
import SenderPolicy.Text.Hex

namespace SenderPolicy

open Text

namespace Address

def octets (n : Nat) : List Nat := [n / span 24 % 256, n / span 16 % 256, n / span 8 % 256, n % 256]

/-- The eight groups of sixteen bits, most significant first. -/
def groups (n : Nat) : List Nat := (List.range 8).map fun i => n / span (16 * (7 - i)) % span 16

/-- How many zeros stand at the front. -/
def zeroRun (gs : List Nat) : Nat := (gs.takeWhile (· == 0)).length

/-- Where the longest run of zeros begins and how long it is; the first of several, and length zero
if there is none. -/
def longestRun (gs : List Nat) : Nat × Nat :=
  (List.range gs.length).foldl (fun best i =>
    let run := zeroRun (gs.drop i)
    if run > best.2 then (i, run) else best) (0, 0)

def joinWith (separator : Char) (parts : List (List Char)) : List Char := List.intercalate [separator] parts

def groupsText (gs : List Nat) : List Char := joinWith ':' (gs.map hex)

def v4Text (n : Nat) : List Char := joinWith '.' ((octets n).map (Nat.toDigits 10))

def v6Text (n : Nat) : List Char :=
  let gs := groups n
  let (start, run) := longestRun gs
  if run < 2 then groupsText gs
  else groupsText (gs.take start) ++ ':' :: ':' :: groupsText (gs.drop (start + run))

def valueText (family : Family) (n : Nat) (scope : Option String) : List Char :=
  match family with
  | .v4 => v4Text n
  | .v6 => v6Text n ++ (match scope with | some s => '%' :: s.toList | none => [])

def text (a : Address) : String := String.ofList (valueText a.family a.value a.scope)

end Address

namespace Network

def text (n : Network) : String :=
  String.ofList (Address.valueText n.family n.base n.scope ++ '/' :: Nat.toDigits 10 n.length)

/-- The text without the length of a single address. -/
def normal (n : Network) : String :=
  if n.isHost then String.ofList (Address.valueText n.family n.base n.scope) else n.text

end Network

example : (Address.ofNat .v6 0x20010db8000000000000000000000001 none).text = "2001:db8::1" := by decide
example : (Address.ofNat .v6 (0x00010000000000020003 <<< 48) none).text = "1:0:0:2:3::" := by decide
example : (Address.ofNat .v4 0xc0000201 none).text = "192.0.2.1" := by decide

end SenderPolicy
