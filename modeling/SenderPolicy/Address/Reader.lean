/-
  SenderPolicy.Address.Reader — reading addresses and networks.

  IPv4 has four decimal octets without leading zeros. IPv6 has eight groups of at most four
  hexadecimal digits, the last two of which may be written as IPv4; one `::` stands for one or more
  zero groups, and a scope id may follow a `%`. A network is an address, alone or with a length after
  a slash; for IPv4 the length may also be a netmask or, failing that, a hostmask.
  `AddressError` names everything that an address can get wrong, in the order it is looked for.
-/

import SenderPolicy.Address.Text
import SenderPolicy.Text.Quoted

namespace SenderPolicy

open Text

inductive OctetError where
  | empty
  | notDecimal (octet : String)
  | tooLong (octet : String)
  | leadingZero (octet : String)
  | tooLarge (value : Nat)
  deriving DecidableEq, Repr

inductive GroupError where
  | notHex (group : String)
  | tooLong (group : String)
  deriving DecidableEq, Repr

/-- What is wrong with the text of an address; the text is part of each cause that names it. -/
inductive AddressError where
  | empty
  | slash (text : String)
  | octetCount (text : String)
  | octet (cause : OctetError) (text : String)
  | scope (text : String)
  | tooFewParts (text : String)
  | embedded (cause : AddressError) (text : String)
  | tooManyColons (text : String)
  | secondGap (text : String)
  | leadingColon (text : String)
  | trailingColon (text : String)
  | gapTooSmall (text : String)
  | partCount (text : String)
  | group (cause : GroupError) (text : String)
  deriving DecidableEq, Repr

def OctetError.message : OctetError → String
  | .empty => "Empty octet not permitted"
  | .notDecimal o => s!"Only decimal digits permitted in {quoted o}"
  | .tooLong o => s!"At most 3 characters permitted in {quoted o}"
  | .leadingZero o => s!"Leading zeros are not permitted in {quoted o}"
  | .tooLarge n => s!"Octet {n} (> 255) not permitted"

def GroupError.message : GroupError → String
  | .notHex g => s!"Only hex digits permitted in {quoted g}"
  | .tooLong g => s!"At most 4 characters permitted in {quoted g}"

def AddressError.message : AddressError → String
  | .empty => "Address cannot be empty"
  | .slash t => s!"Unexpected '/' in {quoted t}"
  | .octetCount t => s!"Expected 4 octets in {quoted t}"
  | .octet cause t => s!"{cause.message} in {quoted t}"
  | .scope t => s!"Invalid IPv6 address: \"{quoted t}\""
  | .tooFewParts t => s!"At least 3 parts expected in {quoted t}"
  | .embedded cause t => s!"{cause.message} in {quoted t}"
  | .tooManyColons t => s!"At most 8 colons permitted in {quoted t}"
  | .secondGap t => s!"At most one '::' permitted in {quoted t}"
  | .leadingColon t => s!"Leading ':' only permitted as part of '::' in {quoted t}"
  | .trailingColon t => s!"Trailing ':' only permitted as part of '::' in {quoted t}"
  | .gapTooSmall t => s!"Expected at most 7 other parts with '::' in {quoted t}"
  | .partCount t => s!"Exactly 8 parts expected without '::' in {quoted t}"
  | .group cause t => s!"{cause.message} in {quoted t}"

namespace Address

def isDecimalText (cs : List Char) : Bool := !cs.isEmpty && cs.all Char.isDigit

def decimal (cs : List Char) : Nat := cs.foldl (fun n c => 10 * n + (c.toNat - '0'.toNat)) 0

def readOctet (cs : List Char) : Except OctetError Nat :=
  let shown := String.ofList cs
  if cs.isEmpty then .error .empty
  else if !cs.all Char.isDigit then .error (.notDecimal shown)
  else if cs.length > 3 then .error (.tooLong shown)
  else if cs != ['0'] && cs.head? == some '0' then .error (.leadingZero shown)
  else if decimal cs > 255 then .error (.tooLarge (decimal cs))
  else .ok (decimal cs)

/-- Reads all parts, or gives the first error. -/
def readAll {ε : Type} (read : List Char → Except ε Nat) : List (List Char) → Except ε (List Nat)
  | [] => .ok []
  | p :: ps => do
    let n ← read p
    let ns ← readAll read ps
    .ok (n :: ns)

/-- The value of IPv4 text. -/
def readV4 (cs : List Char) : Except AddressError Nat :=
  let shown := String.ofList cs
  if cs.contains '/' then .error (.slash shown)
  else if cs.isEmpty then .error .empty
  else
    let parts := cs.splitOn '.'
    if parts.length != 4 then .error (.octetCount shown)
    else match readAll readOctet parts with
      | .ok os => .ok (os.foldl (fun n o => 256 * n + o) 0)
      | .error e => .error (.octet e shown)

def readGroup (cs : List Char) : Except GroupError Nat :=
  let shown := String.ofList cs
  if cs.isEmpty || !cs.all fun c => (hexValue? c).isSome then .error (.notHex shown)
  else if cs.length > 4 then .error (.tooLong shown)
  else .ok (cs.foldl (fun n c => 16 * n + (hexValue? c).getD 0) 0)

/-- The parts with IPv4 text at the end written as two groups. -/
def unembed (shown : String) (parts : List (List Char)) : Except AddressError (List (List Char)) :=
  let lastPart := parts.getLastD []
  if lastPart.contains '.' then
    match readV4 lastPart with
    | .ok n => .ok (parts.dropLast ++ [hex (n / span 16), hex (n % span 16)])
    | .error e => .error (.embedded e shown)
  else .ok parts

/-- The parts that the address spells, with the zeros of a gap filled in. -/
def fillGap (shown : String) (parts : List (List Char)) : Except AddressError (List (List Char)) :=
  let inner := (parts.drop 1).dropLast
  let before := 1 + (inner.takeWhile (!·.isEmpty)).length
  if (inner.filter (·.isEmpty)).length > 1 then .error (.secondGap shown)
  else if before ≤ inner.length then
    let high := parts.take before
    let low := parts.drop (before + 1)
    if high.head? == some [] && high.length > 1 then .error (.leadingColon shown)
    else if low.getLast? == some [] && low.length > 1 then .error (.trailingColon shown)
    else
      let high := high.filter (!·.isEmpty)
      let low := low.filter (!·.isEmpty)
      if high.length + low.length > 7 then .error (.gapTooSmall shown)
      else .ok (high ++ List.replicate (8 - (high.length + low.length)) ['0'] ++ low)
  else if parts.length != 8 then .error (.partCount shown)
  else if parts.head? == some [] then .error (.leadingColon shown)
  else if parts.getLast? == some [] then .error (.trailingColon shown)
  else .ok parts

/-- The value of IPv6 text without a scope id. -/
def readV6 (cs : List Char) : Except AddressError Nat :=
  let shown := String.ofList cs
  if cs.isEmpty then .error .empty
  else
    let parts := cs.splitOn ':'
    if parts.length < 3 then .error (.tooFewParts shown)
    else match unembed shown parts with
      | .error e => .error e
      | .ok parts =>
        if parts.length > 9 then .error (.tooManyColons shown)
        else match fillGap shown parts with
          | .error e => .error e
          | .ok parts => match readAll readGroup parts with
            | .ok gs => .ok (gs.foldl (fun n g => span 16 * n + g) 0)
            | .error e => .error (.group e shown)

/-- The text before a scope id, and the scope id. -/
def cutScope (cs : List Char) : Except AddressError (List Char × Option String) :=
  match cs.dropWhile (· != '%') with
  | [] => .ok (cs, none)
  | _ :: scope =>
    if scope.isEmpty || scope.contains '%' then .error (.scope (String.ofList cs))
    else .ok (cs.takeWhile (· != '%'), some (String.ofList scope))

def readScoped (cs : List Char) : Except AddressError (Nat × Option String) :=
  if cs.contains '/' then .error (.slash (String.ofList cs))
  else match cutScope cs with
    | .error e => .error e
    | .ok (body, scope) => match readV6 body with
      | .ok n => .ok (n, scope)
      | .error e => .error e

/-- The address that a text spells, IPv4 or IPv6. -/
def ofText? (s : String) : Option Address :=
  match readV4 s.toList, readScoped s.toList with
  | .ok n, _ => some (ofNat .v4 n none)
  | _, .ok (n, scope) => some (ofNat .v6 n scope)
  | _, _ => none

/-- The address with this value: IPv4 as long as it fits, else IPv6. -/
def ofInt? (i : Int) : Option Address :=
  if i < 0 then none
  else if i.toNat < span 32 then some (ofNat .v4 i.toNat none)
  else if i.toNat < span 128 then some (ofNat .v6 i.toNat none)
  else none

end Address

namespace Network

/-- A text that is no network. -/
structure NotNetwork where
  text : String
  deriving DecidableEq, Repr

def NotNetwork.message (e : NotNetwork) : String :=
  s!"{quoted e.text} does not appear to be an IPv4 or IPv6 network"

/-- The length after the slash; digits beyond 4300 are not read. -/
def length? (width : Nat) (cs : List Char) : Option Nat :=
  if Address.isDecimalText cs && cs.length ≤ 4300 && Address.decimal cs ≤ width then some (Address.decimal cs) else none

/-- The length whose netmask is `mask`: ones, then zeros. -/
def lengthOfMask? (mask : Nat) : Option Nat :=
  (List.range 33).find? fun length => mask == span 32 - span (32 - length)

/-- The length that a netmask or a hostmask stands for. -/
def maskLength? (cs : List Char) : Option Nat :=
  match Address.readV4 cs with
  | .ok n => (lengthOfMask? n).orElse fun _ => lengthOfMask? (span 32 - 1 - n)
  | .error _ => none

def make? (address : Address) (length : Option Nat) : Option Network :=
  match length with
  | none => none
  | some l => if h : l ≤ address.family.width then some (address.cut l h) else none

/-- The network that a text spells; bits behind its length are cleared. -/
def ofText? (s : String) : Option Network :=
  match s.toList.splitOn '/' with
  | [address] =>
    match Address.readV4 address, Address.readScoped address with
    | .ok n, _ => some (Address.ofNat .v4 n none).host
    | _, .ok (n, scope) => some (Address.ofNat .v6 n scope).host
    | _, _ => none
  | [address, length] =>
    let v4 := match Address.readV4 address with
      | .ok n => make? (.ofNat .v4 n none) ((length? 32 length).orElse fun _ => maskLength? length)
      | .error _ => none
    v4.orElse fun _ => match Address.readScoped address with
      | .ok (n, scope) => make? (.ofNat .v6 n scope) (length? 128 length)
      | .error _ => none
  | _ => none

def read (s : String) : Except NotNetwork Network :=
  match ofText? s with
  | some n => .ok n
  | none => .error ⟨s⟩

end Network

example : ((Network.ofText? "1.2.3.4/0.0.0.255").map Network.text) = some "1.2.3.0/24" := by decide
example : ((Network.ofText? "2001:DB8::ffff:1.2.3.4/112").map Network.text) = some "2001:db8::ffff:102:0/112" := by decide
example : ((Address.ofText? "fe80::1%eth0").map Address.text) = some "fe80::1%eth0" := by decide

end SenderPolicy
