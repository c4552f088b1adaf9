/-
  SenderPolicy.Flatten.Mask — the networks around the addresses of a term.

  A term can give a length for each family; an address of the family then stands for the whole network
  of that length around it, and for itself if no length is given.
  - `length_maskAll`: each address gives one network.
-/

import SenderPolicy.Address.Reader
import SenderPolicy.Flatten.Branch
import SenderPolicy.Text.Blank

namespace SenderPolicy.Flatten

open Text

/-- The length that a text spells for a family; for IPv4 it may be spelled as a mask. -/
def lengthOf? (family : Family) (text : String) : Option Nat :=
  let cs := trimEnd isBlank text.toList
  match family with
  | .v4 => (Network.length? 32 cs).orElse fun _ => Network.maskLength? cs
  | .v6 => Network.length? 128 cs

/-- The network of the given length around an address. -/
def maskAddress (a : Address) (length : Option String) : Except MaskError Network :=
  match length with
  | none => .ok a.host
  | some text =>
    match Network.make? a (lengthOf? a.family text) with
    | some n => .ok n
    | none => .error (.badLength text a.text)

def mask (v4 v6 : Option String) (text : String) : Except MaskError Network :=
  match Address.ofText? text with
  | none => .error (.notAddress text)
  | some a => maskAddress a (match a.family with | .v4 => v4 | .v6 => v6)

/-- The networks around all addresses, in order. -/
def maskAll (v4 v6 : Option String) : List String → Except MaskError (List Network)
  | [] => .ok []
  | t :: ts => do
    let n ← mask v4 v6 t
    let ns ← maskAll v4 v6 ts
    .ok (n :: ns)

theorem length_maskAll {v4 v6 : Option String} {texts : List String} {ns : List Network}
    (h : maskAll v4 v6 texts = .ok ns) : ns.length = texts.length := by
  induction texts generalizing ns with
  | nil => simp [maskAll] at h; simp [← h]
  | cons t ts ih =>
    unfold maskAll at h
    cases hn : mask v4 v6 t with
    | error e => simp [hn, bind, Except.bind] at h
    | ok n =>
      cases hs : maskAll v4 v6 ts with
      | error e => simp [hn, hs, bind, Except.bind] at h
      | ok ns' =>
        simp only [hn, hs, bind, Except.bind, Except.ok.injEq] at h
        simp [← h, ih hs]

end SenderPolicy.Flatten
