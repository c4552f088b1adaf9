/-
  SenderPolicy.Address.Lists — lists of networks given as text.

  `sortTexts` removes repeated texts and puts the rest in the order of their networks; `consolidate`
  gives the fewest blocks that cover the same addresses. Both fail on the first text that is no
  network.
-/

import SenderPolicy.Address.Cover
import SenderPolicy.Address.Reader
import SenderPolicy.Sequence.Sort
import SenderPolicy.Text.Blank

namespace SenderPolicy.Network

/-- The normal form of the network that a text spells. -/
def normalize (s : String) : Except NotNetwork String := (read (Text.strip s)).map normal

def readAll : List String → Except NotNetwork (List (String × Network))
  | [] => .ok []
  | s :: ss => do
    let n ← read s
    let ns ← readAll ss
    .ok ((s, n) :: ns)

/-- The texts without repetitions: IPv4 first, by first address, then by length. -/
def sortTexts (texts : List String) : Except NotNetwork (List String) :=
  (readAll texts.eraseDups).map fun ns => (Sequence.sort (fun a b => a.2.le b.2) ns).map (·.1)

/-- The fewest networks that cover the same addresses as the given ones, in their normal form. -/
def consolidate (texts : List String) : Except NotNetwork (List String) :=
  (readAll (texts.map Text.strip)).map fun ns => (Cover.cover (ns.map (·.2))).map normal

end SenderPolicy.Network
