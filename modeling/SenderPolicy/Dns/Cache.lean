/-
  SenderPolicy.Dns.Cache — the answers that a client keeps.

  A cache holds so many entries at most; a new one takes the place of the oldest. In a cache whose
  entries last no time, an entry stays until it is looked up, which removes it and finds nothing.
  - `lookup_store`: what was stored last is found, if entries last.
  - `lookup_eq_of_lasting`: looking something up changes nothing, if entries last.
-/

import SenderPolicy.Json.Basic

namespace SenderPolicy.Dns

structure Cache where
  capacity : Nat
  lasting : Bool
  /-- Oldest first. -/
  entries : List (String × List String)
  deriving DecidableEq, Repr

/-- A cache needs room for one entry, and an age is not negative. -/
structure BadCache where
  deriving DecidableEq, Repr

namespace Cache

def ageSign : Number → Ordering
  | .int i => compare i 0
  | .real x => if x < 0 then .lt else if x == 0 then .eq else .gt

/-- The empty cache for so many entries that last so many seconds. -/
def new (capacity : Int) (age : Number) : Except BadCache Cache :=
  if capacity < 1 || ageSign age == .lt then .error ⟨⟩
  else .ok ⟨capacity.toNat, ageSign age == .gt, []⟩

def find? (c : Cache) (key : String) : Option (List String) := (c.entries.find? (·.1 == key)).map (·.2)

def erase (c : Cache) (key : String) : Cache := { c with entries := c.entries.filter (·.1 != key) }

def lookup (c : Cache) (key : String) : Option (List String) × Cache :=
  if c.lasting then (c.find? key, c) else (none, c.erase key)

/-- Stores an entry that is not there yet. -/
def store (c : Cache) (key : String) (texts : List String) : Cache :=
  let kept := if c.entries.length < c.capacity then c.entries else c.entries.drop 1
  { c with entries := kept ++ [(key, texts)] }

def clear (c : Cache) : Cache := { c with entries := [] }

def keys (c : Cache) : List String := c.entries.map (·.1)

theorem lookup_eq_of_lasting {c : Cache} (h : c.lasting = true) (key : String) : c.lookup key = (c.find? key, c) := by
  simp [lookup, h]

theorem lookup_store {c : Cache} {key : String} (texts : List String) (h : c.lasting = true) (hk : key ∉ c.keys) :
    ((c.store key texts).lookup key).1 = some texts := by
  have hne : ∀ e ∈ c.entries, (e.1 == key) = false := fun e he => by
    have : e.1 ≠ key := fun he' => hk (he' ▸ List.mem_map_of_mem he)
    simpa using this
  have hl : (c.store key texts).lasting = true := h
  rw [lookup_eq_of_lasting hl]
  simp only [store, find?, List.find?_append]
  rw [List.find?_eq_none.2]
  · simp
  · intro e he
    have : e ∈ c.entries := by
      split at he
      · exact he
      · exact List.mem_of_mem_drop he
    simp [hne e this]

end Cache

end SenderPolicy.Dns
