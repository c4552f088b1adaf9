/-
  SenderPolicy.Address.Basic — IP addresses and the networks that hold them.

  An address is a number of as many bits as its family is wide. A network is the block of the addresses
  that share their first `length` bits, so its first address is a multiple of its size; the types keep
  both facts. An IPv6 address may carry a scope id, which is part of its text and of its identity, but
  not of its value.
  - `span_succ`: one bit more doubles a block.
  - `mem_cut`: cutting the bits of an address behind `length` gives a network that holds it.
  - `cut_base`: the first address of that network is the address with those bits cleared.
-/

namespace SenderPolicy

/-- The two versions of the protocol. -/
inductive Family where
  | v4
  | v6
  deriving DecidableEq, Repr

def Family.width : Family → Nat
  | .v4 => 32
  | .v6 => 128

def Family.version : Family → Nat
  | .v4 => 4
  | .v6 => 6

/-- How many values there are that differ in their last `bits` bits only. -/
def span (bits : Nat) : Nat := Nat.pow 2 bits

theorem span_pos (bits : Nat) : 0 < span bits := Nat.pow_pos (by decide)

theorem span_succ (bits : Nat) : span (bits + 1) = 2 * span bits := Nat.mul_comm _ _

structure Address where
  family : Family
  value : Nat
  scope : Option String
  value_lt : value < span family.width
  deriving DecidableEq, Repr

structure Network where
  family : Family
  /-- The first address of the block. -/
  base : Nat
  /-- How many leading bits the addresses of the block share. -/
  length : Nat
  scope : Option String
  length_le : length ≤ family.width
  base_lt : base < span family.width
  aligned : span (family.width - length) ∣ base
  deriving DecidableEq, Repr

namespace Address

def ofNat (family : Family) (n : Nat) (scope : Option String) : Address :=
  ⟨family, n % span family.width, scope, Nat.mod_lt _ (span_pos _)⟩

/-- The network of the first `length` bits; the scope id stays if no bit had to be cleared. -/
def cut (a : Address) (length : Nat) (h : length ≤ a.family.width) : Network :=
  let size := span (a.family.width - length)
  let base := a.value / size * size
  { family := a.family
    base := base
    length := length
    scope := if base = a.value then a.scope else none
    length_le := h
    base_lt := Nat.lt_of_le_of_lt (Nat.div_mul_le_self _ _) a.value_lt
    aligned := ⟨a.value / size, Nat.mul_comm _ _⟩ }

/-- The network of this address alone. -/
def host (a : Address) : Network := a.cut a.family.width (Nat.le_refl _)

end Address

namespace Network

def size (n : Network) : Nat := span (n.family.width - n.length)

/-- The last address of the block. -/
def last (n : Network) : Nat := n.base + (n.size - 1)

/-- Whether the block holds the address of this family and value. -/
def Covers (n : Network) (family : Family) (value : Nat) : Prop :=
  n.family = family ∧ n.base ≤ value ∧ value ≤ n.last

instance (n : Network) (family : Family) (value : Nat) : Decidable (n.Covers family value) :=
  inferInstanceAs (Decidable (_ ∧ _ ∧ _))

def isHost (n : Network) : Bool := n.length == n.family.width

/-- Whether two blocks share an address. -/
def overlaps (m n : Network) : Bool := m.family == n.family && m.base ≤ n.last && n.base ≤ m.last

/-- The order of lists: IPv4 first, then by first address, then by length. -/
def key (n : Network) : Nat × Nat × Nat := (n.family.version, n.base, n.length)

def le (m n : Network) : Bool :=
  if m.family.version != n.family.version then m.family.version < n.family.version
  else if m.base != n.base then m.base < n.base
  else m.length ≤ n.length

theorem size_pos (n : Network) : 0 < n.size := span_pos _

end Network

theorem Address.cut_base (a : Address) (length : Nat) (h : length ≤ a.family.width) :
    (a.cut length h).base = a.value / span (a.family.width - length) * span (a.family.width - length) := rfl

theorem Address.mem_cut (a : Address) (length : Nat) (h : length ≤ a.family.width) :
    (a.cut length h).Covers a.family a.value := by
  have hp := span_pos (a.family.width - length)
  have hm := Nat.mod_add_div a.value (span (a.family.width - length))
  have hlt := Nat.mod_lt a.value hp
  refine ⟨rfl, Nat.div_mul_le_self _ _, ?_⟩
  show a.value ≤ a.value / span (a.family.width - length) * span (a.family.width - length) + (span (a.family.width - length) - 1)
  rw [Nat.mul_comm]
  omega

end SenderPolicy
