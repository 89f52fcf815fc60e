import RdapDirectory.Ip.AddressText

namespace RdapDirectory.Ip

open Text

structure Block where
  address : Address
  length : Nat
  length_le : length ≤ address.family.width
deriving DecidableEq

namespace Block

def family (b : Block) : Family := b.address.family

def size (b : Block) : Nat := Nat.pow 2 (b.family.width - b.length)

def first (b : Block) : Nat := b.address.value - b.address.value % b.size

def last (b : Block) : Nat := b.first + (b.size - 1)

def single (a : Address) : Block := ⟨a, a.family.width, Nat.le_refl _⟩

def truncate (b : Block) : Block :=
  ⟨⟨b.family, b.first, Nat.lt_of_le_of_lt (Nat.sub_le _ _) b.address.fits⟩, b.length, b.length_le⟩

def make? (a : Address) (length : Nat) : Option Block :=
  if h : length ≤ a.family.width then some ⟨a, length, h⟩ else none

/-- Reads `address/length`, the length below 256 and at most the width of the address. -/
def read? (cs : List Char) : Option Block := do
  let (a, l) ← cut? (· == '/') cs
  let a ← Address.read? a
  let l ← unsigned? 256 l
  make? a l

def write (b : Block) : List Char := b.address.write ++ '/' :: decimalDigits b.length

def text (b : Block) : String := .ofList b.write

end Block

structure Network extends Block where
  lowest : toBlock.truncate = toBlock

namespace Block

theorem truncate_truncate (b : Block) : b.truncate.truncate = b.truncate := by
  have h : (b.address.value - b.address.value % b.size) % b.size = 0 := by
    have := Nat.div_add_mod b.address.value b.size
    rw [show b.address.value - b.address.value % b.size = b.size * (b.address.value / b.size) by
      omega]
    exact Nat.mul_mod_right _ _
  simp only [truncate, first, family, size] at h ⊢
  simp only [h, Nat.sub_zero]

def network (b : Block) : Network := ⟨b.truncate, b.truncate_truncate⟩

end Block

end RdapDirectory.Ip
