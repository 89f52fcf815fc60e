namespace RdapDirectory.Ip

inductive Family where
  | v4
  | v6
deriving DecidableEq, Repr

namespace Family

def width : Family → Nat
  | v4 => 32
  | v6 => 128

def number : Family → Nat
  | v4 => 4
  | v6 => 6

def ofNumber? : Nat → Option Family
  | 4 => some v4
  | 6 => some v6
  | _ => none

end Family

structure Address where
  family : Family
  value : Nat
  fits : value < Nat.pow 2 family.width
deriving DecidableEq

namespace Address

def ofNat (family : Family) (n : Nat) : Address :=
  ⟨family, n % Nat.pow 2 family.width, Nat.mod_lt _ (Nat.two_pow_pos _)⟩

theorem ofNat_value (a : Address) : ofNat a.family a.value = a := by
  cases a with
  | mk family value fits => simp only [ofNat, Nat.mod_eq_of_lt fits]

def spell (base : Nat) (digits : List Nat) : Nat := digits.foldl (fun n d => base * n + d) 0

def digits (base : Nat) : Nat → Nat → List Nat
  | 0, _ => []
  | count + 1, n => digits base count (n / base) ++ [n % base]

def octets (a : Address) : List Nat := digits 256 4 a.value

def groups (a : Address) : List Nat := digits 65536 8 a.value

end Address

end RdapDirectory.Ip
