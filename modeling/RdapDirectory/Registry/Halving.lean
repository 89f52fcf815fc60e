/-!
Search by halving in a row that starts with members of a class and goes on with others.
-/

namespace RdapDirectory.Registry

def lastPlace (p : Nat → Bool) (base size : Nat) : Nat :=
  if size ≤ 1 then base
  else lastPlace p (if p (base + size / 2) then base + size / 2 else base) (size - size / 2)
termination_by size

def countFront {α : Type} (p : α → Bool) (row : Array α) : Nat :=
  let member := fun i => (row[i]?).any p
  let place := lastPlace member 0 row.size
  if member place then place + 1 else place

end RdapDirectory.Registry
