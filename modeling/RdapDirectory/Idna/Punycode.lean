import RdapDirectory.Text.Cut

/-!
Texts of any characters spelt with letters, digits and hyphens: the ASCII characters first, then
where to put each of the others, in ascending order, as numbers whose digits say when they end.
-/

namespace RdapDirectory.Idna.Punycode

def digit (n : Nat) : Char :=
  if n < 26 then .ofNat ('a'.toNat + n) else .ofNat ('0'.toNat + (n - 26))

def value? (c : Char) : Option Nat :=
  if 'a' ≤ c && c ≤ 'z' then some (c.toNat - 'a'.toNat)
  else if 'A' ≤ c && c ≤ 'Z' then some (c.toNat - 'A'.toNat)
  else if '0' ≤ c && c ≤ '9' then some (c.toNat - '0'.toNat + 26)
  else none

/-- A digit below this is the last one. `place` counts digits in steps of 36. -/
def threshold (place bias : Nat) : Nat := max 1 (min 26 (place - bias))

theorem threshold_bounds (place bias : Nat) :
    1 ≤ threshold place bias ∧ threshold place bias ≤ 26 := by
  unfold threshold
  omega

def shrink (n count : Nat) : Nat × Nat :=
  if 455 < n then shrink (n / 35) (count + 36) else (n, count)
termination_by n
decreasing_by exact Nat.div_lt_self (by omega) (by omega)

def adapt (delta points : Nat) (first : Bool) : Nat :=
  let delta := if first then delta / 700 else delta / 2
  let (n, count) := shrink (delta + delta / points) 0
  count + 36 * n / (n + 38)

def number (place bias n : Nat) : List Char :=
  let t := threshold place bias
  if n < t then [digit n]
  else digit (t + (n - t) % (36 - t)) :: number (place + 36) bias ((n - t) / (36 - t))
termination_by n
decreasing_by
  have := threshold_bounds place bias
  have := Nat.div_le_self (n - threshold place bias) (36 - threshold place bias)
  omega

structure Spelling where
  digits : List Char
  delta : Nat
  bias : Nat
  done : Nat
  first : Bool

namespace Spelling

def pass (point : Nat) (s : Spelling) (c : Char) : Spelling :=
  if c.toNat < point then { s with delta := s.delta + 1 }
  else if c.toNat = point then
    { digits := s.digits ++ number 36 s.bias s.delta
      delta := 0
      bias := adapt s.delta (s.done + 1) s.first
      done := s.done + 1
      first := false }
  else s

/-- Spells all characters of the given code points. `next` is the first one not passed yet. -/
def points (cs : List Char) (s : Spelling) (next : Nat) : List Nat → Spelling
  | [] => s
  | p :: ps =>
    let s := cs.foldl (pass p) { s with delta := s.delta + (p - next) * (s.done + 1) }
    points cs { s with delta := s.delta + 1 } (p + 1) ps

end Spelling

def isBasic (c : Char) : Bool := c.toNat < 0x80

def encode (cs : List Char) : List Char :=
  let basic := cs.filter isBasic
  let others := ((cs.filter (!isBasic ·)).map Char.toNat).eraseDups.mergeSort
  let start : Spelling := ⟨[], 0, 72, basic.length, true⟩
  (if basic.isEmpty then [] else basic ++ ['-']) ++ (start.points cs 128 others).digits

def number? (bias : Nat) : Nat → Nat → Nat → List Char → Option (Nat × List Char)
  | _, _, _, [] => none
  | place, weight, sum, c :: r => do
    let d ← value? c
    let t := threshold place bias
    let sum := sum + d * weight
    if d < t then some (sum, r) else number? bias (place + 36) (weight * (36 - t)) sum r

def insertions? (point place bias : Nat) (first : Bool) (cs : List Char) :
    Nat → List Char → Option (List Char)
  | _, [] => some cs
  | 0, _ => none
  | fuel + 1, c :: r => do
    let (n, rest) ← number? bias 36 1 0 (c :: r)
    let count := cs.length + 1
    let point := point + (place + n) / count
    let place := (place + n) % count
    if point.isValidChar then
      insertions? point (place + 1) (adapt n count first) false (cs.insertIdx place (.ofNat point))
        fuel rest
    else none

/-- A hyphen with nothing before it parts nothing, and is no digit either. -/
def parts (cs : List Char) : List Char × List Char :=
  match Text.cutLast? (· == '-') cs with
  | none | some ([], _) => ([], cs)
  | some (basic, digits) => (basic, digits)

def decode? (cs : List Char) : Option (List Char) :=
  let (basic, digits) := parts cs
  insertions? 128 0 72 true basic digits.length digits

end RdapDirectory.Idna.Punycode
