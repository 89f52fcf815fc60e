import RdapDirectory.Text.Cut
import RdapDirectory.Text.Numeral

namespace RdapDirectory.Idna

open Text

/-- The code points `first`, `first + step`, … up to `last`, and what they become. -/
structure Row where
  first : Nat
  last : Nat
  step : Nat
  target : List Nat

namespace Row

def holds (r : Row) (n : Nat) : Bool := r.first ≤ n && n ≤ r.last && (n - r.first) % r.step == 0

def image (r : Row) (n : Nat) : List Nat :=
  match r.target with
  | [t] => [t + (n - r.first)]
  | ts => ts

def ofWord (word : List Char) : Row :=
  let (place, target) := (cut? (· == '=') word).getD (word, [])
  let (range, step) := (cut? (· == '/') place).getD (place, ['1'])
  let (first, last) := (cut? (· == '-') range).getD (range, range)
  { first := hexadecimalValue first
    last := hexadecimalValue last
    step := hexadecimalValue step
    target := if target.isEmpty then [] else (pieces (· == '+') target).map hexadecimalValue }

end Row

def rowsOf (s : String) : Array Row :=
  ((pieces (fun c => c == ' ' || c == '\n') s.toList).map Row.ofWord).toArray

def row? (rows : Array Row) (n : Nat) : Option Row := rows.find? (·.holds n)

def isIn (rows : Array Row) (c : Char) : Bool := (row? rows c.toNat).isSome

end RdapDirectory.Idna
