import RdapDirectory.Idna.CompositionTable
import RdapDirectory.Idna.Table

/-!
The composed form of a text: marks in the order of their classes, and each put into the character
before it where a character of both exists.
-/

namespace RdapDirectory.Idna

def compositionRows : Array Row := rowsOf compositionText

def classRows : Array Row := rowsOf classText

def markClass (n : Nat) : Nat :=
  match row? classRows n with
  | some r => r.target.headD 0
  | none => 0

def syllableParts? (n : Nat) : Option (Nat × Nat) :=
  if 0xAC00 ≤ n && n < 0xD7A4 then
    let k := n - 0xAC00
    if k % 28 = 0 then some (0x1100 + k / 588, 0x1161 + k % 588 / 28)
    else some (n - k % 28, 0x11A7 + k % 28)
  else none

def syllable? (a b : Nat) : Option Nat :=
  if 0x1100 ≤ a && a < 0x1113 && 0x1161 ≤ b && b < 0x1176 then
    some (0xAC00 + (a - 0x1100) * 588 + (b - 0x1161) * 28)
  else if 0xAC00 ≤ a && a < 0xD7A4 && (a - 0xAC00) % 28 = 0 && 0x11A8 ≤ b && b < 0x11C3 then
    some (a + (b - 0x11A7))
  else none

def parts? (n : Nat) : Option (Nat × Nat) :=
  match syllableParts? n, compositionRows.find? (·.first == n) with
  | some p, _ => some p
  | none, some r =>
    match r.target with
    | [a, b] => some (a, b)
    | _ => none
  | none, none => none

def compose? (a b : Nat) : Option Nat :=
  syllable? a b <|> (compositionRows.find? (·.target == [a, b])).map Row.first

def decompose : Nat → Nat → List Nat
  | 0, n => [n]
  | depth + 1, n =>
    match parts? n with
    | some (a, b) => decompose depth a ++ [b]
    | none => [n]

def insertMark (n : Nat) (reversed : List Nat) : List Nat :=
  match reversed with
  | [] => [n]
  | m :: r =>
    if markClass n != 0 && markClass n < markClass m then m :: insertMark n r else n :: m :: r

def sortMarks (ns : List Nat) : List Nat :=
  (ns.foldl (fun reversed n => insertMark n reversed) []).reverse

/-- Composes with the starter at hand what follows it. `held` are the marks in between, in reverse,
and `last` is the class of the last of them. -/
def composeFrom (starter : Nat) (held : List Nat) (last : Nat) : List Nat → List Nat
  | [] => starter :: held.reverse
  | n :: r =>
    let free := held.isEmpty || last < markClass n
    match (if free then compose? starter n else none) with
    | some c => composeFrom c held last r
    | none =>
      if markClass n = 0 then starter :: held.reverse ++ composeFrom n [] 0 r
      else composeFrom starter (n :: held) (markClass n) r

def composeAll : List Nat → List Nat
  | [] => []
  | n :: r => if markClass n = 0 then composeFrom n [] 0 r else n :: composeAll r

def composed (ns : List Nat) : List Nat := composeAll (sortMarks (ns.flatMap (decompose 4)))

end RdapDirectory.Idna
