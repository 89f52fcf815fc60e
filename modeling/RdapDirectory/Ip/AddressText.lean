import RdapDirectory.Ip.Address
import RdapDirectory.Text.Cut
import RdapDirectory.Text.Numeral

/-!
Addresses as texts: four decimal octets, or eight hexadecimal groups of which one run of zeros
may be left out. Reading takes every spelling, writing gives the canonical one.
-/

namespace RdapDirectory.Ip

open Text

def octet? (cs : List Char) : Option Nat :=
  if cs.length ≤ 3 && (cs.length ≤ 1 || cs.head? != some '0') then
    (decimal? cs).filter (· < 256)
  else none

def octets? (cs : List Char) : Option (List Nat) :=
  match (pieces (· == '.') cs).mapM octet? with
  | some [a, b, c, d] => some [a, b, c, d]
  | _ => none

def group? (cs : List Char) : Option Nat :=
  if !cs.isEmpty && cs.length ≤ 4 && cs.all isHexDigit then some (hexadecimalValue cs) else none

/-- The last piece may be four octets in place of two groups. -/
def groupsOf? : List (List Char) → Option (List Nat)
  | [] => some []
  | [cs] =>
    match group? cs with
    | some g => some [g]
    | none =>
      match octets? cs with
      | some [a, b, c, d] => some [256 * a + b, 256 * c + d]
      | _ => none
  | cs :: r => do
    let g ← group? cs
    let gs ← groupsOf? r
    some (g :: gs)

def cutGap? : List Char → Option (List Char × List Char)
  | ':' :: ':' :: r => some ([], r)
  | c :: r => (cutGap? r).map fun (a, b) => (c :: a, b)
  | [] => none

def side? (cs : List Char) : Option (List Nat) :=
  if cs.isEmpty then some [] else groupsOf? (pieces (· == ':') cs)

def groups? (cs : List Char) : Option (List Nat) :=
  match cutGap? cs with
  | none => (side? cs).filter (·.length == 8)
  | some (left, right) => do
    let a ← (pieces (· == ':') left).mapM group? <|> (if left.isEmpty then some [] else none)
    let b ← side? right
    if a.length + b.length ≤ 7 then
      some (a ++ List.replicate (8 - a.length - b.length) 0 ++ b)
    else none

namespace Address

def readV4? (cs : List Char) : Option Address :=
  (octets? cs).map fun os => ofNat .v4 (spell 256 os)

def readV6? (cs : List Char) : Option Address :=
  (groups? cs).map fun gs => ofNat .v6 (spell 65536 gs)

def read? (cs : List Char) : Option Address := readV4? cs <|> readV6? cs

/-- Place and length of the longest run of zeros, the first of several. -/
def longestZeros : Nat → List Nat → Nat × Nat
  | _, [] => (0, 0)
  | place, g :: gs =>
    let here := ((g :: gs).takeWhile (· == 0)).length
    let later := longestZeros (place + 1) gs
    if later.2 ≤ here then (place, here) else later

def colonJoined (gs : List Nat) : List Char :=
  List.intercalate [':'] (gs.map hexadecimalDigits)

def writeV4 (a : Address) : List Char := List.intercalate ['.'] (a.octets.map decimalDigits)

def writeGroups (gs : List Nat) : List Char :=
  let (place, len) := longestZeros 0 gs
  if len ≥ 2 then colonJoined (gs.take place) ++ [':', ':'] ++ colonJoined (gs.drop (place + len))
  else colonJoined gs

/-- An address of the newer family that stands for one of the older is written with its octets. -/
def writeV6 (a : Address) : List Char :=
  if a.value / 0x100000000 == 0xFFFF then
    [':', ':', 'f', 'f', 'f', 'f', ':'] ++ writeV4 (ofNat .v4 a.value)
  else writeGroups a.groups

def write (a : Address) : List Char :=
  match a.family with
  | .v4 => writeV4 a
  | .v6 => writeV6 a

def text (a : Address) : String := .ofList a.write

end Address

end RdapDirectory.Ip
