import RdapDirectory.Json.Value
import RdapDirectory.Text.Percent

namespace RdapDirectory.Json

open Text

abbrev Octets := List UInt8

def isSpace (b : UInt8) : Bool := b == 0x20 || b == 0x09 || b == 0x0A || b == 0x0D

def skip (bs : Octets) : Octets := bs.dropWhile isSpace

inductive Piece where
  | octet (b : UInt8)
  | unit (n : Nat)

def escaped? (b : UInt8) : Option UInt8 :=
  match Char.ofNat b.toNat with
  | '"' => some 0x22
  | '\\' => some 0x5C
  | '/' => some 0x2F
  | 'b' => some 0x08
  | 'f' => some 0x0C
  | 'n' => some 0x0A
  | 'r' => some 0x0D
  | 't' => some 0x09
  | _ => none

def hexUnit? (a b c d : UInt8) : Option Nat := do
  return 4096 * (← hexOctet? a) + 256 * (← hexOctet? b) + 16 * (← hexOctet? c) + (← hexOctet? d)

/-- A value as it is read. A string literal that spells no Unicode text has the text `none`. -/
abbrev Document := Value (Option String)

def pieces? : Octets → Option (List Piece × Octets)
  | [] => none
  | b :: r =>
    if b == 0x22 then some ([], r)
    else if b < 0x20 then none
    else if b != 0x5C then do
      let (ps, rest) ← pieces? r
      some (.octet b :: ps, rest)
    else match r with
      | [] => none
      | e :: r =>
        if e == 0x75 then
          match r with
          | x :: y :: z :: w :: r => do
            let n ← hexUnit? x y z w
            let (ps, rest) ← pieces? r
            some (.unit n :: ps, rest)
          | _ => none
        else do
          let b ← escaped? e
          let (ps, rest) ← pieces? r
          some (.octet b :: ps, rest)

/-- The octets that pieces spell, unless a surrogate stands alone. -/
def spelt? : List Piece → Option Octets
  | [] => some []
  | .octet b :: r => (spelt? r).map (b :: ·)
  | .unit n :: r =>
    if 0xD800 ≤ n && n < 0xDC00 then
      match r with
      | .unit m :: r =>
        if 0xDC00 ≤ m && m < 0xE000 then
          (spelt? r).map
            (String.utf8EncodeChar (.ofNat (0x10000 + 1024 * (n - 0xD800) + (m - 0xDC00))) ++ ·)
        else none
      | _ => none
    else if 0xDC00 ≤ n && n < 0xE000 then none
    else (spelt? r).map (String.utf8EncodeChar (.ofNat n) ++ ·)

def textOf? (ps : List Piece) : Option String :=
  (spelt? ps >>= ofOctets?).map String.ofList

def isDigitOctet (b : UInt8) : Bool := 0x30 ≤ b && b ≤ 0x39

def digits? (bs : Octets) : Option (Octets × Octets) :=
  let ds := bs.takeWhile isDigitOctet
  if ds.isEmpty then none else some (ds, bs.dropWhile isDigitOctet)

def whole? (bs : Octets) : Option (Octets × Octets) := do
  let (ds, r) ← digits? bs
  if ds.length > 1 && ds.head? == some 0x30 then none else some (ds, r)

def fraction? (bs : Octets) : Option (Octets × Octets) :=
  match bs with
  | b :: r => if b == 0x2E then (digits? r).map fun (ds, r) => (b :: ds, r) else some ([], bs)
  | [] => some ([], [])

def exponent? (bs : Octets) : Option (Octets × Octets) :=
  match bs with
  | b :: r =>
    if b == 0x65 || b == 0x45 then
      match r with
      | s :: r' =>
        if s == 0x2B || s == 0x2D then (digits? r').map fun (ds, r) => (b :: s :: ds, r)
        else (digits? r).map fun (ds, r) => (b :: ds, r)
      | [] => none
    else some ([], bs)
  | [] => some ([], [])

def number? (bs : Octets) : Option (Octets × Octets) := do
  let (sign, bs) := match bs with
    | b :: r => if b == 0x2D then ([b], r) else ([], bs)
    | [] => ([], [])
  let (w, bs) ← whole? bs
  let (f, bs) ← fraction? bs
  let (e, bs) ← exponent? bs
  some (sign ++ w ++ f ++ e, bs)

def after? (word : String) (bs : Octets) : Option Octets :=
  let w := octetsOf word.toList
  if w.isPrefixOf bs then some (bs.drop w.length) else none

mutual

def value? : Nat → Octets → Option (Document × Octets)
  | 0, _ => none
  | fuel + 1, bs =>
    match skip bs with
    | [] => none
    | b :: r =>
      match Char.ofNat b.toNat with
      | '"' => (pieces? r).map fun (ps, r) => (.string (textOf? ps), r)
      | '[' =>
        match skip r with
        | [] => none
        | b :: r' =>
          if b == 0x5D then some (.array [], r')
          else (items? fuel r).map fun (vs, r) => (.array vs, r)
      | '\x7b' =>
        match skip r with
        | [] => none
        | b :: r' =>
          if b == 0x7D then some (.object [], r')
          else (members? fuel r).map fun (ms, r) => (.object ms, r)
      | 'n' => (after? "ull" r).map (Value.null, ·)
      | 't' => (after? "rue" r).map (Value.bool true, ·)
      | 'f' => (after? "alse" r).map (Value.bool false, ·)
      | _ =>
        (number? (b :: r)).map fun (ds, r) =>
          (.number (.ofList (ds.map fun b => Char.ofNat b.toNat)), r)

def items? : Nat → Octets → Option (List Document × Octets)
  | 0, _ => none
  | fuel + 1, bs => do
    let (v, r) ← value? fuel bs
    match skip r with
    | [] => none
    | b :: r =>
      if b == 0x5D then some ([v], r)
      else if b == 0x2C then (items? fuel r).map fun (vs, r) => (v :: vs, r)
      else none

def members? : Nat → Octets → Option (List (Option String × Document) × Octets)
  | 0, _ => none
  | fuel + 1, bs =>
    match skip bs with
    | [] => none
    | q :: r =>
      if q != 0x22 then none else do
      let (ps, r) ← pieces? r
      match skip r with
      | [] => none
      | c :: r =>
        if c != 0x3A then none else do
        let (v, r) ← value? fuel r
        match skip r with
        | [] => none
        | b :: r =>
          if b == 0x7D then some ([(textOf? ps, v)], r)
          else if b == 0x2C then (members? fuel r).map fun (ms, r) => ((textOf? ps, v) :: ms, r)
          else none

end

def read? (bs : Octets) : Option Document := do
  let (v, r) ← value? (2 * bs.length + 2) bs
  if (skip r).isEmpty then some v else none

end RdapDirectory.Json
