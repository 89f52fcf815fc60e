import RdapDirectory.Text.Numeral

/-!
Percent escapes: characters outside a kept set are written as the octets of their UTF-8 form,
each behind a percent sign.
-/

namespace RdapDirectory.Text

def hexCapital (n : Nat) : Char :=
  if n < 10 then .ofNat ('0'.toNat + n) else .ofNat ('A'.toNat + (n - 10))

def escapeOctet (b : UInt8) : List Char :=
  ['%', hexCapital (b.toNat / 16), hexCapital (b.toNat % 16)]

def escapeChar (c : Char) : List Char := (String.utf8EncodeChar c).flatMap escapeOctet

def escape (keep : Char → Bool) (cs : List Char) : List Char :=
  cs.flatMap fun c => if keep c then [c] else escapeChar c

def hexOctet? (b : UInt8) : Option Nat := hexValue? (.ofNat b.toNat)

/-- Undoes escapes. A percent sign without two digits after it stands for itself. -/
def unescape : List UInt8 → List UInt8
  | b :: x :: y :: r =>
    match b == 0x25, hexOctet? x, hexOctet? y with
    | true, some m, some n => .ofNat (16 * m + n) :: unescape r
    | _, _, _ => b :: unescape (x :: y :: r)
  | bs => bs

def octetsOf (cs : List Char) : List UInt8 := cs.flatMap String.utf8EncodeChar

def ofOctets? (bs : List UInt8) : Option (List Char) :=
  (String.fromUTF8? ⟨bs.toArray⟩).map String.toList

end RdapDirectory.Text
