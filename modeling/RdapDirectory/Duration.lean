import RdapDirectory.Text.Blank
import RdapDirectory.Text.LetterCase
import RdapDirectory.Text.Numeral

namespace RdapDirectory.Duration

open Text

def limit : Nat := Nat.pow 2 64

def unitSeconds? : Char → Option Nat
  | 's' => some 1
  | 'm' => some 60
  | 'h' => some 3600
  | 'd' => some 86400
  | _ => none

def seconds? (s : String) : Option Nat :=
  let cs := (lower (trim s)).toList
  match cs.getLast? with
  | none => none
  | some c =>
    match unitSeconds? c with
    | some unit => ((unsigned? limit cs.dropLast).map (· * unit)).filter (· < limit)
    | none => unsigned? limit cs

def decimalText (places n : Nat) : List Char :=
  let fraction := decimalDigits (n % Nat.pow 10 places)
  let padded := List.replicate (places - fraction.length) '0' ++ fraction
  let kept := (padded.reverse.dropWhile (· == '0')).reverse
  decimalDigits (n / Nat.pow 10 places) ++ if n % Nat.pow 10 places = 0 then [] else '.' :: kept

def text (nanoseconds : Nat) : String :=
  let n := nanoseconds
  if n ≥ 1000000000 then .ofList (decimalText 9 n) ++ "s"
  else if n ≥ 1000000 then .ofList (decimalText 6 n) ++ "ms"
  else if n ≥ 1000 then .ofList (decimalText 3 n) ++ "µs"
  else .ofList (decimalDigits n) ++ "ns"

end RdapDirectory.Duration
