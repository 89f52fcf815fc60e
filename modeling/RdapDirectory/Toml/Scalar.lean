import RdapDirectory.Text.Cut
import RdapDirectory.Text.Numeral
import RdapDirectory.Toml.Value

namespace RdapDirectory.Toml

open Text

def grouped? (p : Char → Bool) (cs : List Char) : Option (List Char) :=
  let groups := pieces (· == '_') cs
  if groups.all fun g => !g.isEmpty && g.all p then some groups.flatten else none

def unsign : List Char → List Char
  | '+' :: r | '-' :: r => r
  | cs => cs

def whole? (cs : List Char) : Option (List Char) :=
  (grouped? isDigit cs).filter fun ds => ds.length == 1 || ds.head? != some '0'

/-- Whole numbers have at most 128 bits. -/
def isWhole (cs : List Char) : Bool :=
  match cs with
  | '0' :: 'x' :: r => ((grouped? isHexDigit r).map hexadecimalValue).any (· < Nat.pow 2 128)
  | '0' :: 'o' :: r =>
    ((grouped? (fun c => '0' ≤ c && c ≤ '7') r).map
      (·.foldl (fun n c => 8 * n + digitValue c) 0)).any (· < Nat.pow 2 128)
  | '0' :: 'b' :: r =>
    ((grouped? (fun c => c == '0' || c == '1') r).map
      (·.foldl (fun n c => 2 * n + digitValue c) 0)).any (· < Nat.pow 2 128)
  | '-' :: r => ((whole? r).map decimalValue).any (· ≤ Nat.pow 2 127)
  | _ => ((whole? (unsign cs)).map decimalValue).any (· < Nat.pow 2 128)

def isDecimal (cs : List Char) : Bool :=
  let cs := unsign cs
  let isExponent := fun e => (grouped? isDigit (unsign e)).isSome
  let isMantissa := fun m =>
    match cut? (· == '.') m with
    | some (w, f) => (whole? w).isSome && (grouped? isDigit f).isSome
    | none => false
  if cs = "inf".toList || cs = "nan".toList then true
  else match cut? (fun c => c == 'e' || c == 'E') cs with
    | some (m, e) => ((whole? m).isSome || isMantissa m) && isExponent e
    | none => isMantissa cs

def digits? (count : Nat) (cs : List Char) : Option Nat :=
  if cs.length = count then decimal? cs else none

def isLeapYear (y : Nat) : Bool := y % 4 == 0 && (y % 100 != 0 || y % 400 == 0)

def daysIn (y m : Nat) : Nat :=
  if m == 2 then (if isLeapYear y then 29 else 28)
  else if m == 4 || m == 6 || m == 9 || m == 11 then 30 else 31

def isDate (cs : List Char) : Bool :=
  match (pieces (· == '-') cs) with
  | [y, m, d] =>
    match digits? 4 y, digits? 2 m, digits? 2 d with
    | some y, some m, some d => 1 ≤ m && m ≤ 12 && 1 ≤ d && d ≤ daysIn y m
    | _, _, _ => false
  | _ => false

/-- Seconds may have a fraction, and a minute sixty-one of them. -/
def isClock (cs : List Char) : Bool :=
  let (front, fraction) := (cut? (· == '.') cs).getD (cs, ['0'])
  (decimal? fraction).isSome &&
    match pieces (· == ':') front with
    | [h, m, s] => (digits? 2 h).any (· < 24) && (digits? 2 m).any (· < 60) &&
        (digits? 2 s).any (· ≤ 60)
    | _ => false

def isOffset (cs : List Char) : Bool :=
  match cs with
  | ['Z'] | ['z'] => true
  | c :: r => (c == '+' || c == '-') &&
      match pieces (· == ':') r with
      | [h, m] => (digits? 2 h).any (· < 24) && (digits? 2 m).any (· < 60)
      | _ => false
  | [] => false

def isMoment (cs : List Char) : Bool :=
  let isJoint := fun c => c == 'T' || c == 't' || c == ' '
  match cut? isJoint cs with
  | none => isDate cs || isClock cs
  | some (date, rest) =>
    let clock := rest.takeWhile fun c => isDigit c || c == ':' || c == '.'
    let offset := rest.dropWhile fun c => isDigit c || c == ':' || c == '.'
    isDate date && isClock clock && (offset.isEmpty || isOffset offset)

def scalar? (cs : List Char) : Option Value :=
  if cs = "true".toList then some (.bool true)
  else if cs = "false".toList then some (.bool false)
  else if isWhole cs || isDecimal cs then some (.number (.ofList cs))
  else if isMoment cs then some (.moment (.ofList cs))
  else none

end RdapDirectory.Toml
