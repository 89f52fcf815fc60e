import RdapDirectory.Idna.Ascii
import RdapDirectory.Ip.AddressText
import RdapDirectory.Text.Cut
import RdapDirectory.Text.Percent
import RdapDirectory.Url.Fault

namespace RdapDirectory.Url

open Text Ip

structure Domain where
  chars : List Char
  stable : Idna.toAscii? chars = some chars
deriving DecidableEq

inductive Host where
  | empty
  | domain (name : Domain)
  | address (a : Address)
  | plain (text : String)
deriving DecidableEq

/-- A number of an address in the old notation: hexadecimal after `0x`, octal after `0`, else
decimal. -/
def looseNumber? (cs : List Char) : Option Nat :=
  match cs with
  | [] => none
  | '0' :: 'x' :: r | '0' :: 'X' :: r =>
    if r.all isHexDigit then some (hexadecimalValue r) else none
  | '0' :: d :: r =>
    if (d :: r).all fun c => '0' ≤ c && c ≤ '7' then
      some ((d :: r).foldl (fun n c => 8 * n + digitValue c) 0)
    else none
  | _ => if cs.all isDigit then some (decimalValue cs) else none

def numberParts (cs : List Char) : List (List Char) :=
  let parts := pieces (· == '.') cs
  if parts.length > 1 && parts.getLast? == some [] then parts.dropLast else parts

def endsInNumber (cs : List Char) : Bool :=
  match (numberParts cs).getLast? with
  | some part => (!part.isEmpty && part.all isDigit) || (looseNumber? part).isSome
  | none => false

/-- Up to four numbers: the first ones are octets, the last one fills the rest. -/
def looseAddress? (cs : List Char) : Option Address := do
  let parts := numberParts cs
  if parts.length > 4 then none
  let numbers ← parts.mapM looseNumber?
  let tail ← numbers.getLast?
  let front := numbers.dropLast
  if front.all (· < 256) && tail < Nat.pow 256 (4 - front.length) then
    some (.ofNat .v4 (Address.spell 256 front * Nat.pow 256 (4 - front.length) + tail))
  else none

def bracketed? (cs : List Char) : Except Fault Host :=
  match cs.getLast?, Address.readV6? cs.tail.dropLast with
  | some ']', some a => .ok (.address a)
  | _, _ => .error .badV6

def namedHost? (cs : List Char) : Except Fault Host :=
  if cs.head? = some '[' then bracketed? cs
  else
    match ofOctets? (unescape (octetsOf cs)) >>= Idna.toAscii? with
    | none => .error .badDomain
    | some name =>
      if name.isEmpty then .error .emptyHost
      else if endsInNumber name then
        match looseAddress? name with
        | some a => .ok (.address a)
        | none => .error .badV4
      else if h : Idna.toAscii? name = some name then .ok (.domain ⟨name, h⟩)
      else .error .badDomain

def isPrintable (c : Char) : Bool := 0x20 ≤ c.toNat && c.toNat < 0x7F

def isHostForbidden (c : Char) : Bool := "\x00\t\n\r #/:<>?@[\\]^|".toList.contains c

def plainHost? (cs : List Char) : Except Fault Host :=
  if cs.head? = some '[' then bracketed? cs
  else if cs.any isHostForbidden then .error .badHostCharacter
  else if cs.isEmpty then .ok .empty
  else .ok (.plain (.ofList (escape isPrintable cs)))

def Host.write : Host → List Char
  | empty => []
  | domain name => name.chars
  | address a =>
    match a.family with
    | .v4 => a.writeV4
    | .v6 => '[' :: Address.writeGroups a.groups ++ [']']
  | plain text => text.toList

end RdapDirectory.Url
