import RdapDirectory.Ip.Network
import RdapDirectory.Registry.Answer
import RdapDirectory.Registry.File
import RdapDirectory.Registry.Halving

namespace RdapDirectory.Registry

open Ip

structure Holding where
  network : Network
  urls : List Url

namespace Holding

def first (h : Holding) : Nat := h.network.first

def last (h : Holding) : Nat := h.network.last

def ofItem? (family : Family) (i : Item) : Option Holding := do
  let b ← Block.read? i.1.toList
  if b.family = family then some ⟨b.network, i.2⟩ else none

end Holding

structure Bucket where
  length : Nat
  holdings : Array Holding

namespace Bucket

def ofHoldings (holdings : List Holding) (length : Nat) : Bucket :=
  let own := holdings.filter (·.network.length = length)
  ⟨length, (own.mergeSort fun a b => a.first ≤ b.first).toArray⟩

/-- The last network that starts at `place` or before, if it reaches so far. -/
def find? (b : Bucket) (place : Nat) : Option Holding :=
  match countFront (·.first ≤ place) b.holdings with
  | 0 => none
  | n + 1 => (b.holdings[n]?).filter (place ≤ ·.last)

end Bucket

structure Networks where
  family : Family
  buckets : List Bucket
  file : File

namespace Networks

def ofFile (family : Family) (file : File) : Networks :=
  let holdings := file.entries.items.filterMap (Holding.ofItem? family)
  ⟨family, (List.range (family.width + 1)).reverse.map (Bucket.ofHoldings holdings), file⟩

def read (bytes : List UInt8) (family : Family) : Except Failure Networks :=
  (File.read bytes).map (ofFile family)

def written (query : String) : Except Failure String :=
  if query.toList.contains '/' then .ok query
  else match Address.read? query.toList with
    | some a => .ok (query ++ "/" ++ .ofList (Text.decimalDigits a.family.width))
    | none => .error (.invalidQuery query "invalid IP address")

def block? (text : String) : Except Failure Block :=
  match Block.read? text.toList with
  | some b => .ok b
  | none => .error (.invalidQuery text "invalid CIDR address")

def lookup (n : Networks) (query : String) : Except Failure Answer := do
  let text ← written query
  let b ← block? text
  if b.family ≠ n.family then throw (.familyMismatch query n.family.number)
  match (n.buckets.filter (·.length ≤ b.length)).findSome? (·.find? b.first) with
  | some h => return ⟨text, h.network.text, h.urls⟩
  | none => return .noMatch text

end Networks

end RdapDirectory.Registry
