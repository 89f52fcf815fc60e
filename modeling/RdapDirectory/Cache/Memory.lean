import RdapDirectory.Cache.Freshness
import RdapDirectory.Failure

namespace RdapDirectory.Cache

open Files

structure Record where
  bytes : List UInt8
  saved : Instant

structure Memory where
  ttl : Nat
  records : List (String × Record)

namespace Memory

def empty (ttl : Nat) : Memory := ⟨ttl, []⟩

def load (m : Memory) (name : String) : Except Failure (List UInt8) :=
  match m.records.lookup name with
  | some r => .ok r.bytes
  | none => .error (.cache name "not found in cache")

def save (m : Memory) (name : String) (bytes : List UInt8) (now : Instant) : Memory :=
  { m with records := (name, ⟨bytes, now⟩) :: m.records }

def freshness (m : Memory) (name : String) (now : Instant) : Freshness :=
  match m.records.lookup name with
  | none => .absent
  | some r => if isExpired m.ttl r.saved now then .expired else .good

end Memory

end RdapDirectory.Cache
