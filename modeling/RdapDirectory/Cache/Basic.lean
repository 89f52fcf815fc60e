import RdapDirectory.Cache.Disk
import RdapDirectory.Cache.Memory

namespace RdapDirectory

open Files

inductive Cache where
  | memory (m : Cache.Memory)
  | disk (d : Cache.Disk)

namespace Cache

def ttl : Cache → Nat
  | memory m => m.ttl
  | disk d => d.ttl

def setTtl (c : Cache) (seconds : Nat) : Cache :=
  match c with
  | memory m => memory { m with ttl := seconds }
  | disk d => disk { d with ttl := seconds }

def load (c : Cache) (t : Tree) (name : String) : Except Failure (List UInt8) × Cache :=
  match c with
  | memory m => (m.load name, c)
  | disk d =>
    let (r, d) := d.load t name
    (r, disk d)

def save (c : Cache) (t : Tree) (name : String) (bytes : List UInt8) (now : Instant) :
    Except Failure Unit × Cache × Tree :=
  match c with
  | memory m => (.ok (), memory (m.save name bytes now), t)
  | disk d =>
    let (r, d, t) := d.save t name bytes now
    (r, disk d, t)

def freshness (c : Cache) (t : Tree) (name : String) (now : Instant) : Freshness :=
  match c with
  | memory m => m.freshness name now
  | disk d => d.freshness t name now

def usualFolder (home : Option String) : Except Failure String :=
  match home with
  | some h => .ok (join h ".rdap-bootstrap")
  | none => .error (.config "Unable to determine home directory for the cache")

end Cache

end RdapDirectory
