import RdapDirectory.Cache.Freshness
import RdapDirectory.Failure
import RdapDirectory.Files.Path

/-!
A cache in a folder that several clients may share. Each remembers when the files it has loaded or
saved had been changed, and takes a later change for somebody else's. A file is replaced as a
whole, by moving a finished one over it.
-/

namespace RdapDirectory.Cache

open Files

structure Disk where
  folder : String
  ttl : Nat
  seen : List (String × Instant)

namespace Disk

def inFolder (folder : String) (ttl : Nat) : Disk := ⟨folder, ttl, []⟩

def path (d : Disk) (name : String) : String := join d.folder name

def modified (d : Disk) (t : Tree) (name : String) : Except Fault Instant :=
  (t.stat (d.path name)).map Node.modified

def see (d : Disk) (name : String) (changed : Instant) : Disk :=
  { d with seen := (name, changed) :: d.seen }

def readFault (name : String) : Fault → Failure
  | .missing => .cache name "not found in cache"
  | e => .cache name s!"Failed to read cached file: {e.message}"

def writeFault (name : String) (e : Fault) : Failure :=
  .cache name s!"Failed to write cache file: {e.message}"

def folderFault (d : Disk) (e : Fault) : Failure :=
  .cache d.folder s!"Failed to create cache directory: {e.message}"

/-- The time is taken before the octets, so that a change in between is still to be seen. -/
def load (d : Disk) (t : Tree) (name : String) : Except Failure (List UInt8) × Disk :=
  match d.modified t name, t.read (d.path name) with
  | .ok changed, .ok bytes => (.ok bytes, d.see name changed)
  | .error e, _ | _, .error e => (.error (readFault name e), d)

def prepare (d : Disk) (t : Tree) (now : Instant) : Except Failure Unit × Tree :=
  match t.makeFolders d.folder now with
  | (.ok (), t) => (.ok (), t)
  | (.error e, t) => (.error (d.folderFault e), t)

def place (d : Disk) (t : Tree) : Except Fault Place :=
  if d.folder.isEmpty then .ok t.here else t.locate d.folder

def replace (d : Disk) (t : Tree) (name : String) (bytes : List UInt8) (now : Instant) :
    Except Fault Unit × Tree :=
  match d.place t with
  | .error e => (.error e, t)
  | .ok p =>
    let fresh := t.freshName p
    let t := t.link p fresh (.file bytes now) now
    match t.moveOver p fresh (d.path name) now with
    | .ok t => (.ok (), t)
    | .error e => (.error e, t.unlink p fresh now)

def save (d : Disk) (t : Tree) (name : String) (bytes : List UInt8) (now : Instant) :
    Except Failure Unit × Disk × Tree :=
  match d.prepare t now with
  | (.error e, t) => (.error e, d, t)
  | (.ok (), t) =>
    match d.replace t name bytes now with
    | (.error e, t) => (.error (writeFault name e), d, t)
    | (.ok (), t) =>
      match d.modified t name with
      | .error e => (.error (writeFault name e), d, t)
      | .ok changed => (.ok (), d.see name changed, t)

def freshness (d : Disk) (t : Tree) (name : String) (now : Instant) : Freshness :=
  match d.modified t name with
  | .error _ => .absent
  | .ok changed =>
    if isExpired d.ttl changed now then .expired
    else match d.seen.lookup name with
      | some s => if changed ≤ s then .good else .outdated
      | none => .outdated

end Disk

end RdapDirectory.Cache
