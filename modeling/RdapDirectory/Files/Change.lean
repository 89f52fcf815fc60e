import RdapDirectory.Files.Path

namespace RdapDirectory.Files.Tree

def root (now : Instant) : Tree := ⟨[([], .folder now)], []⟩

def write (t : Tree) (path : String) (bytes : List UInt8) (now : Instant) :
    Except Fault Unit × Tree :=
  match t.makeChain now (parents path) with
  | (.error e, t) => (.error e, t)
  | (.ok (), t) =>
    match t.locateEntry path with
    | .error e => (.error e, t)
    | .ok (p, name) =>
      match t.get? (name :: p) with
      | some (.folder _) => (.error .isFolder, t)
      | some (.file ..) => (.ok (), t.put (name :: p) (.file bytes now))
      | none => (.ok (), t.link p name (.file bytes now) now)

def remove (t : Tree) (path : String) (now : Instant) : Except Fault Tree := do
  let (p, name) ← t.locateEntry path
  if (t.get? (name :: p)).isNone then throw .missing
  let inside := { t with nodes := t.nodes.filter fun (q, _) => !(name :: p).isSuffixOf q }
  return inside.touch p now

def setModified (t : Tree) (path : String) (changed : Instant) : Except Fault Tree := do
  let p ← t.locate path
  match t.get? p with
  | some n => return t.put p (n.touch changed)
  | none => throw .missing

def list (t : Tree) (path : String) : List String :=
  match t.locate path with
  | .ok p => if t.hasFolder path then t.names p else []
  | .error _ => []

end RdapDirectory.Files.Tree
