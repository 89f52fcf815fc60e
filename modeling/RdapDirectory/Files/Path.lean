import RdapDirectory.Files.Tree
import RdapDirectory.Text.Cut
import RdapDirectory.Text.Percent

namespace RdapDirectory.Files

open Text

inductive Fault where
  | missing
  | taken
  | notFolder
  | isFolder
  | notText
deriving DecidableEq, Repr

def Fault.message : Fault → String
  | missing => "No such file or directory (os error 2)"
  | taken => "File exists (os error 17)"
  | notFolder => "Not a directory (os error 20)"
  | isFolder => "Is a directory (os error 21)"
  | notText => "stream did not contain valid UTF-8"

def join (folder name : String) : String :=
  if name.toList.head? = some '/' || folder.isEmpty then name
  else if folder.toList.getLast? = some '/' then folder ++ name
  else folder ++ "/" ++ name

def steps (path : String) : List String := (pieces (· == '/') path.toList).map String.ofList

/-- The path less its last name, where names of no effect do not count. -/
def parents (path : String) : List String :=
  let root := if path.toList.head? = some '/' then "/" else ""
  let names := (steps path).filter fun s => s != "" && s != "."
  (List.range names.length).reverse.map fun n => root ++ "/".intercalate (names.take n)

namespace Tree

def walk (t : Tree) (p : Place) : List String → Except Fault Place
  | [] => .ok p
  | s :: rest =>
    match t.get? p with
    | none => .error .missing
    | some (.file ..) => .error .notFolder
    | some (.folder _) =>
      walk t (if s = "" || s = "." then p else if s = ".." then p.tail else s :: p) rest

def origin (t : Tree) (path : String) : Place :=
  if path.toList.head? = some '/' then [] else t.here

/-- The place that a path leads to, where nothing need be yet. -/
def locate (t : Tree) (path : String) : Except Fault Place :=
  if path.isEmpty then .error .missing else t.walk (t.origin path) (steps path)

def stat (t : Tree) (path : String) : Except Fault Node := do
  match t.get? (← t.locate path) with
  | some n => return n
  | none => throw .missing

def has (t : Tree) (path : String) : Bool := (t.stat path).isOk

def hasFolder (t : Tree) (path : String) : Bool :=
  match t.stat path with
  | .ok n => n.isFolder
  | .error _ => false

def read (t : Tree) (path : String) : Except Fault (List UInt8) := do
  match ← t.stat path with
  | .file bytes _ => return bytes
  | .folder _ => throw .isFolder

def readText (t : Tree) (path : String) : Except Fault String := do
  match ofOctets? (← t.read path) with
  | some cs => return .ofList cs
  | none => throw .notText

/-- The folder that an entry is in or would be in, and the name of the entry. -/
def locateEntry (t : Tree) (path : String) : Except Fault (Place × String) := do
  if path.isEmpty then throw .missing
  let names := ((steps path).reverse.dropWhile (· == "")).reverse
  match names.getLast? with
  | none => throw .taken
  | some name =>
    let p ← t.walk (t.origin path) names.dropLast
    match t.get? p with
    | some (.folder _) => return (p, name)
    | some (.file ..) => throw .notFolder
    | none => throw .missing

def makeFolder (t : Tree) (path : String) (now : Instant) : Except Fault Tree := do
  let (p, name) ← t.locateEntry path
  if name = "." || name = ".." || (t.get? (name :: p)).isSome then throw .taken
  return t.link p name (.folder now) now

/-- Makes the first of some folders, each below the next, and as many of the others as that
takes. -/
def makeChain (t : Tree) (now : Instant) : List String → Except Fault Unit × Tree
  | [] => (.ok (), t)
  | path :: rest =>
    if path.isEmpty then (.ok (), t)
    else match t.makeFolder path now with
      | .ok t => (.ok (), t)
      | .error .missing =>
        match t.makeChain now rest with
        | (.error e, t) => (.error e, t)
        | (.ok (), t) =>
          match t.makeFolder path now with
          | .ok t => (.ok (), t)
          | .error e => (if t.hasFolder path then .ok () else .error e, t)
      | .error e => (if t.hasFolder path then .ok () else .error e, t)

def makeFolders (t : Tree) (path : String) (now : Instant) : Except Fault Unit × Tree :=
  t.makeChain now (path :: parents path)

def freshName (t : Tree) (folder : Place) : String :=
  let names := (List.range (t.nodes.length + 1)).map fun n => s!".tmp{n}"
  (names.find? fun s => (t.get? (s :: folder)).isNone).getD ".tmp"

def moveOver (t : Tree) (folder : Place) (name path : String) (now : Instant) :
    Except Fault Tree := do
  let (p, target) ← t.locateEntry path
  match t.get? (name :: folder) with
  | none => throw .missing
  | some n =>
    if target = "." || target = ".." || ((t.get? (target :: p)).any Node.isFolder) then
      throw .isFolder
    return (t.unlink folder name now).link p target n now

end Tree

end RdapDirectory.Files
