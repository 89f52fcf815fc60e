import RdapDirectory.Registry.Answer
import RdapDirectory.Registry.File

namespace RdapDirectory.Registry

structure Tags where
  file : File

namespace Tags

def read (bytes : List UInt8) : Except Failure Tags := (File.read bytes).map Tags.mk

/-- What follows the last tilde or hyphen, if that is anything. -/
def tag? (handle : String) : Option String :=
  match Text.cutLast? (fun c => c == '~' || c == '-') handle.toList with
  | some (_, cs) => if cs.isEmpty then none else some (.ofList cs)
  | none => none

def lookup (t : Tags) (query : String) : Answer :=
  match tag? query with
  | none => .noMatch query
  | some tag =>
    match t.file.entries.find? tag with
    | some urls => ⟨query, tag, urls⟩
    | none => .noMatch query

end Tags

end RdapDirectory.Registry
