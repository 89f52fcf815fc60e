import RdapDirectory.Registry.Answer
import RdapDirectory.Registry.File

namespace RdapDirectory.Registry

open Text

structure Domains where
  file : File

namespace Domains

def read (bytes : List UInt8) : Except Failure Domains := (File.read bytes).map Domains.mk

def names (d : Domains) : List String := d.file.entries.keys

/-- The name in small letters, less one final dot. -/
def canonical (query : String) : String :=
  let cs := query.toList
  lower (.ofList (if cs.getLast? = some '.' then cs.dropLast else cs))

def afterDots : List Char → List (List Char)
  | [] => []
  | c :: r => if c = '.' then r :: afterDots r else afterDots r

def candidates (name : List Char) : List (List Char) := name :: afterDots name ++ [[]]

def lookup (d : Domains) (query : String) : Answer :=
  let name := canonical query
  let found := (candidates name.toList).findSome? fun cs =>
    (d.file.entries.find? (.ofList cs)).map fun urls => Answer.mk name (.ofList cs) urls
  found.getD (.noMatch name)

end Domains

end RdapDirectory.Registry
