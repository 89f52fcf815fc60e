import RdapDirectory.Url.Host

namespace RdapDirectory.Url

open Text

structure Authority where
  user : String
  secret : Option String
  host : Host
  port : Option Nat
deriving DecidableEq

/-- A path is a list of segments, or free text where nothing can be relative to it. -/
inductive Path where
  | steps (segments : List String)
  | rootless (text : String)
deriving DecidableEq

end RdapDirectory.Url

namespace RdapDirectory

structure Url where
  scheme : String
  authority : Option Url.Authority
  path : Url.Path
  query : Option String
  fragment : Option String
deriving DecidableEq

namespace Url

def isHierarchical (scheme : String) : Bool :=
  scheme == "http" || scheme == "https" || scheme == "ws" || scheme == "wss" || scheme == "ftp"

/-- Schemes whose paths always have a segment, and for which a backslash is a slash. -/
def isSpecial (scheme : String) : Bool := isHierarchical scheme || scheme == "file"

def defaultPort? (scheme : String) : Option Nat :=
  if scheme == "http" || scheme == "ws" then some 80
  else if scheme == "https" || scheme == "wss" then some 443
  else if scheme == "ftp" then some 21
  else none

def Authority.write (a : Authority) : List Char :=
  let secret := match a.secret with
    | some s => ':' :: s.toList
    | none => []
  let credentials := if a.user.isEmpty && a.secret.isNone then [] else a.user.toList ++ secret ++ ['@']
  let port := match a.port with
    | some n => ':' :: Text.decimalDigits n
    | none => []
  credentials ++ a.host.write ++ port

def Path.write : Path → List Char
  | steps segments => segments.flatMap fun s => '/' :: s.toList
  | rootless text => text.toList

def Path.startsLikeHost : Path → Bool
  | steps (s :: _ :: _) => s.isEmpty
  | _ => false

def write (u : Url) : List Char :=
  let front := match u.authority with
    | some a => '/' :: '/' :: a.write
    | none => if u.path.startsLikeHost then ['/', '.'] else []
  let query := match u.query with
    | some q => '?' :: q.toList
    | none => []
  let fragment := match u.fragment with
    | some f => '#' :: f.toList
    | none => []
  u.scheme.toList ++ ':' :: front ++ u.path.write ++ query ++ fragment

def text (u : Url) : String := .ofList u.write

def isWeb (u : Url) : Bool := u.scheme == "http" || u.scheme == "https"

def host? (u : Url) : Option Host :=
  match u.authority with
  | some a => if a.host = .empty then none else some a.host
  | none => none

def isBare (u : Url) : Bool := u.path == .steps [] || u.path == .steps [""]

/-- The URL without query and fragment. Free text loses the blanks that these had protected. -/
def trunk (u : Url) : Url :=
  let path := match u.path with
    | .rootless text => .rootless (.ofList (text.toList.reverse.dropWhile (· == ' ')).reverse)
    | p => p
  { u with path, query := none, fragment := none }

end Url

end RdapDirectory
