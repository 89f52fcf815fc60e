import RdapDirectory.Request.Subject
import RdapDirectory.Url.Reader

namespace RdapDirectory

open Request

inductive Request where
  | unplaced (subject : Subject)
  | placed (subject : Subject) (url : Url)
  | link (url : Url)

namespace Request

def kind : Request → String
  | unplaced s | placed s _ => s.kind
  | link _ => "url"

def text : Request → String
  | unplaced s | placed s _ => s.text
  | link _ => ""

def uri : Request → List Char
  | unplaced s | placed s _ => s.uri
  | link _ => []

def url? : Request → Option Url
  | unplaced _ => none
  | placed _ u | link u => some u

def registry? : Request → Option Registry.Kind
  | unplaced s | placed s _ => s.registry?
  | link _ => none

def baseOf (server : Url) : List Char :=
  let base := server.trunk.write
  if base.getLast? = some '/' then base else base ++ ['/']

def place (r : Request) (server : Url) : Except Failure Request :=
  match r with
  | unplaced s =>
    let cs := baseOf server ++ s.uri
    match Url.readChars cs with
    | .ok u => .ok (placed s u)
    | .error e =>
      .error (.invalidRequest s!"invalid request URL '{String.ofList cs}': {e.message}")
  | _ => .error (.invalidRequest "request server already set")

def subjectOf (s : String) : Subject :=
  let cs := s.toList
  match Ip.Address.read? cs, Ip.Block.read? cs, Registry.Systems.number? s with
  | some a, _, _ => .address a
  | _, some b, _ => .network b.network
  | _, _, .ok n => .system n
  | _, _, _ => if cs.contains '.' then .domain s else .entity s

/-- Guesses what a text asks for. The URL of a whole site asks about its host. -/
def detect (s : String) : Request :=
  match Url.read s with
  | .error _ => unplaced (subjectOf s)
  | .ok u =>
    if !u.isWeb then unplaced (subjectOf s)
    else match u.isBare, u.host? with
      | true, some h => unplaced (.domain (.ofList h.write))
      | _, _ => link u

end Request

end RdapDirectory
