import RdapDirectory.Client.World
import RdapDirectory.Url.Reader
import RdapDirectory.Web.Reason

namespace RdapDirectory.Web

open Client (Response)

structure Target where
  secure : Bool
  host : String
  port : Nat
  path : String
deriving DecidableEq

inductive Delivery where
  | page (code : Nat) (body : List UInt8)
  | dropped
  | silent
  | refused

def Target.ofUrl (text : String) : Except String Target :=
  match Url.read text with
  | .error e => .error e.message
  | .ok u =>
    match u.isWeb, u.authority with
    | true, some a => .ok {
        secure := u.scheme == "https"
        host := .ofList a.host.write
        port := (a.port <|> Url.defaultPort? u.scheme).getD 80
        path := .ofList (u.path.write ++ match u.query with
          | some q => '?' :: q.toList
          | none => []) }
    | _, _ => .error "URL scheme is not allowed"

def hasContent (code : Nat) : Bool := !(code < 200 || code == 204 || code == 304)

def receive (timeout : Nat) : Delivery → Except Failure Response
  | .page code body => .ok ⟨code, reason code, if hasContent code then body else []⟩
  | .dropped => .error (.network "HTTP request failed" (some "connection closed"))
  | .silent => .error (.timeout "registry file download" timeout)
  | .refused => .error (.network "Connection failed" (some "connection refused"))

def fetch (deliver : Target → Delivery) (timeout : Nat) (url : String) :
    Except Failure Response :=
  match Target.ofUrl url with
  | .error e => .error (.network "HTTP request failed" (some s!"builder error: {e}"))
  | .ok t => receive timeout (deliver t)

end RdapDirectory.Web
