import RdapDirectory.Client.Basic
import RdapDirectory.Request.Basic

namespace RdapDirectory.Client

open Registry (Kind)

structure Resolution where
  answer : Option Registry.Answer
  urls : List Url

def registryFor? (c : Client) (r : Request) : Option Kind :=
  match r.registry? with
  | some .serviceProvider => if c.settings.experiment then some .serviceProvider else none
  | k => k

def placeEach (r : Request) (servers : List Url) : Except Failure (List Url) := do
  return (← servers.mapM r.place).filterMap Request.url?

def resolve (c : Client) (r : Request) (w : World) :
    Except Failure Resolution × Client × World :=
  match r.url?, c.registryFor? r with
  | some u, _ => (.ok ⟨none, [u]⟩, c, w)
  | none, none => (.error (.serverNeeded r.kind), c, w)
  | none, some k =>
    match c.lookup k r.text w with
    | (.error e, c, w) => (.error e, c, w)
    | (.ok a, c, w) => ((placeEach r a.urls).map (⟨some a, ·⟩), c, w)

end RdapDirectory.Client
