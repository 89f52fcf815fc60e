import RdapDirectory.Command.Outcome
import RdapDirectory.Command.Setup

namespace RdapDirectory.Command

open Client (World)
open Registry (Kind)

structure Transcript where
  output : List String := []
  notes : List String := []
  succeeded : Bool

def Transcript.code (t : Transcript) : Nat := if t.succeeded then 0 else 1

def download (c : Client) (w : World) :
    List Kind → List String × Except Failure Unit × Client × World
  | [] => ([], .ok (), c, w)
  | k :: ks =>
    match c.download k w with
    | (.error e, c, w) => ([], .error e, c, w)
    | (.ok (), c, w) =>
      let (notes, r) := download c w ks
      (s!"Downloaded {k.file} from {c.registryUrl k}" :: notes, r)

def namesOf : Option Registry → List String
  | some (.domains d) => d.names
  | _ => []

def names (c : Client) (w : World) : Except Failure (List String) × Client × World :=
  let (r, c) := c.registry .dns w
  let (done, c, w) := if r.isNone then c.download .dns w else (.ok (), c, w)
  match done with
  | .error e => (.error e, c, w)
  | .ok () =>
    let (r, c) := c.registry .dns w
    (.ok (namesOf r), c, w)

def ask (c : Client) (registry : Option Kind) (query : String) (w : World) :
    Outcome × Client × World :=
  match registry with
  | some k =>
    let (r, c, w) := c.lookup k query w
    (⟨query, some k, r.map fun a => ⟨some a, []⟩⟩, c, w)
  | none =>
    let request := Request.detect query
    let (r, c, w) := c.resolve request w
    (⟨query, request.registry?, r⟩, c, w)

def askEach (c : Client) (registry : Option Kind) (w : World) :
    List String → List Outcome × Client × World
  | [] => ([], c, w)
  | q :: qs =>
    let (o, c, w) := ask c registry q w
    let (os, c, w) := askEach c registry w qs
    (o :: os, c, w)

def wanted (a : Arguments) : List Kind :=
  if !a.download then []
  else match a.registry with
    | some k => [k]
    | none => Kind.published

def note (f : Fault) : String := "Error: " ++ f.message

def answerAll (a : Arguments) (c : Client) (w : World) : Transcript × World :=
  if a.queries.isEmpty then ({ succeeded := true }, w)
  else
    let (os, _, w) := askEach c a.registry w a.queries
    let output := if a.json then [(Json.Value.array (os.map Outcome.json)).text] else report os
    ({ output, succeeded := os.all (!·.failed) }, w)

def listAndAnswer (a : Arguments) (c : Client) (w : World) : Transcript × World :=
  if !a.listNames then answerAll a c w
  else match names c w with
    | (.error e, _, w) => ({ notes := [note (.failure e)], succeeded := false }, w)
    | (.ok ns, c, w) =>
      let (t, w) := answerAll a c w
      ({ t with output := nameList ns ++ t.output }, w)

def runClient (a : Arguments) (c : Client) (w : World) : Transcript × World :=
  match download c w (wanted a) with
  | (notes, .error e, _, w) => ({ notes := notes ++ [note (.failure e)], succeeded := false }, w)
  | (notes, .ok (), c, w) =>
    let (t, w) := listAndAnswer a c w
    ({ t with notes := notes ++ t.notes }, w)

def client (a : Arguments) (e : Settings.Environment) (t : Files.Tree) : Except Fault Client := do
  if !a.isValid then throw .noTask
  (Client.make (← settings a e t) e.home).mapError .failure

def run (a : Arguments) (e : Settings.Environment) (w : World) : Transcript × World :=
  match client a e w.tree with
  | .ok c => runClient a c w
  | .error f => ({ notes := [note f], succeeded := false }, w)

end RdapDirectory.Command
