import RdapDirectory.Files.Path
import RdapDirectory.Settings.Environment
import RdapDirectory.Settings.Layout

namespace RdapDirectory.Settings

open Files

def load (t : Tree) (path : String) : Except Failure Sections := do
  if !t.has path then throw (.config s!"Configuration file '{path}' not found")
  match t.readText path with
  | .error e =>
    throw (.config s!"Failed to read configuration file '{path}': {e.message}")
  | .ok content =>
    let s ← Sections.read content
    s.check
    return s

/-- The places of one layer's file. The first that is taken counts. -/
abbrev Candidates := List String

def sharedCandidates (e : Environment) : Candidates :=
  let folder := e.values.lookup "XDG_CONFIG_HOME" <|> e.home.map (join · ".config")
  folder.toList.map fun d => join (join d "rdap-bootstrap") "config.toml"

def homeCandidates (e : Environment) : Candidates :=
  e.home.toList.flatMap fun h => [join h ".rdap-bootstrap.toml", join h "rdap-bootstrap.toml"]

def localCandidates : Candidates := ["./rdap-bootstrap.toml", "./.rdap-bootstrap.toml"]

/-- Loads the file of one layer. A file that fails to load contributes nothing. -/
def layer (t : Tree) (places : Candidates) : Sections :=
  match places.find? t.has with
  | some path => (load t path).toOption.getD {}
  | none => {}

def discover (t : Tree) (e : Environment) : Sections :=
  ((layer t (sharedCandidates e)).under (layer t (homeCandidates e))).under
    (layer t localCandidates)

end RdapDirectory.Settings
