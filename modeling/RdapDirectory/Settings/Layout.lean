import RdapDirectory.Settings.Sections
import RdapDirectory.Toml.Reader

namespace RdapDirectory.Settings

open Toml

abbrev Setter (α : Type) := α → Value → Option α

def text? : Value → Option String
  | .text s => some s
  | _ => none

def bool? : Value → Option Bool
  | .bool b => some b
  | _ => none

def ofMembers? {α : Type} (keys : List (String × Setter α)) (a : α) : Members → Option α
  | [] => some a
  | (name, v) :: rest =>
    match keys.lookup name with
    | some set => (set a v).bind fun a => ofMembers? keys a rest
    | none => ofMembers? keys a rest

def ofItems? {α : Type} (a : α) : List (String × Setter α) → List Value → Option α
  | [], _ => some a
  | (_, set) :: keys, v :: vs => (set a v).bind fun a => ofItems? a keys vs
  | _ :: _, [] => none

/-- A section is a table, or an array of all its values. A moment sets nothing. -/
def section? {α : Type} (keys : List (String × Setter α)) (a : α) : Value → Option α
  | .table _ ms => ofMembers? keys a ms
  | .array vs => ofItems? a keys vs
  | .tables ts => ofItems? a keys (ts.map (.table .header))
  | .moment _ => some a
  | _ => none

def registryKeys : List (String × Setter RegistrySection) := [
  ("base_url", fun s v => (text? v).map ({ s with baseUrl := some · })),
  ("service_provider_experiment", fun s v => (bool? v).map ({ s with experiment := some · }))]

def cacheKeys : List (String × Setter CacheSection) := [
  ("dir", fun s v => (text? v).map ({ s with dir := some · })),
  ("disk", fun s v => (bool? v).map ({ s with disk := some · })),
  ("ttl", fun s v => (text? v).map ({ s with ttl := some · }))]

def httpKeys : List (String × Setter HttpSection) := [
  ("timeout", fun s v => (text? v).map ({ s with timeout := some · })),
  ("user_agent", fun s v => (text? v).map ({ s with userAgent := some · })),
  ("insecure", fun s v => (bool? v).map ({ s with insecure := some · }))]

def sectionKeys : List (String × Setter Sections) := [
  ("bootstrap", fun s v => (section? registryKeys {} v).map ({ s with registry := some · })),
  ("cache", fun s v => (section? cacheKeys {} v).map ({ s with cache := some · })),
  ("http", fun s v => (section? httpKeys {} v).map ({ s with http := some · }))]

def Sections.read (content : String) : Except Failure Sections :=
  match Toml.read? content >>= ofMembers? sectionKeys {} with
  | some s => .ok s
  | none => .error (.config "Failed to parse TOML configuration")

end RdapDirectory.Settings
