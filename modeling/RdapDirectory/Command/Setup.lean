import RdapDirectory.Command.Arguments
import RdapDirectory.Settings.Discovery

namespace RdapDirectory.Command

inductive Fault where
  | noTask
  | badFile (path : String) (cause : Failure)
  | badTtl (value : String)
  | badTimeout (value : String)
  | failure (cause : Failure)
deriving DecidableEq

def Fault.message : Fault → String
  | noTask => "You must specify at least one query, or use --download or --list-tlds"
  | badFile path e => s!"Failed to load config file '{path}': {e.message}"
  | badTtl v => s!"Invalid --cache-ttl '{v}'. Use a format like '24h' or '90m'"
  | badTimeout v => s!"Invalid --timeout '{v}'. Use a format like '30s' or '2m'"
  | failure e => e.message

open Settings in
def sections (a : Arguments) (o : Overrides) (e : Environment) (t : Files.Tree) :
    Except Fault Sections :=
  match a.config <|> o.config with
  | some path => (load t path).mapError (.badFile path)
  | none => .ok (discover t e)

def Arguments.apply (a : Arguments) (c : Settings) : Except Fault Settings := do
  let c ← match a.baseUrl with
    | some u => (c.setBaseUrl u).mapError .failure
    | none => pure c
  let c := { c with
    cacheDir := a.cacheDir <|> c.cacheDir
    diskCache := c.diskCache && !a.noDiskCache }
  let c ← match a.cacheTtl with
    | none => pure c
    | some v =>
      match Duration.seconds? v with
      | some n => pure { c with ttl := n }
      | none => throw (.badTtl v)
  let c ← match a.timeout with
    | none => pure c
    | some v =>
      match (Duration.seconds? v).filter (· ≠ 0) with
      | some n => pure { c with timeout := n }
      | none => throw (.badTimeout v)
  return { c with
    insecure := c.insecure || a.insecure
    experiment := c.experiment || a.experiment }

def settings (a : Arguments) (e : Settings.Environment) (t : Files.Tree) :
    Except Fault Settings := do
  let o := e.overrides
  let s ← sections a o e t
  match s.apply .initial with
  | (.error f, _) => throw (.failure f)
  | (.ok (), c) => a.apply (o.apply c)

end RdapDirectory.Command
