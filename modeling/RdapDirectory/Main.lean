import RdapDirectory.Command.Run
import RdapDirectory.Files.Change
import RdapDirectory.Web.Exchange
import Std.Time.DateTime

/-!
The command by itself. It has no connection to any server: registries come from cached files.
-/

namespace RdapDirectory.Command

open Files

def variableNames : List String :=
  "XDG_CONFIG_HOME" ::
    [ "BASE_URL", "CACHE_DIR", "DISK_CACHE", "CACHE_TTL", "TIMEOUT", "USER_AGENT", "INSECURE",
      "EXPERIMENTAL", "CONFIG" ].map ("RDAP_BOOTSTRAP_" ++ ·)

def readEnvironment : IO Settings.Environment := do
  let values ← variableNames.filterMapM fun name => do
    return (← IO.getEnv name).map (name, ·)
  return { home := (← IO.getEnv "HOME").filter (!·.isEmpty), values }

def copy (t : Tree) (path : String) : IO Tree := do
  let place := (← IO.currentDir) / path
  if !(← place.pathExists) then return t
  let changed := (← place.metadata).modified
  let time : Instant := changed.sec * 1000000000 + changed.nsec.toNat
  if ← place.isDir then return (t.makeFolders path time).2
  try return (t.write path (← IO.FS.readBinFile place).toList time).2
  catch _ => return t

def readTree (now : Instant) : IO Tree := do
  let names := steps (← IO.currentDir).toString
  let t := (Tree.root now).makeFolders (← IO.currentDir).toString now
  return { t.2 with here := (names.filter (!·.isEmpty)).reverse }

def configPaths (a : Arguments) (e : Settings.Environment) : List String :=
  match a.config <|> e.overrides.config with
  | some path => [path]
  | none =>
    Settings.sharedCandidates e ++ Settings.homeCandidates e ++ Settings.localCandidates

def cachePaths (s : Settings) (home : Option String) : List String :=
  match s.cacheDir <|> (Cache.usualFolder home).toOption with
  | some folder => Registry.Kind.all.map fun k => join folder k.file
  | none => []

def noServer (timeout : Nat) (url : String) : Client.Reply :=
  { result := some (Web.fetch (fun _ => .refused) timeout url) }

def perform (a : Arguments) : IO UInt32 := do
  let now : Instant := (← Std.Time.Timestamp.now).toNanosecondsSinceUnixEpoch.val
  let e ← readEnvironment
  let t ← (configPaths a e).foldlM copy (← readTree now)
  let paths := match settings a e t with
    | .ok s => cachePaths s e.home
    | .error _ => []
  let tree ← paths.foldlM copy t
  let (transcript, _) := run a e { tree, now, site := noServer 0 }
  transcript.output.forM fun line => IO.println line
  transcript.notes.forM fun line => IO.eprintln line
  return transcript.code.toUInt32

end RdapDirectory.Command

def main (args : List String) : IO UInt32 :=
  match RdapDirectory.Command.Arguments.read args with
  | .ok a => RdapDirectory.Command.perform a
  | .error h => return h.code.toUInt32
