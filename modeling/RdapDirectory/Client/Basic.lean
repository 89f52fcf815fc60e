import RdapDirectory.Cache.Basic
import RdapDirectory.Client.World
import RdapDirectory.Registry.Basic
import RdapDirectory.Settings.Basic

namespace RdapDirectory

open Registry (Kind)

structure Client where
  settings : Settings
  cache : Cache
  loaded : Kind → Option Registry

namespace Client

def withParts (settings : Settings) (cache : Cache) : Client :=
  ⟨settings, cache.setTtl settings.ttl, fun _ => none⟩

def withCache (c : Client) (cache : Cache) : Client :=
  { c with cache := cache.setTtl c.settings.ttl }

def isSendable (s : String) : Bool :=
  s.toList.all fun c => c == '\t' || (0x20 ≤ c.toNat && c.toNat != 0x7F)

def unsendable : Failure :=
  .network "Failed to create bootstrap HTTP client"
    (some "builder error: failed to parse header value")

def make (settings : Settings) (home : Option String) : Except Failure Client := do
  if !isSendable settings.userAgent then throw unsendable
  if !settings.diskCache then
    return withParts settings (.memory (.empty Settings.defaultTtl))
  let folder ← match settings.cacheDir with
    | some d => pure d
    | none => Cache.usualFolder home
  return withParts settings (.disk (.inFolder folder Settings.defaultTtl))

def registryUrl (c : Client) (k : Kind) : String :=
  let base :=
    if k = .serviceProvider && c.settings.baseUrl = Settings.defaultBaseUrl then
      Settings.experimentBaseUrl
    else c.settings.baseUrl
  if base.toList.getLast? = some '/' then base ++ k.file else base ++ "/" ++ k.file

def install (c : Client) (k : Kind) (r : Registry) : Client :=
  { c with loaded := fun x => if x = k then some r else c.loaded x }

theorem install_same (c : Client) (k : Kind) (r : Registry) : (c.install k r).loaded k = some r :=
  if_pos rfl

theorem install_other (c : Client) {j k : Kind} (r : Registry) (h : j ≠ k) :
    (c.install k r).loaded j = c.loaded j := if_neg h

def freshness (c : Client) (k : Kind) (w : World) : Cache.Freshness :=
  c.cache.freshness w.tree k.file w.now

def download (c : Client) (k : Kind) (w : World) : Except Failure Unit × Client × World :=
  let url := c.registryUrl k
  match w.get url with
  | (.error e, w) => (.error e, c, w)
  | (.ok r, w) =>
    if r.code ≠ 200 then (.error (.httpStatus url r.code r.reason), c, w)
    else match Registry.read k r.body with
      | .error e => (.error e, c, w)
      | .ok registry =>
        match c.cache.save w.tree k.file r.body w.now with
        | (.error e, cache, tree) => (.error e, { c with cache }, { w with tree })
        | (.ok (), cache, tree) =>
          (.ok (), { c with cache }.install k registry, { w with tree })

def downloadEach (c : Client) (w : World) : List Kind → Except Failure Unit × Client × World
  | [] => (.ok (), c, w)
  | k :: ks =>
    match c.download k w with
    | (.ok (), c, w) => downloadEach c w ks
    | (.error e, c, w) => (.error e, c, w)

def downloadAll (c : Client) (w : World) : Except Failure Unit × Client × World :=
  c.downloadEach w Kind.published

def reload (c : Client) (k : Kind) (w : World) : Except Failure Unit × Client :=
  match c.cache.load w.tree k.file with
  | (.error e, cache) => (.error e, { c with cache })
  | (.ok bytes, cache) =>
    match Registry.read k bytes with
    | .error e => (.error e, { c with cache })
    | .ok r => (.ok (), { c with cache }.install k r)

def needsReload (c : Client) (k : Kind) (f : Cache.Freshness) : Bool :=
  match f with
  | .outdated => true
  | .good => (c.loaded k).isNone
  | .absent | .expired => false

/-- Reads a registry again where it has to be. The answer says whether that failed. -/
def refresh (c : Client) (k : Kind) (w : World) : Bool × Client :=
  if c.needsReload k (c.freshness k w) then
    match c.reload k w with
    | (.ok (), c) => (false, c)
    | (.error _, c) => (true, c)
  else (false, c)

def registry (c : Client) (k : Kind) (w : World) : Option Registry × Client :=
  let c := (c.refresh k w).2
  (c.loaded k, c)

def answer (c : Client) (k : Kind) (query : String) : Except Failure Registry.Answer :=
  match c.loaded k with
  | some r => r.lookup query
  | none => .error (.cache k.file "registry not loaded")

def lookup (c : Client) (k : Kind) (query : String) (w : World) :
    Except Failure Registry.Answer × Client × World :=
  let f := c.freshness k w
  let (failed, c) := c.refresh k w
  if failed || f = .absent || f = .expired || (c.loaded k).isNone then
    match c.download k w with
    | (.error e, c, w) => (.error e, c, w)
    | (.ok (), c, w) => (c.answer k query, c, w)
  else (c.answer k query, c, w)

end Client

end RdapDirectory
