import RdapDirectory.Settings.Basic

namespace RdapDirectory.Settings

structure RegistrySection where
  baseUrl : Option String := none
  experiment : Option Bool := none
deriving DecidableEq

structure CacheSection where
  dir : Option String := none
  disk : Option Bool := none
  ttl : Option String := none
deriving DecidableEq

structure HttpSection where
  timeout : Option String := none
  userAgent : Option String := none
  insecure : Option Bool := none
deriving DecidableEq

structure Sections where
  registry : Option RegistrySection := none
  cache : Option CacheSection := none
  http : Option HttpSection := none
deriving DecidableEq

def RegistrySection.under (low high : RegistrySection) : RegistrySection where
  baseUrl := high.baseUrl <|> low.baseUrl
  experiment := high.experiment <|> low.experiment

def CacheSection.under (low high : CacheSection) : CacheSection where
  dir := high.dir <|> low.dir
  disk := high.disk <|> low.disk
  ttl := high.ttl <|> low.ttl

def HttpSection.under (low high : HttpSection) : HttpSection where
  timeout := high.timeout <|> low.timeout
  userAgent := high.userAgent <|> low.userAgent
  insecure := high.insecure <|> low.insecure

abbrev Change := Settings → Except Failure Settings

def applyAll : List Change → Settings → Except Failure Unit × Settings
  | [], c => (.ok (), c)
  | f :: fs, c =>
    match f c with
    | .ok c => applyAll fs c
    | .error e => (.error e, c)

def duration? (name value : String) : Except Failure Nat :=
  match Duration.seconds? value with
  | some n => .ok n
  | none =>
    .error (.config s!"Invalid {name} '{value}'. Use a format like '30s', '5m', '24h'")

namespace Sections

/-- Combines two files section by section and key by key, `high` before `low`. -/
def under (low high : Sections) : Sections where
  registry := Option.merge RegistrySection.under low.registry high.registry
  cache := Option.merge CacheSection.under low.cache high.cache
  http := Option.merge HttpSection.under low.http high.http

def changes (s : Sections) : List Change :=
  let registry := s.registry.getD {}
  let cache := s.cache.getD {}
  let http := s.http.getD {}
  [ registry.baseUrl.map fun u c => c.setBaseUrl u,
    registry.experiment.map fun b c => .ok { c with experiment := b },
    cache.dir.map fun d c => .ok { c with cacheDir := some d },
    cache.disk.map fun b c => .ok { c with diskCache := b },
    cache.ttl.map fun t c => (duration? "cache.ttl" t).map ({ c with ttl := · }),
    http.timeout.map fun t c => (duration? "http.timeout" t).map ({ c with timeout := · }),
    http.userAgent.map fun a c => .ok { c with userAgent := a },
    http.insecure.map fun b c => .ok { c with insecure := b } ].reduceOption

def apply (s : Sections) (c : Settings) : Except Failure Unit × Settings := applyAll s.changes c

def check (s : Sections) : Except Failure Unit :=
  match s.apply .initial with
  | (.error e, _) => .error e
  | (.ok (), c) =>
    if c.timeout = 0 then .error (.config "http.timeout must be greater than zero")
    else if Text.isBlankText c.userAgent then
      .error (.config "http.user_agent cannot be empty")
    else .ok ()

end Sections

end RdapDirectory.Settings
