import RdapDirectory.Settings.Basic

/-!
The environment of a run: the user's folder, and variables that change settings. A blank or
senseless variable counts as not set.
-/

namespace RdapDirectory.Settings

structure Environment where
  home : Option String
  values : List (String × String)

structure Overrides where
  baseUrl : Option String
  cacheDir : Option String
  diskCache : Option Bool
  ttl : Option Nat
  timeout : Option Nat
  userAgent : Option String
  insecure : Option Bool
  experiment : Option Bool
  config : Option String

def flag? (s : String) : Option Bool :=
  let s := Text.lower (Text.trim s)
  if s = "true" || s = "1" || s = "yes" || s = "on" then some true
  else if s = "false" || s = "0" || s = "no" || s = "off" then some false
  else none

namespace Environment

def value? (e : Environment) (name : String) : Option String :=
  (e.values.lookup ("RDAP_BOOTSTRAP_" ++ name)).filter (!Text.isBlankText ·)

def overrides (e : Environment) : Overrides where
  baseUrl := (e.value? "BASE_URL").bind fun s => (normalBaseUrl s).toOption
  cacheDir := e.value? "CACHE_DIR"
  diskCache := (e.value? "DISK_CACHE").bind flag?
  ttl := (e.value? "CACHE_TTL").bind Duration.seconds?
  timeout := ((e.value? "TIMEOUT").bind Duration.seconds?).filter (· ≠ 0)
  userAgent := e.value? "USER_AGENT"
  insecure := (e.value? "INSECURE").bind flag?
  experiment := (e.value? "EXPERIMENTAL").bind flag?
  config := e.value? "CONFIG"

end Environment

def Overrides.apply (o : Overrides) (c : Settings) : Settings where
  baseUrl := o.baseUrl.getD c.baseUrl
  ttl := o.ttl.getD c.ttl
  cacheDir := o.cacheDir <|> c.cacheDir
  diskCache := o.diskCache.getD c.diskCache
  timeout := o.timeout.getD c.timeout
  userAgent := o.userAgent.getD c.userAgent
  insecure := o.insecure.getD c.insecure
  experiment := o.experiment.getD c.experiment

end RdapDirectory.Settings
