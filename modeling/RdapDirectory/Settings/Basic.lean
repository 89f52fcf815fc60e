import RdapDirectory.Failure
import RdapDirectory.Url.Reader

namespace RdapDirectory

/-- Times are in seconds. -/
structure Settings where
  baseUrl : String
  ttl : Nat
  cacheDir : Option String
  diskCache : Bool
  timeout : Nat
  userAgent : String
  insecure : Bool
  experiment : Bool
deriving DecidableEq

namespace Settings

def defaultBaseUrl : String := "https://data.iana.org/rdap/"

/-- Where the file of provider tags is, while the base URL is the usual one. -/
def experimentBaseUrl : String := "https://www.openrdap.org/rdap/"

def defaultTtl : Nat := 86400

def initial : Settings where
  baseUrl := defaultBaseUrl
  ttl := defaultTtl
  cacheDir := none
  diskCache := true
  timeout := 30
  userAgent := "rdap-bootstrap/0.3.0"
  insecure := false
  experiment := false

def normalBaseUrl (s : String) : Except Failure String :=
  match Url.read (Text.trim s) with
  | .error e => .error (.config s!"Invalid base URL '{s}': {e.message}")
  | .ok u =>
    if !u.isWeb then .error (.config s!"Invalid base URL '{s}': scheme must be http or https")
    else .ok (if u.write.getLast? = some '/' then u.text else u.text ++ "/")

def setBaseUrl (c : Settings) (s : String) : Except Failure Settings :=
  (normalBaseUrl s).map ({ c with baseUrl := · })

end Settings

end RdapDirectory
