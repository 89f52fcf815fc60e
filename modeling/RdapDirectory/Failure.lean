import RdapDirectory.Duration

namespace RdapDirectory

inductive Failure where
  | malformed (message : String)
  | emptyFile (file : String)
  | invalidQuery (query reason : String)
  | familyMismatch (query : String) (expected : Nat)
  | network (message : String) (cause : Option String)
  | httpStatus (url : String) (code : Nat) (text : String)
  | timeout (operation : String) (nanoseconds : Nat)
  | cancelled (operation : String)
  | cache (file message : String)
  | config (message : String)
  | serverNeeded (request : String)
  | invalidRequest (message : String)
deriving DecidableEq

namespace Failure

def message : Failure → String
  | malformed m => s!"Malformed bootstrap registry: {m}"
  | emptyFile f => s!"Empty bootstrap registry file '{f}'"
  | invalidQuery q r => s!"Invalid query '{q}': {r}"
  | familyMismatch q n => s!"Query '{q}' is not an IPv{n} address or network"
  | network m (some c) => s!"Network error: {m} (source: {c})"
  | network m none => s!"Network error: {m}"
  | httpStatus u n t => s!"Bootstrap download of {u} failed: HTTP {n} {t}"
  | timeout o n => s!"Timeout after {Duration.text n} during: {o}"
  | cancelled o => s!"Cancelled: {o}"
  | cache f m => s!"Cache error for '{f}': {m}"
  | config m => s!"Configuration error: {m}"
  | serverNeeded r =>
    s!"Cannot run query type '{r}' without a server URL, the server must be specified"
  | invalidRequest m => s!"Invalid request: {m}"

def isQueryFault : Failure → Bool
  | invalidQuery .. | familyMismatch .. => true
  | _ => false

def isTransient : Failure → Bool
  | network .. | timeout .. => true
  | httpStatus _ n _ => n == 429 || (500 ≤ n && n < 600)
  | _ => false

def notJson : Failure := malformed "JSON parsing failed"

end Failure

end RdapDirectory
