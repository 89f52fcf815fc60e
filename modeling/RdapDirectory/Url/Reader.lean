import RdapDirectory.Url.Basic
import RdapDirectory.Text.Blank
import RdapDirectory.Url.Segments

namespace RdapDirectory.Url

open Text

def isSchemeChar (c : Char) : Bool := c.isAlphanum || c == '+' || c == '-' || c == '.'

def cutScheme? (cs : List Char) : Option (String × List Char) :=
  match cs, cs.dropWhile isSchemeChar with
  | c :: _, ':' :: rest =>
    if c.isAlpha then some (.ofList ((cs.takeWhile isSchemeChar).map Char.toLower), rest) else none
  | _, _ => none

/-- The host and what follows it, from the first colon outside brackets on. -/
def cutHost (inside : Bool) : List Char → List Char × List Char
  | [] => ([], [])
  | c :: r =>
    if c == ':' && !inside then ([], c :: r)
    else
      let (host, rest) := cutHost (if c == '[' then true else if c == ']' then false else inside) r
      (c :: host, rest)

def readPort (usual : Option Nat) : List Char → Except Fault (Option Nat × List Char)
  | ':' :: r =>
    let digits := r.takeWhile isDigit
    let rest := r.dropWhile isDigit
    let port := decimalValue digits
    if port ≥ 65536 || !(rest.isEmpty || rest.head? == some '\\') then .error .badPort
    else .ok (if digits.isEmpty || usual == some port then none else some port, rest)
  | cs => .ok (none, cs)

def readCredentials (cs : List Char) : String × Option String :=
  let kept := fun cs => String.ofList (escape keptInCredentials cs)
  match cut? (· == ':') cs with
  | some (user, secret) => (kept user, if secret.isEmpty then none else some (kept secret))
  | none => (kept cs, none)

def readAuthority (scheme : String) (more : Bool) (cs : List Char) :
    Except Fault (Authority × List Char) := do
  let special := isSpecial scheme
  let isEnd := fun c => c == '/' || (special && c == '\\')
  let front := cs.takeWhile (!isEnd ·)
  let path := cs.dropWhile (!isEnd ·)
  let (credentials, place) := (cutLast? (· == '@') front).getD ([], front)
  if place.isEmpty && credentials.isEmpty && !front.isEmpty && (more || !path.isEmpty) then
    throw .emptyHost
  let (user, secret) := readCredentials credentials
  let (name, rest) := cutHost false place
  if name.isEmpty && (special || !rest.isEmpty) then throw .emptyHost
  let host ← if special then namedHost? name else plainHost? name
  let (port, rest) ← readPort (defaultPort? scheme) rest
  if host = .empty && !(user.isEmpty && secret.isNone) then throw .emptyHost
  return ({ user, secret, host, port }, rest ++ path)

def isSlash (special : Bool) (c : Char) : Bool := c == '/' || (special && c == '\\')

def readSteps (special : Bool) (cs : List Char) : Path :=
  .steps ((walk false [] (pieces (isSlash special) cs)).map String.ofList)

def readPath (special : Bool) (cs : List Char) : Path :=
  match cs with
  | [] => if special then .steps [""] else .steps []
  | c :: r => readSteps special (if isSlash special c then r else cs)

def noHost : Authority := ⟨"", none, .empty, none⟩

/-- Empty segments in front are dropped, but one segment stays. -/
def readFileSteps (parts : List (List Char)) : Path :=
  let segments := (walk true [] parts).dropWhile List.isEmpty
  .steps (if segments.isEmpty then [""] else segments.map String.ofList)

/-- Reads what follows the scheme of a file. A drive takes the place of a host. -/
def readFile (cs : List Char) : Except Fault (Authority × Path) :=
  let slash := isSlash true
  match cs with
  | a :: b :: r =>
    if slash a && slash b then do
      let name := r.takeWhile (!slash ·)
      let path := r.dropWhile (!slash ·)
      if isDrive name then return (noHost, readFileSteps (pieces slash r))
      if name.isEmpty then return (noHost, readFileSteps (pieces slash path))
      let host ← namedHost? name
      if host.write = "localhost".toList then return (noHost, readFileSteps (pieces slash path))
      let parts := pieces slash path.tail
      return ({ noHost with host := if parts.any isDrive then .empty else host },
        readFileSteps parts)
    else return (noHost, readFileSteps (pieces slash (if slash a then b :: r else cs)))
  | [a] => return (noHost, readFileSteps (pieces slash (if slash a then [] else cs)))
  | [] => return (noHost, readFileSteps [[]])

def readBody (scheme : String) (more : Bool) (cs : List Char) :
    Except Fault (Option Authority × Path) :=
  if scheme = "file" then (readFile cs).map fun (a, p) => (some a, p)
  else if isHierarchical scheme then do
    let (a, rest) ← readAuthority scheme more (cs.dropWhile (isSlash true))
    return (some a, readPath true rest)
  else match cs with
    | '/' :: '/' :: r => do
      let (a, rest) ← readAuthority scheme more r
      return (some a, readPath false rest)
    | '/' :: r => return (none, readSteps false r)
    | _ => return (none, .rootless (.ofList (escape isPrintable cs)))

def clean (cs : List Char) : List Char :=
  (strip (·.toNat ≤ 0x20) cs).filter fun c => !(c == '\t' || c == '\n' || c == '\r')

def readChars (cs : List Char) : Except Fault Url :=
  match cutScheme? (clean cs) with
  | none => .error .noScheme
  | some (scheme, rest) => do
    let (rest, fragment) := match cut? (· == '#') rest with
      | some (a, b) => (a, some b)
      | none => (rest, none)
    let (rest, query) := match cut? (· == '?') rest with
      | some (a, b) => (a, some b)
      | none => (rest, none)
    let (authority, path) ← readBody scheme (query.isSome || fragment.isSome) rest
    return {
      scheme, authority, path
      query := query.map fun q => .ofList (escape (keptInQuery (isSpecial scheme)) q)
      fragment := fragment.map fun f => .ofList (escape keptInFragment f) }

def read (s : String) : Except Fault Url := readChars s.toList

end RdapDirectory.Url
