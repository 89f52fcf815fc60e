import RdapDirectory.Text.Cut
import RdapDirectory.Text.Percent
import RdapDirectory.Url.Host

namespace RdapDirectory.Url

open Text

def keptInFragment (c : Char) : Bool := isPrintable c && !" \"<>`".toList.contains c

def keptInPath (c : Char) : Bool := keptInFragment c && !"#?\x7b\x7d".toList.contains c

def keptInCredentials (c : Char) : Bool := keptInPath c && !"/:;=@[\\]^|".toList.contains c

def keptInQuery (special : Bool) (c : Char) : Bool :=
  isPrintable c && !" \"#<>".toList.contains c && !(special && c == '\'')

/-- The segment with escaped dots in place of dots, in small letters. -/
def isDotted (names : List String) (segment : List Char) : Bool :=
  names.any fun n => n.toList == segment.map Char.toLower

def isHere (segment : List Char) : Bool := isDotted [".", "%2e"] segment

def isUp (segment : List Char) : Bool := isDotted ["..", ".%2e", "%2e.", "%2e%2e"] segment

def isDrive : List Char → Bool
  | [a, b] => a.isAlpha && (b == ':' || b == '|')
  | _ => false

def isDriveFirst : List Char → Bool
  | a :: b :: r => isDrive [a, b] && (r.isEmpty || r.head? == some '\\')
  | _ => false

def up (done : List (List Char)) : List (List Char) :=
  match done.getLast? with
  | some s => if isDriveFirst s then done else done.dropLast
  | none => done

def written (file : Bool) (segment : List Char) : List Char :=
  match file, segment with
  | true, [a, b] => if isDrive [a, b] then [a, ':'] else escape keptInPath segment
  | _, _ => escape keptInPath segment

/-- The path after all segments, of which the last one is never followed by a slash. -/
def walk (file : Bool) (done : List (List Char)) : List (List Char) → List (List Char)
  | [] => done
  | segment :: rest =>
    let close (p : List (List Char)) := if rest.isEmpty then p ++ [[]] else p
    if isUp segment then walk file (close (up done)) rest
    else if isHere segment then walk file (close done) rest
    else walk file (done ++ [written file segment]) rest

end RdapDirectory.Url
