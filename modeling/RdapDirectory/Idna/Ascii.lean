import RdapDirectory.Idna.Label

namespace RdapDirectory.Idna

open Text

def hasSign : List Char → Bool
  | 'x' :: 'n' :: '-' :: '-' :: _ => true
  | _ => false

def isDot (c : Char) : Bool := c == '.'

def isPlain (cs : List Char) : Bool :=
  cs.all Punycode.isBasic && (pieces isDot (cs.map Char.toLower)).all (!hasSign ·)

def toAsciiByLabels? (cs : List Char) : Option (List Char) := do
  let labels := pieces isDot (← mapped? cs)
  let spelt ← labels.mapM spelt?
  let mixed := spelt.any isMixed
  if spelt.all fun l => isSound l && (!mixed || directionsFit l) then
    return List.intercalate ['.'] (← labels.mapM ascii?)
  else none

def toAscii? (cs : List Char) : Option (List Char) :=
  if isPlain cs then if cs.any isDenied then none else some (cs.map Char.toLower)
  else toAsciiByLabels? cs

end RdapDirectory.Idna
