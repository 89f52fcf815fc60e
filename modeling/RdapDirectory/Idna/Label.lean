import RdapDirectory.Idna.Composition
import RdapDirectory.Idna.MappingTable
import RdapDirectory.Idna.Punycode
import RdapDirectory.Idna.ScriptTable

namespace RdapDirectory.Idna

open Text

def refusedRows : Array Row := rowsOf refusedText
def ignoredRows : Array Row := rowsOf ignoredText
def mappedRows : Array Row := rowsOf mappedText
def markRows : Array Row := rowsOf markText
def joinsBothRows : Array Row := rowsOf joinsBothText
def joinsAfterRows : Array Row := rowsOf joinsAfterText
def joinsBeforeRows : Array Row := rowsOf joinsBeforeText
def transparentRows : Array Row := rowsOf transparentText
def rightToLeftRows : Array Row := rowsOf rightToLeftText
def arabicDigitRows : Array Row := rowsOf arabicDigitText
def digitRows : Array Row := rowsOf digitText
def attachedRows : Array Row := rowsOf attachedText
def neutralRows : Array Row := rowsOf neutralText

def isDenied (c : Char) : Bool :=
  c.toNat ≤ 0x20 || c.toNat == 0x7F || "%#/:<>?@[\\]^|".toList.contains c

def mapPoint? (n : Nat) : Option (List Nat) :=
  if n < 0x80 then some [(Char.ofNat n).toLower.toNat]
  else if (row? refusedRows n).isSome then none
  else if (row? ignoredRows n).isSome then some []
  else match row? mappedRows n with
    | some r => some (r.image n)
    | none => some [n]

def mapped? (cs : List Char) : Option (List Char) := do
  let ns ← (cs.map Char.toNat).mapM mapPoint?
  return (composed ns.flatten).map Char.ofNat

def isBinding (c : Char) : Bool := markClass c.toNat = 9

def isJoined (rows : Array Row) (cs : List Char) : Bool :=
  match cs.dropWhile (isIn transparentRows) with
  | c :: _ => isIn joinsBothRows c || isIn rows c
  | [] => false

/-- Joiners stand behind binding signs, and those that part letters also between joined ones.
`before` is in reverse. -/
def joinersFit (before : List Char) : List Char → Bool
  | [] => true
  | c :: r =>
    let behind := match before with
      | b :: _ => isBinding b
      | [] => false
    let fits :=
      if c = '\u200d' then behind
      else if c = '\u200c' then
        behind || (isJoined joinsAfterRows before && isJoined joinsBeforeRows r)
      else true
    fits && joinersFit (c :: before) r

inductive Direction where
  | left
  | right
  | arabicDigit
  | digit
  | attached
  | neutral
deriving DecidableEq

def direction (c : Char) : Direction :=
  if isIn rightToLeftRows c then .right
  else if isIn arabicDigitRows c then .arabicDigit
  else if isIn digitRows c then .digit
  else if isIn attachedRows c then .attached
  else if isIn neutralRows c then .neutral
  else .left

def directionsFit (cs : List Char) : Bool :=
  let ds := cs.map direction
  let ending := (ds.reverse.dropWhile (· == .attached)).head?
  match ds with
  | [] => true
  | .right :: _ =>
    ds.all (· != .left) && !(ds.contains .digit && ds.contains .arabicDigit) &&
      (ending == some .right || ending == some .digit || ending == some .arabicDigit)
  | .left :: _ =>
    ds.all (fun d => d != .right && d != .arabicDigit) &&
      (ending == some .left || ending == some .digit)
  | _ => false

def isMixed (cs : List Char) : Bool :=
  cs.any fun c => direction c == .right || direction c == .arabicDigit

def isSound (cs : List Char) : Bool :=
  !(cs.head?.any (isIn markRows)) && joinersFit [] cs && !cs.any isDenied

/-- What a label in ASCII spells, if it has the sign of one that does. The text spelt has to be in
the form in which names are compared, and not in ASCII itself. -/
def spelt? (label : List Char) : Option (List Char) :=
  match label with
  | 'x' :: 'n' :: '-' :: '-' :: r =>
    if label.all Punycode.isBasic && r.length ≤ 2000 then do
      let cs ← Punycode.decode? r
      if !cs.all Punycode.isBasic && mapped? cs = some cs then some cs else none
    else none
  | _ => some label

def ascii? (label : List Char) : Option (List Char) :=
  if label.all Punycode.isBasic then some label
  else if label.length ≤ 1000 then some ("xn--".toList ++ Punycode.encode label)
  else none

end RdapDirectory.Idna
