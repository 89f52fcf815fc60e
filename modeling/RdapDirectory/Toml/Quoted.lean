import RdapDirectory.Text.Numeral

namespace RdapDirectory.Toml

open Text

def isGap (c : Char) : Bool := c == ' ' || c == '\t'

def isVisible (c : Char) : Bool := c == '\t' || (0x20 ≤ c.toNat && c.toNat != 0x7F)

def line? : List Char → Option (List Char)
  | '\n' :: r | '\r' :: '\n' :: r => some r
  | _ => none

def escaped? : Char → Option Char
  | 'b' => some '\x08'
  | 't' => some '\t'
  | 'n' => some '\n'
  | 'f' => some '\x0c'
  | 'r' => some '\r'
  | '"' => some '"'
  | '\\' => some '\\'
  | _ => none

def numbered? (count : Nat) (cs : List Char) : Option (Char × List Char) :=
  let ds := cs.take count
  let n := hexadecimalValue ds
  if ds.length = count && ds.all isHexDigit && n.isValidChar then some (.ofNat n, cs.drop count)
  else none

def escape? : List Char → Option (Char × List Char)
  | 'u' :: r => numbered? 4 r
  | 'U' :: r => numbered? 8 r
  | c :: r => (escaped? c).map (·, r)
  | [] => none

def plain? : List Char → Option (List Char × List Char)
  | [] => none
  | c :: r =>
    if c = '\'' then some ([], r)
    else if isVisible c then (plain? r).map fun (s, r) => (c :: s, r)
    else none

/-- Like `plain?`, with escapes. The count of characters bounds the count of steps. -/
def rich? : Nat → List Char → Option (List Char × List Char)
  | fuel + 1, c :: r =>
    if c = '"' then some ([], r)
    else if c = '\\' then do
      let (x, r) ← escape? r
      let (s, r) ← rich? fuel r
      return (x :: s, r)
    else if isVisible c then (rich? fuel r).map fun (s, r) => (c :: s, r)
    else none
  | _, _ => none

/-- Three quotes end a string on several lines, and up to two more belong to it. -/
def closing? (quote : Char) (cs : List Char) : Option (List Char × List Char) :=
  let n := (cs.takeWhile (· == quote)).length
  if n < 3 then none
  else
    let own := min (n - 3) 2
    some (List.replicate own quote, cs.drop (own + 3))

def skipLines : List Char → List Char := List.dropWhile fun c => isGap c || c == '\n' || c == '\r'

def continued? (cs : List Char) : Option (List Char) :=
  (line? (cs.dropWhile isGap)).map skipLines

def lines? (quote : Char) : Nat → List Char → Option (List Char × List Char)
  | 0, _ => none
  | fuel + 1, cs =>
    match closing? quote cs, cs with
    | some (s, r), _ => some (s, r)
    | none, [] => none
    | none, c :: r =>
      if quote = '"' && c = '\\' then
        match continued? r with
        | some r => lines? quote fuel r
        | none => do
          let (x, r) ← escape? r
          let (s, r) ← lines? quote fuel r
          return (x :: s, r)
      else if isVisible c then (lines? quote fuel r).map fun (s, r) => (c :: s, r)
      else match line? (c :: r) with
        | some rest =>
          (lines? quote fuel rest).map fun (s, r') =>
            ((c :: r).take ((c :: r).length - rest.length) ++ s, r')
        | none => none

def short? (cs : List Char) : Option (List Char × List Char) :=
  match cs with
  | '\'' :: r => plain? r
  | '"' :: r => rich? (r.length + 1) r
  | _ => none

def quoted? (cs : List Char) : Option (List Char × List Char) :=
  let long := fun quote r =>
    let r := (line? r).getD r
    lines? quote (r.length + 1) r
  match cs with
  | '\'' :: '\'' :: '\'' :: r => long '\'' r
  | '"' :: '"' :: '"' :: r => long '"' r
  | _ => short? cs

end RdapDirectory.Toml
