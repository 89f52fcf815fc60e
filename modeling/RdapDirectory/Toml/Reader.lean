import RdapDirectory.Toml.Quoted
import RdapDirectory.Toml.Scalar

namespace RdapDirectory.Toml

open Text

def skipGap (cs : List Char) : List Char := cs.dropWhile isGap

def skipComment (cs : List Char) : List Char :=
  match cs with
  | '#' :: r => r.dropWhile isVisible
  | _ => cs

def endLine? (cs : List Char) : Option (List Char) :=
  let r := skipComment (skipGap cs)
  if r.isEmpty then some [] else line? r

def skipFiller : Nat → List Char → List Char
  | 0, cs => cs
  | fuel + 1, cs =>
    let r := skipComment (skipGap cs)
    match line? r with
    | some r => skipFiller fuel r
    | none => r

def isKeyChar (c : Char) : Bool := c.isAlphanum || c == '_' || c == '-'

def simpleKey? (cs : List Char) : Option (String × List Char) :=
  match cs with
  | '\'' :: _ | '"' :: _ => (short? cs).map fun (s, r) => (.ofList s, r)
  | _ =>
    let key := cs.takeWhile isKeyChar
    if key.isEmpty then none else some (.ofList key, cs.dropWhile isKeyChar)

def keys? : Nat → List Char → Option (List String × List Char)
  | 0, _ => none
  | fuel + 1, cs => do
    let (key, r) ← simpleKey? (skipGap cs)
    match skipGap r with
    | '.' :: r =>
      let (keys, r) ← keys? fuel r
      return (key :: keys, r)
    | r => return ([key], r)

def isWordEnd (c : Char) : Bool :=
  isGap c || c == '\n' || c == '\r' || c == ',' || c == ']' || c == '}' || c == '#'

def word (cs : List Char) : List Char × List Char :=
  let w := cs.takeWhile (!isWordEnd ·)
  let r := cs.dropWhile (!isWordEnd ·)
  match isDate w, r with
  | true, ' ' :: c :: r' =>
    if isDigit c then
      (w ++ ' ' :: (c :: r').takeWhile (!isWordEnd ·), (c :: r').dropWhile (!isWordEnd ·))
    else (w, r)
  | _, _ => (w, r)

mutual

def value? : Nat → List Char → Option (Value × List Char)
  | 0, _ => none
  | fuel + 1, cs =>
    match cs with
    | '\'' :: _ | '"' :: _ => (quoted? cs).map fun (s, r) => (.text (.ofList s), r)
    | '[' :: r => (items? fuel r).map fun (vs, r) => (.array vs, r)
    | '\x7b' :: r =>
      match skipGap r with
      | '\x7d' :: r => some (.table .braces [], r)
      | r => (pairs? fuel [] r).map fun (ms, r) => (.table .braces ms, r)
    | _ =>
      let (w, r) := word cs
      (scalar? w).map (·, r)

def items? : Nat → List Char → Option (List Value × List Char)
  | 0, _ => none
  | fuel + 1, cs =>
    match skipFiller cs.length cs with
    | ']' :: r => some ([], r)
    | cs => do
      let (v, r) ← value? fuel cs
      match skipFiller r.length r with
      | ',' :: r =>
        let (vs, r) ← items? fuel r
        return (v :: vs, r)
      | ']' :: r => return ([v], r)
      | _ => none

def pairs? : Nat → Members → List Char → Option (Members × List Char)
  | 0, _, _ => none
  | fuel + 1, ms, cs => do
    let (keys, r) ← keys? (cs.length + 1) cs
    match r with
    | '=' :: r =>
      let (v, r) ← value? fuel (skipGap r)
      let (_, ms) ← addAt keys v .header ms
      match skipGap r with
      | ',' :: r => pairs? fuel ms r
      | '\x7d' :: r => return (ms, r)
      | _ => none
    | _ => none

end

def header? (close : List Char) (cs : List Char) : Option (List String × List Char) := do
  let (keys, r) ← keys? (cs.length + 1) cs
  if close.isPrefixOf r then return (keys, ← endLine? (r.drop close.length)) else none

def lines : Nat → List String → Members → List Char → Option Members
  | 0, _, _, _ => none
  | fuel + 1, header, ms, cs =>
    let enter := fun (change : String → Change) (keys : List String) (r : List Char) => do
      let (_, ms) ← descend false (change (← keys.getLast?)) keys.dropLast .header ms
      lines fuel keys ms r
    match skipFiller cs.length cs with
    | [] => some ms
    | '[' :: '[' :: r => do
      let (keys, r) ← header? [']', ']'] r
      enter openNext keys r
    | '[' :: r => do
      let (keys, r) ← header? [']'] r
      enter openTable keys r
    | cs => do
      let (keys, r) ← keys? (cs.length + 1) cs
      match r with
      | '=' :: r =>
        let (v, r) ← value? (2 * cs.length) (skipGap r)
        let r ← endLine? r
        let (_, ms) ← descend false (addAt keys v) header .header ms
        lines fuel header ms r
      | _ => none

def read? (s : String) : Option Members :=
  let cs := match s.toList with
    | '\ufeff' :: r => r
    | cs => cs
  lines (cs.length + 1) [] [] cs

end RdapDirectory.Toml
