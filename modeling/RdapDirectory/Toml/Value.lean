/-!
Values of TOML documents, and tables that grow by one key at a time.
-/

namespace RdapDirectory.Toml

/-- How a table came to be, which decides who may still add to it. -/
inductive Origin where
  | header
  | onTheWay
  | dotted
  | braces
deriving DecidableEq

inductive Value where
  | text (s : String)
  | bool (b : Bool)
  | number (lexeme : String)
  | moment (lexeme : String)
  | array (items : List Value)
  | table (origin : Origin) (members : List (String × Value))
  | tables (items : List (List (String × Value)))

abbrev Members := List (String × Value)

def replace (key : String) (v : Value) (ms : Members) : Members :=
  ms.map fun (k, w) => if k = key then (k, v) else (k, w)

abbrev Change := Origin → Members → Option (Origin × Members)

/-- Changes the table that keys lead to. With dots, only tables without a header are entered. -/
def descend (dots : Bool) (change : Change) : List String → Change
  | [], origin, ms => change origin ms
  | key :: rest, origin, ms =>
    match ms.lookup key with
    | none => do
      let (o, inner) ← descend dots change rest (if dots then .dotted else .onTheWay) []
      return (origin, ms ++ [(key, .table o inner)])
    | some (.table o inner) =>
      if o = .braces || (dots && o = .header) then none
      else do
        let (o, inner) ← descend dots change rest o inner
        return (origin, replace key (.table o inner) ms)
    | some (.tables items) =>
      match items.getLast? with
      | some last =>
        if dots then none
        else do
          let (_, inner) ← descend dots change rest .header last
          return (origin, replace key (.tables (items.dropLast ++ [inner])) ms)
      | none => none
    | _ => none

def addNew (key : String) (v : Value) : Change := fun origin ms =>
  if (ms.lookup key).isSome then none else some (origin, ms ++ [(key, v)])

def addAt (keys : List String) (v : Value) : Change := fun origin ms =>
  match keys.getLast? with
  | none => none
  | some key =>
    let front := keys.dropLast
    let add : Change := fun o inner =>
      if (o = .dotted) = front.isEmpty then none else addNew key v o inner
    descend true add front origin ms

def openTable (key : String) : Change := fun origin ms =>
  match ms.lookup key with
  | none => some (origin, ms ++ [(key, .table .header [])])
  | some (.table .onTheWay inner) => some (origin, replace key (.table .header inner) ms)
  | _ => none

def openNext (key : String) : Change := fun origin ms =>
  match ms.lookup key with
  | none => some (origin, ms ++ [(key, .tables [[]])])
  | some (.tables items) => some (origin, replace key (.tables (items ++ [[]])) ms)
  | _ => none

end RdapDirectory.Toml
