import RdapDirectory.Json.Reader

namespace RdapDirectory.Registry

/-- A service lists keys and the URLs of servers for all of them. -/
abbrev Service := List (List String)

structure Document where
  description : Option String := none
  publication : Option String := none
  version : Option String := none
  services : Option (List Service) := none

namespace Document

open Json

def text? : Json.Document → Option String
  | .string (some s) => some s
  | _ => none

def list? {α : Type} (read : Json.Document → Option α) : Json.Document → Option (List α)
  | .array items => items.mapM read
  | _ => none

def nullable? {α : Type} (read : Json.Document → Option α) : Json.Document → Option (Option α)
  | .null => some none
  | v => (read v).map some

def service? : Json.Document → Option Service := list? (list? text?)

inductive Field where
  | description
  | publication
  | version
  | services
deriving DecidableEq

def Field.ofName? (s : String) : Option Field :=
  if s = "description" then some .description
  else if s = "publication" then some .publication
  else if s = "version" then some .version
  else if s = "services" then some .services
  else none

def set? (d : Document) (f : Field) (v : Json.Document) : Option Document :=
  match f with
  | .description => (nullable? text? v).map ({ d with description := · })
  | .publication => (nullable? text? v).map ({ d with publication := · })
  | .version => (nullable? text? v).map ({ d with version := · })
  | .services => (nullable? (list? service?) v).map ({ d with services := · })

/-- Names are texts, those not known are passed over, and no known one stands twice. -/
def ofMembers? (seen : List Field) (d : Document) :
    List (Option String × Json.Document) → Option Document
  | [] => some d
  | (none, _) :: _ => none
  | (some name, v) :: rest =>
    match Field.ofName? name with
    | none => ofMembers? seen d rest
    | some f =>
      if f ∈ seen then none else (d.set? f v).bind fun d => ofMembers? (f :: seen) d rest

def ofItems? (d : Document) : List Field → List Json.Document → Option Document
  | _, [] => some d
  | [], _ :: _ => none
  | f :: fs, v :: vs => (d.set? f v).bind fun d => ofItems? d fs vs

def ofValue? : Json.Document → Option Document
  | .object members => ofMembers? [] {} members
  | .array items => ofItems? {} [.description, .publication, .version, .services] items
  | _ => none

def read? (bytes : List UInt8) : Option Document := Json.read? bytes >>= ofValue?

end Document

end RdapDirectory.Registry
