import RdapDirectory.Failure
import RdapDirectory.Registry.Document
import RdapDirectory.Registry.Entries

namespace RdapDirectory.Registry

structure File where
  description : String
  publication : String
  version : String
  entries : Entries
  source : List UInt8

namespace File

def urlsOf (texts : List String) : List Url := texts.filterMap fun s => (Url.read s).toOption

def serve (e : Entries) (keys : List String) (urls : List Url) : Entries :=
  if urls.isEmpty then e else keys.foldl (·.insert · urls) e

/-- Adds services in their order, so that the last service with a key decides on it. -/
def collect (index : Nat) (e : Entries) : List Service → Except Failure Entries
  | [] => .ok e
  | [keys, texts] :: rest => collect (index + 1) (serve e keys (urlsOf texts)) rest
  | service :: _ =>
    .error (.malformed
      s!"bad services array: entry {index} has {service.length} elements, expected 2")

def ofDocument (source : List UInt8) (d : Document) : Except Failure File :=
  match d.services with
  | none => .error (.malformed "missing 'services' array")
  | some services => (collect 0 .empty services).map fun entries => {
      description := d.description.getD ""
      publication := d.publication.getD ""
      version := d.version.getD ""
      entries, source }

def read (bytes : List UInt8) : Except Failure File :=
  match Document.read? bytes with
  | some d => ofDocument bytes d
  | none => .error .notJson

end File

end RdapDirectory.Registry
