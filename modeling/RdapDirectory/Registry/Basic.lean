import RdapDirectory.Registry.Domains
import RdapDirectory.Registry.Kind
import RdapDirectory.Registry.Networks
import RdapDirectory.Registry.Systems
import RdapDirectory.Registry.Tags

namespace RdapDirectory

inductive Registry where
  | domains (d : Registry.Domains)
  | networks (n : Registry.Networks)
  | systems (s : Registry.Systems)
  | tags (t : Registry.Tags)

namespace Registry

def file : Registry → File
  | domains d => d.file
  | networks n => n.file
  | systems s => s.file
  | tags t => t.file

def kind : Registry → Kind
  | domains _ => .dns
  | networks n =>
    match n.family with
    | .v4 => .ipv4
    | .v6 => .ipv6
  | systems _ => .asn
  | tags _ => .serviceProvider

def lookup (r : Registry) (query : String) : Except Failure Answer :=
  match r with
  | domains d => .ok (d.lookup query)
  | networks n => n.lookup query
  | systems s => s.lookup query
  | tags t => .ok (t.lookup query)

def isFiller (b : UInt8) : Bool := b == 0x20 || b == 0x0A || b == 0x0C || b == 0x0D || b == 0x09

def read (k : Kind) (bytes : List UInt8) : Except Failure Registry :=
  if bytes.all isFiller then .error (.emptyFile k.file)
  else match k with
    | .dns => (Domains.read bytes).map domains
    | .ipv4 => (Networks.read bytes .v4).map networks
    | .ipv6 => (Networks.read bytes .v6).map networks
    | .asn => (Systems.read bytes).map systems
    | .serviceProvider => (Tags.read bytes).map tags

end Registry

end RdapDirectory
