import RdapDirectory.Failure

namespace RdapDirectory.Registry

inductive Kind where
  | dns
  | ipv4
  | ipv6
  | asn
  | serviceProvider
deriving DecidableEq, Repr

namespace Kind

def all : List Kind := [dns, ipv4, ipv6, asn, serviceProvider]

/-- The registries that are published together. The last one is an experiment. -/
def published : List Kind := [asn, dns, ipv4, ipv6]

def name : Kind → String
  | dns => "dns"
  | ipv4 => "ipv4"
  | ipv6 => "ipv6"
  | asn => "asn"
  | serviceProvider => "service_provider"

def file (k : Kind) : String := k.name ++ ".json"

def ofText (s : String) : Except Failure Kind :=
  let s := Text.lower s
  if s = "dns" || s = "domain" then .ok dns
  else if s = "ipv4" then .ok ipv4
  else if s = "ipv6" then .ok ipv6
  else if s = "asn" || s = "autnum" then .ok asn
  else if s = "service_provider" || s = "serviceprovider" || s = "entity" then .ok serviceProvider
  else .error (.config s!"Unknown registry type '{s}'")

theorem mem_all (k : Kind) : k ∈ all := by cases k <;> decide

end Kind

end RdapDirectory.Registry
