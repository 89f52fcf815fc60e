import RdapDirectory.Ip.Network
import RdapDirectory.Registry.Kind
import RdapDirectory.Registry.Systems
import RdapDirectory.Text.Percent

namespace RdapDirectory.Request

open Text

inductive Search where
  | domains
  | domainsByServerName
  | domainsByServerAddress
  | nameservers
  | nameserversByAddress
  | entities
  | entitiesByHandle
deriving DecidableEq, Repr

namespace Search

def all : List Search :=
  [domains, domainsByServerName, domainsByServerAddress, nameservers, nameserversByAddress,
    entities, entitiesByHandle]

def name : Search → String
  | domains => "domain-search"
  | domainsByServerName => "domain-search-by-nameserver"
  | domainsByServerAddress => "domain-search-by-nameserver-ip"
  | nameservers => "nameserver-search"
  | nameserversByAddress => "nameserver-search-by-ip"
  | entities => "entity-search"
  | entitiesByHandle => "entity-search-by-handle"

def path : Search → String
  | domains | domainsByServerName | domainsByServerAddress => "domains"
  | nameservers | nameserversByAddress => "nameservers"
  | entities | entitiesByHandle => "entities"

def key : Search → String
  | domains => "name"
  | domainsByServerName => "nsLdhName"
  | domainsByServerAddress => "nsIp"
  | nameservers => "name"
  | nameserversByAddress => "ip"
  | entities => "fn"
  | entitiesByHandle => "handle"

end Search

inductive Subject where
  | domain (name : String)
  | address (a : Ip.Address)
  | network (n : Ip.Network)
  | system (n : Registry.SystemNumber)
  | entity (handle : String)
  | nameserver (name : String)
  | help
  | search (property : Search) (pattern : String)

def isPathSafe (c : Char) : Bool := c.isAlphanum || "-_.~$&+:=@".toList.contains c

def isValueSafe (c : Char) : Bool := c.isAlphanum || c == '*' || c == '-' || c == '.' || c == '_'

def formValue (cs : List Char) : List Char :=
  cs.flatMap fun c => if c = ' ' then ['+'] else escape isValueSafe [c]

namespace Subject

def kind : Subject → String
  | domain _ => "domain"
  | address _ | network _ => "ip"
  | system _ => "autnum"
  | entity _ => "entity"
  | nameserver _ => "nameserver"
  | help => "help"
  | search s _ => s.name

def text : Subject → String
  | domain name | nameserver name => name
  | address a => a.text
  | network n => n.text
  | system n => Registry.systemText n
  | entity handle => handle
  | help => ""
  | search _ pattern => pattern

def uri : Subject → List Char
  | domain name => "domain/".toList ++ escape isPathSafe name.toList
  | address a => "ip/".toList ++ a.write
  | network n => "ip/".toList ++ n.write
  | system n => "autnum/".toList ++ decimalDigits n
  | entity handle => "entity/".toList ++ escape isPathSafe handle.toList
  | nameserver name => "nameserver/".toList ++ escape isPathSafe name.toList
  | help => "help".toList
  | search s pattern =>
    s.path.toList ++ '?' :: s.key.toList ++ '=' :: formValue pattern.toList

def familyKind : Ip.Family → Registry.Kind
  | .v4 => .ipv4
  | .v6 => .ipv6

def registry? : Subject → Option Registry.Kind
  | domain _ => some .dns
  | address a => some (familyKind a.family)
  | network n => some (familyKind n.family)
  | system _ => some .asn
  | entity _ => some .serviceProvider
  | nameserver _ | help | search .. => none

end Subject

end RdapDirectory.Request
