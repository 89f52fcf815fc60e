namespace RdapDirectory.Url

inductive Fault where
  | noScheme
  | emptyHost
  | badDomain
  | badHostCharacter
  | badV4
  | badV6
  | badPort
deriving DecidableEq, Repr

def Fault.message : Fault → String
  | noScheme => "relative URL without a base"
  | emptyHost => "empty host"
  | badDomain => "invalid international domain name"
  | badHostCharacter => "invalid domain character"
  | badV4 => "invalid IPv4 address"
  | badV6 => "invalid IPv6 address"
  | badPort => "invalid port number"

end RdapDirectory.Url
