import RdapDirectory.Files.Tree

namespace RdapDirectory.Cache

inductive Freshness where
  | absent
  | good
  | outdated
  | expired
deriving DecidableEq, Repr

namespace Freshness

def name : Freshness → String
  | absent => "absent"
  | good => "good"
  | outdated => "should-reload"
  | expired => "expired"

end Freshness

def second : Int := 1000000000

/-- A file expires at the age of `ttl` seconds. A change in the future has just happened. -/
def isExpired (ttl : Nat) (changed now : Files.Instant) : Bool :=
  ttl * second ≤ max 0 (now - changed)

end RdapDirectory.Cache
