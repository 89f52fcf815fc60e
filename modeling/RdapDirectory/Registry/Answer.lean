import RdapDirectory.Url.Basic

namespace RdapDirectory.Registry

structure Answer where
  query : String
  entry : String
  urls : List Url
deriving DecidableEq

namespace Answer

def noMatch (query : String) : Answer := ⟨query, "", []⟩

def isMatch (a : Answer) : Bool := a.entry != "" || !a.urls.isEmpty

end Answer

end RdapDirectory.Registry
