import RdapDirectory.Failure
import RdapDirectory.Files.Tree

namespace RdapDirectory.Client

structure Response where
  code : Nat
  reason : String
  body : List UInt8

structure Reply where
  cancels : Bool := false
  /-- Nothing, if no answer ever comes. -/
  result : Option (Except Failure Response)

structure World where
  tree : Files.Tree
  now : Files.Instant
  site : String → Reply
  cancelled : Bool := false
  asked : List String := []

namespace World

/-- Asks for a URL, unless the caller has given up. An answer that is there wins over a caller who
gives up, and a request without an answer ends when the caller does. -/
def get (w : World) (url : String) : Except Failure Response × World :=
  let given := Failure.cancelled s!"download of {url}"
  if w.cancelled then (.error given, w)
  else
    let reply := w.site url
    let w := { w with asked := w.asked ++ [url], cancelled := reply.cancels }
    match reply.result with
    | some r => (r, w)
    | none => (.error given, { w with cancelled := true })

end World

end RdapDirectory.Client
