import RdapDirectory.Client.Resolve
import RdapDirectory.Json.Printer
import RdapDirectory.Text.Blank
import RdapDirectory.Text.Width

namespace RdapDirectory.Command

open Registry (Kind)

structure Outcome where
  query : String
  registry : Option Kind
  result : Except Failure Client.Resolution

namespace Outcome

def failed (o : Outcome) : Bool := !o.result.isOk

def isMatch (o : Outcome) : Bool :=
  match o.result with
  | .ok r => !r.urls.isEmpty || r.answer.any Registry.Answer.isMatch
  | .error _ => false

/-- The URLs to show: those to ask, or else those of the servers. -/
def shown (r : Client.Resolution) : List Url :=
  if r.urls.isEmpty then (r.answer.map (·.urls)).getD [] else r.urls

def lines (o : Outcome) : List String :=
  let query := String.ofList (Text.column 30 o.query.toList)
  let registry := match o.registry with
    | some k => s!"  [{k.name}]"
    | none => ""
  match o.result with
  | .error e => [s!"  {query}  ERROR{registry}  {e.message}"]
  | .ok r =>
    if !o.isMatch then [s!"  {query}  NO MATCH{registry}"]
    else
      let entry := match r.answer with
        | some a => if a.entry.isEmpty then "" else s!"  {a.entry}"
        | none => ""
      s!"  {query}  FOUND{registry}{entry}" :: (shown r).map fun u => s!"      {u.text}"

open Json in
def json (o : Outcome) : Value String :=
  let urls := fun (us : List Url) => Value.array (us.map fun u => .string u.text)
  let kind := o.registry.toList.map fun k => ("type", Value.string k.name)
  let rest := match o.result with
    | .error e => [("error", Value.string e.message)]
    | .ok r =>
      (r.answer.toList.map fun a => ("answer", Value.object [
        ("query", .string a.query), ("entry", .string a.entry), ("urls", urls a.urls)])) ++
      if r.urls.isEmpty then [] else [("urls", urls r.urls)]
  .object (("query", .string o.query) :: kind ++ rest)

end Outcome

structure Summary where
  matched : Nat
  unmatched : Nat
  failed : Nat

namespace Summary

def ofOutcomes (os : List Outcome) : Summary :=
  let failed := os.countP Outcome.failed
  let matched := os.countP Outcome.isMatch
  ⟨matched, os.length - failed - matched, failed⟩

def text (s : Summary) : String :=
  s!"Summary: {s.matched} matched, {s.unmatched} no match, {s.failed} failed"

end Summary

def report (os : List Outcome) : List String :=
  os.flatMap Outcome.lines ++
    if os.length > 1 then ["", (Summary.ofOutcomes os).text] else []

def rows {α : Type} : List α → List (List α)
  | [] => []
  | x :: xs => (x :: xs).take 8 :: rows ((x :: xs).drop 8)
termination_by xs => xs.length
decreasing_by simp only [List.length_drop, List.length_cons]; omega

def row (names : List String) : String :=
  let cells := names.map fun s => Text.fill 14 s.toList
  let line := List.intercalate [' '] cells
  .ofList (' ' :: ' ' :: (line.reverse.dropWhile Text.isBlank).reverse)

def nameList (names : List String) : List String :=
  ["", s!"DNS bootstrap registry TLDs ({names.length})", ""] ++ (rows names).map row ++ [""]

end RdapDirectory.Command
