import RdapDirectory.Registry.Answer
import RdapDirectory.Registry.File
import RdapDirectory.Registry.Halving
import RdapDirectory.Text.Blank

namespace RdapDirectory.Registry

open Text

def systemLimit : Nat := 4294967296

abbrev SystemNumber := Fin systemLimit

def systemText (n : Nat) : String := .ofList (decimalDigits n)

structure Range where
  low : Nat
  high : Nat
  urls : List Url
  low_le_high : low ≤ high

namespace Range

def between (a b : Nat) (urls : List Url) : Range :=
  if h : a ≤ b then ⟨a, b, urls, h⟩ else ⟨b, a, urls, by omega⟩

def bound? (cs : List Char) : Option Nat := unsigned? systemLimit (strip isBlank cs)

def ofItem? (i : Item) : Option Range :=
  match cut? (· == '-') i.1.toList with
  | some (a, b) => do return between (← bound? a) (← bound? b) i.2
  | none => (bound? i.1.toList).map fun n => between n n i.2

def text (r : Range) : String :=
  if r.low = r.high then "AS" ++ systemText r.low
  else "AS" ++ systemText r.low ++ "-AS" ++ systemText r.high

end Range

structure Systems where
  ranges : Array Range
  file : File

namespace Systems

/-- The ranges that keys denote, by their lower bounds. Other keys count for nothing. -/
def ofFile (file : File) : Systems :=
  let ranges := file.entries.items.filterMap Range.ofItem?
  ⟨(ranges.mergeSort fun a b => a.low ≤ b.low).toArray, file⟩

def read (bytes : List UInt8) : Except Failure Systems := (File.read bytes).map ofFile

def numeral : List Char → List Char
  | 'a' :: 's' :: r | 'a' :: 'S' :: r | 'A' :: 's' :: r | 'A' :: 'S' :: r => r
  | cs => cs

def number? (query : String) : Except Failure SystemNumber :=
  match decimal? (numeral query.toList) with
  | none => .error (.invalidQuery query "invalid AS number")
  | some n =>
    if h : n < systemLimit then .ok ⟨n, h⟩
    else .error
      (.invalidQuery query "invalid AS number: number too large to fit in target type")

def lookup (s : Systems) (query : String) : Except Failure Answer := do
  let n := (← number? query).val
  match s.ranges[countFront (·.high < n) s.ranges]? with
  | some r =>
    if r.low ≤ n then return ⟨systemText n, r.text, r.urls⟩ else return .noMatch (systemText n)
  | none => return .noMatch (systemText n)

end Systems

end RdapDirectory.Registry
