import RdapDirectory.Registry.Kind
import RdapDirectory.Text.Cut

namespace RdapDirectory.Command

open Registry (Kind)

inductive Halt where
  | misuse
  | information
deriving DecidableEq, Repr

def Halt.code : Halt → Nat
  | misuse => 2
  | information => 0

inductive Flag where
  | registry
  | download
  | listNames
  | baseUrl
  | experiment
  | cacheDir
  | noDiskCache
  | cacheTtl
  | timeout
  | insecure
  | config
  | json
  | verbose
  | help
  | version
deriving DecidableEq, Repr

structure Arguments where
  queries : List String := []
  registry : Option Kind := none
  download : Bool := false
  listNames : Bool := false
  baseUrl : Option String := none
  experiment : Bool := false
  cacheDir : Option String := none
  noDiskCache : Bool := false
  cacheTtl : Option String := none
  timeout : Option String := none
  insecure : Bool := false
  config : Option String := none
  json : Bool := false
  verbosity : Nat := 0
deriving DecidableEq

namespace Flag

def ofName? (s : String) : Option Flag :=
  [ ("type", registry), ("download", download), ("list-tlds", listNames),
    ("base-url", baseUrl), ("experimental", experiment), ("cache-dir", cacheDir),
    ("no-disk-cache", noDiskCache), ("cache-ttl", cacheTtl), ("timeout", timeout),
    ("insecure", insecure), ("config", config), ("json", json), ("verbose", verbose),
    ("help", help), ("version", version) ].lookup s

def ofLetter? : Char → Option Flag
  | 't' => some registry
  | 'j' => some json
  | 'v' => some verbose
  | 'h' => some help
  | 'V' => some version
  | _ => none

def takesValue : Flag → Bool
  | registry | baseUrl | cacheDir | cacheTtl | timeout | config => true
  | _ => false

end Flag

def choice? (s : String) : Option (Option Kind) :=
  [ ("auto", none), ("dns", some Kind.dns), ("ipv4", some .ipv4), ("ipv6", some .ipv6),
    ("asn", some .asn), ("entity", some .serviceProvider) ].lookup s

namespace Arguments

def set (a : Arguments) (o : Flag) (value : String) : Except Halt Arguments :=
  match o with
  | .registry =>
    match choice? value with
    | some k => .ok { a with registry := k }
    | none => .error .misuse
  | .download => .ok { a with download := true }
  | .listNames => .ok { a with listNames := true }
  | .baseUrl => .ok { a with baseUrl := some value }
  | .experiment => .ok { a with experiment := true }
  | .cacheDir => if value.isEmpty then .error .misuse else .ok { a with cacheDir := some value }
  | .noDiskCache => .ok { a with noDiskCache := true }
  | .cacheTtl => .ok { a with cacheTtl := some value }
  | .timeout => .ok { a with timeout := some value }
  | .insecure => .ok { a with insecure := true }
  | .config => .ok { a with config := some value }
  | .json => .ok { a with json := true }
  | .verbose => .ok { a with verbosity := min (a.verbosity + 1) 255 }
  | .help | .version => .error .information

end Arguments

structure Reading where
  arguments : Arguments := {}
  given : List Flag := []

namespace Reading

def set (r : Reading) (o : Flag) (value : String) : Except Halt Reading :=
  if o ∈ r.given && o ≠ .verbose then .error .misuse
  else (r.arguments.set o value).map (⟨·, o :: r.given⟩)

def query (r : Reading) (s : String) : Reading :=
  { r with arguments := { r.arguments with queries := r.arguments.queries ++ [s] } }

/-- Options in single letters behind one hyphen. The answer also names the option whose value is
the next argument. -/
def letters (r : Reading) : List Char → Except Halt (Reading × Option Flag)
  | [] => .ok (r, none)
  | c :: cs =>
    match Flag.ofLetter? c with
    | none => .error .misuse
    | some o =>
      if o.takesValue then
        match cs with
        | [] => .ok (r, some o)
        | '=' :: value => (r.set o (.ofList value)).map (·, none)
        | value => (r.set o (.ofList value)).map (·, none)
      else do letters (← r.set o "") cs

def long (r : Reading) (cs : List Char) : Except Halt (Reading × Option Flag) :=
  let (name, value) := match Text.cut? (· == '=') cs with
    | some (a, b) => (a, some b)
    | none => (cs, none)
  match Flag.ofName? (.ofList name), value with
  | none, _ => .error .misuse
  | some o, some value =>
    if o.takesValue then (r.set o (.ofList value)).map (·, none) else .error .misuse
  | some o, none =>
    if o.takesValue then .ok (r, some o) else (r.set o "").map (·, none)

def isValue (s : String) : Bool := s.toList.head? != some '-' || s = "-"

/-- Reads the arguments that are left. `pending` is the option that waits for its value. -/
def run (r : Reading) (pending : Option Flag) : List String → Except Halt Reading
  | [] => if pending.isSome then .error .misuse else .ok r
  | s :: rest =>
    match pending, s.toList with
    | some o, _ => if isValue s then do run (← r.set o s) none rest else .error .misuse
    | none, ['-', '-'] => .ok (rest.foldl query r)
    | none, '-' :: '-' :: cs => do
      let (r, pending) ← r.long cs
      run r pending rest
    | none, '-' :: c :: cs => do
      let (r, pending) ← r.letters (c :: cs)
      run r pending rest
    | none, _ => run (r.query s) none rest

end Reading

def Arguments.read (args : List String) : Except Halt Arguments :=
  (Reading.run {} none args).map Reading.arguments

def Arguments.isValid (a : Arguments) : Bool :=
  !a.queries.isEmpty || a.download || a.listNames

end RdapDirectory.Command
