import RdapDirectory.Text.CaseRuns

namespace RdapDirectory.Text

def CapitalRun.holds (r : CapitalRun) (n : Nat) : Bool :=
  r.first ≤ n && n ≤ r.last && (n - r.first) % r.step == 0

def smallLetter (c : Char) : Char :=
  if c.toNat < 0x80 then c.toLower
  else match capitalRuns.find? (·.holds c.toNat) with
    | some r => .ofNat (c.toNat + r.shift).toNat
    | none => c

def inRanges (ranges : List (Nat × Nat)) (n : Nat) : Bool :=
  ranges.any fun (a, b) => a ≤ n && n ≤ b

def isCased (c : Char) : Bool := inRanges casedRanges c.toNat

def isCaseIgnorable (c : Char) : Bool := inRanges caseIgnorableRanges c.toNat

def startsCased (cs : List Char) : Bool :=
  match cs.dropWhile isCaseIgnorable with
  | c :: _ => isCased c
  | [] => false

/-- `follows` says whether a letter with case stands before the text. -/
def lowerFrom (follows : Bool) : List Char → List Char
  | [] => []
  | c :: r =>
    let small :=
      if c = 'Σ' then [if follows && !startsCased r then 'ς' else 'σ']
      else if c = 'İ' then ['i', '\u0307']
      else [smallLetter c]
    let follows := if isCaseIgnorable c then follows else isCased c
    small ++ lowerFrom follows r

def lower (s : String) : String := .ofList (lowerFrom false s.toList)

end RdapDirectory.Text
