import RdapDirectory.Text.LetterCase
import RdapDirectory.Text.WidthRanges

namespace RdapDirectory.Text

def isControl (c : Char) : Bool := c.toNat < 0x20 || (0x7F ≤ c.toNat && c.toNat < 0xA0)

def charWidth (c : Char) : Nat :=
  if isControl c then 0
  else if c.toNat < 0x7F then 1
  else if inRanges unseenRanges c.toNat then 0
  else if inRanges wideRanges c.toNat then 2
  else 1

def width (cs : List Char) : Nat :=
  cs.foldl (fun n c => n + if isControl c then 1 else charWidth c) 0

def start (columns : Nat) : List Char → List Char
  | [] => []
  | c :: r =>
    if charWidth c < columns then c :: start (columns - charWidth c) r
    else if charWidth c = columns then [c]
    else []

def fill (columns : Nat) (cs : List Char) : List Char :=
  cs ++ List.replicate (columns - width cs) ' '

/-- Filled up to the columns, or cut with two dots at the end. A text that just fits is cut too. -/
def column (columns : Nat) (cs : List Char) : List Char :=
  if width cs < columns then fill columns cs else start (columns - 2) cs ++ ['.', '.']

end RdapDirectory.Text
