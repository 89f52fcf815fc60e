import RdapDirectory.Json.Value
import RdapDirectory.Text.Percent

/-!
Writing JSON documents with one item or member a line.
-/

namespace RdapDirectory.Json

def hexSmall (n : Nat) : Char := (Text.hexCapital n).toLower

def quoteChar (c : Char) : List Char :=
  if c = '"' then ['\\', '"']
  else if c = '\\' then ['\\', '\\']
  else if c = '\n' then ['\\', 'n']
  else if c = '\r' then ['\\', 'r']
  else if c = '\t' then ['\\', 't']
  else if c = '\x08' then ['\\', 'b']
  else if c = '\x0c' then ['\\', 'f']
  else if c.toNat < 0x20 then
    ['\\', 'u', '0', '0', hexSmall (c.toNat / 16), hexSmall (c.toNat % 16)]
  else [c]

def quote (s : String) : List Char := '"' :: s.toList.flatMap quoteChar ++ ['"']

def indent (depth : Nat) : List Char := '\n' :: List.replicate (2 * depth) ' '

mutual

def pretty (depth : Nat) : Value String → List Char
  | .null => "null".toList
  | .bool b => (if b then "true" else "false").toList
  | .number lexeme => lexeme.toList
  | .string s => quote s
  | .array [] => ['[', ']']
  | .array (v :: vs) => '[' :: prettyItems (depth + 1) (v :: vs) ++ indent depth ++ [']']
  | .object [] => ['\x7b', '\x7d']
  | .object (m :: ms) =>
    '\x7b' :: prettyMembers (depth + 1) (m :: ms) ++ indent depth ++ ['\x7d']

def prettyItems (depth : Nat) : List (Value String) → List Char
  | [] => []
  | [v] => indent depth ++ pretty depth v
  | v :: vs => indent depth ++ pretty depth v ++ ',' :: prettyItems depth vs

def prettyMembers (depth : Nat) : List (String × Value String) → List Char
  | [] => []
  | [(k, v)] => indent depth ++ quote k ++ ':' :: ' ' :: pretty depth v
  | (k, v) :: ms =>
    indent depth ++ quote k ++ ':' :: ' ' :: pretty depth v ++ ',' :: prettyMembers depth ms

end

def Value.text (v : Value String) : String := .ofList (pretty 0 v)

end RdapDirectory.Json
