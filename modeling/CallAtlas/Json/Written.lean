/-
JSON values, and how they are written out.

An object is a list of members in the order in which they were written, so repeated names can be seen; a number is its
text, since nothing here computes with one. `pretty` puts each item and each member on a line of its own, two spaces
deeper than its bracket; an empty array or object stays on one line. Strings escape quotes, backslashes and controls and
leave all other characters as they are.
-/

namespace CallAtlas.Json

/-- a JSON value -/
inductive Value where
  | null
  | bool (b : Bool)
  | number (text : String)
  | string (s : String)
  | array (items : List Value)
  | object (members : List (String × Value))
  deriving Repr

/-- a hexadecimal digit in lower case -/
def hexChar (n : Nat) : Char := Nat.digitChar (n % 16)

/-- one character as it stands between the quotes -/
def escapedChar (c : Char) : List Char :=
  if c = '"' then ['\\', '"']
  else if c = '\\' then ['\\', '\\']
  else if c = '\x08' then ['\\', 'b']
  else if c = '\x0c' then ['\\', 'f']
  else if c = '\n' then ['\\', 'n']
  else if c = '\r' then ['\\', 'r']
  else if c = '\t' then ['\\', 't']
  else if c.toNat < 0x20 then ['\\', 'u', '0', '0', hexChar (c.toNat / 16), hexChar c.toNat]
  else [c]

/-- a string between quotes -/
def quotedString (s : String) : String :=
  String.ofList ('"' :: (s.toList.flatMap escapedChar ++ ['"']))

/-- the start of a line -/
def indent (depth : Nat) : String :=
  "\n" ++ String.ofList (List.replicate (2 * depth) ' ')

mutual

/-- a value whose brackets stand at a depth -/
def Value.pretty (depth : Nat) : Value → String
  | .null => "null"
  | .bool b => if b then "true" else "false"
  | .number text => text
  | .string s => quotedString s
  | .array [] => "[]"
  | .array (v :: vs) => "[" ++ indent (depth + 1) ++ v.pretty (depth + 1) ++ prettyItems depth vs ++ "]"
  | .object [] => "\x7b\x7d"
  | .object ((name, v) :: ms) =>
    "\x7b" ++ indent (depth + 1) ++ quotedString name ++ ": " ++ v.pretty (depth + 1) ++ prettyMembers depth ms ++ "\x7d"

/-- the items after the first, and the line of the closing bracket -/
def prettyItems (depth : Nat) : List Value → String
  | [] => indent depth
  | v :: vs => "," ++ indent (depth + 1) ++ v.pretty (depth + 1) ++ prettyItems depth vs

/-- the members after the first, and the line of the closing brace -/
def prettyMembers (depth : Nat) : List (String × Value) → String
  | [] => indent depth
  | (name, v) :: ms =>
    "," ++ indent (depth + 1) ++ quotedString name ++ ": " ++ v.pretty (depth + 1) ++ prettyMembers depth ms

end

end CallAtlas.Json
