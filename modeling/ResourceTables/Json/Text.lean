import ResourceTables.Json.Value
import ResourceTables.Text.Hex

/-!
# ResourceTables.Json.Text

JSON texts of values: the compact form without blanks, and the laid-out form with two blanks a
level. Members keep their order. In strings only the quote, the backslash and the characters below
U+0020 are escaped, by their short escape where there is one.
-/

namespace ResourceTables.Json

/-- The characters a character is written as inside a string. -/
def escapeChar (c : Char) : List Char :=
  if c = '\x22' then ['\\', '\x22']
  else if c = '\\' then ['\\', '\\']
  else if c = '\x08' then ['\\', 'b']
  else if c = '\x0c' then ['\\', 'f']
  else if c = '\n' then ['\\', 'n']
  else if c = '\r' then ['\\', 'r']
  else if c = '\t' then ['\\', 't']
  else if c.toNat < 0x20 then '\\' :: 'u' :: Text.hexDigits 4 c.toNat
  else [c]

/-- A string in quotes. -/
def quoted (s : String) : String :=
  String.ofList ('\x22' :: s.toList.flatMap escapeChar ++ ['\x22'])

/-- The text of a number. -/
def Number.text : Number → String
  | .integer n => toString n
  | .double d => d.toString

mutual
/-- The text of a value without blanks. -/
def Value.compact : Value → String
  | .null => "null"
  | .bool b => if b then "true" else "false"
  | .number n => n.text
  | .string s => quoted s
  | .array items => "[" ++ compactItems items ++ "]"
  | .object members => "\x7b" ++ compactMembers members ++ "\x7d"

/-- Items with a comma between two. -/
def compactItems : List Value → String
  | [] => ""
  | [v] => v.compact
  | v :: rest => v.compact ++ "," ++ compactItems rest

/-- Members with a comma between two. -/
def compactMembers : List (String × Value) → String
  | [] => ""
  | [(name, v)] => quoted name ++ ":" ++ v.compact
  | (name, v) :: rest => quoted name ++ ":" ++ v.compact ++ "," ++ compactMembers rest
end

/-- A line break and the indentation of a level. -/
def lineAt (level : Nat) : String := "\n" ++ String.ofList (List.replicate (2 * level) ' ')

mutual
/-- The text of a value over several lines, for a value that stands at the given level. -/
def Value.prettyAt (level : Nat) : Value → String
  | .array (v :: rest) =>
    "[" ++ prettyItems (level + 1) (v :: rest) ++ lineAt level ++ "]"
  | .object (m :: rest) =>
    "\x7b" ++ prettyMembers (level + 1) (m :: rest) ++ lineAt level ++ "\x7d"
  | .null => "null"
  | .bool b => if b then "true" else "false"
  | .number n => n.text
  | .string s => quoted s
  | .array [] => "[]"
  | .object [] => "\x7b\x7d"

/-- Items on lines of their own. -/
def prettyItems (level : Nat) : List Value → String
  | [] => ""
  | [v] => lineAt level ++ v.prettyAt level
  | v :: rest => lineAt level ++ v.prettyAt level ++ "," ++ prettyItems level rest

/-- Members on lines of their own. -/
def prettyMembers (level : Nat) : List (String × Value) → String
  | [] => ""
  | [(name, v)] => lineAt level ++ quoted name ++ ": " ++ v.prettyAt level
  | (name, v) :: rest =>
    lineAt level ++ quoted name ++ ": " ++ v.prettyAt level ++ "," ++ prettyMembers level rest
end

/-- The text of a value over several lines. -/
def Value.pretty (v : Value) : String := v.prettyAt 0

end ResourceTables.Json
