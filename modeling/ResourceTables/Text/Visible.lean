import ResourceTables.Text.Visible.Table

/-!
# ResourceTables.Text.Visible

Texts in quotes for people to read, in which nothing is hidden: the quote, the backslash and the
characters that do not show by themselves are escaped, by a short escape or by their number.
-/

namespace ResourceTables.Text

/-- The hexadecimal digits of a number without leading zeros. -/
def hexNumber (n : Nat) : List Char := hexDigits (n.log2 / 4 + 1) n

/-- The characters a character is written as. -/
def visibleChar (c : Char) : List Char :=
  if c = '\x00' then ['\\', '0']
  else if c = '\t' then ['\\', 't']
  else if c = '\r' then ['\\', 'r']
  else if c = '\n' then ['\\', 'n']
  else if c = '\x22' then ['\\', '\x22']
  else if c = '\\' then ['\\', '\\']
  else if hiddenChars.contains c then
    '\\' :: 'u' :: '\x7b' :: hexNumber c.toNat ++ ['\x7d']
  else [c]

/-- A text in quotes with nothing hidden. -/
def visible (text : String) : String :=
  String.ofList ('\x22' :: text.toList.flatMap visibleChar ++ ['\x22'])

end ResourceTables.Text
