/-!
# ResourceTables.Yaml.Place

The text of a YAML document as a list of characters at their places. YAML is read by lines and
columns, so every character carries its own, and what reads the text needs no position beside it.

All line breaks but the separators of lines and paragraphs read alike, and stand as a line feed.
-/

namespace ResourceTables.Yaml

/-- A character with its line and column, both counted from zero. -/
structure Placed where
  char : Char
  line : Nat
  column : Nat

/-- A text, or what is left of it. -/
abbrev PlacedText := List Placed

/-! ### Characters -/

/-- Line breaks of a text in which they stand alike. -/
def isBreak (c : Char) : Bool := c == '\n' || c == '\u2028' || c == '\u2029'

/-- Blanks inside a line. -/
def isBlank (c : Char) : Bool := c == ' ' || c == '\t'

/-- The characters of names. -/
def isNameChar (c : Char) : Bool := c.isAlphanum || c == '_' || c == '-'

/-- The mark of byte order, which may stand in front of a line. -/
def byteOrderMark : Char := '\ufeff'

/-- Whether a character may stand in a text. -/
def isAllowed (c : Char) : Bool :=
  let n := c.toNat
  n == 0x9 || n == 0xA || n == 0xD || (0x20 ≤ n && n ≤ 0x7E) || n == 0x85 ||
    (0xA0 ≤ n && n ≤ 0xFFFD) || 0x10000 ≤ n

/-- The characters with all line breaks as line feeds but the two separators. -/
def withLineFeeds : List Char → List Char
  | [] => []
  | '\r' :: '\n' :: cs => '\n' :: withLineFeeds cs
  | '\r' :: cs | '\u0085' :: cs => '\n' :: withLineFeeds cs
  | c :: cs => c :: withLineFeeds cs

/-- The characters at their places, from a place for the first one. -/
def placed (line column : Nat) : List Char → PlacedText
  | [] => []
  | c :: cs =>
    ⟨c, line, column⟩ ::
      if isBreak c then placed (line + 1) 0 cs else placed line (column + 1) cs

namespace PlacedText

/-- A text from its characters; nothing if one of them may not stand in it. -/
def ofChars? (cs : List Char) : Option PlacedText :=
  if cs.all isAllowed then some (placed 0 0 (withLineFeeds cs)) else none

/-! ### Looking ahead -/

/-- The first character. -/
def char? (t : PlacedText) : Option Char := t.head?.map Placed.char

/-- Whether a word ends here: at a blank, a line break or the end. -/
def atGap (t : PlacedText) : Bool := t.char?.all fun c => isBlank c || isBreak c

/-- Whether a line ends here. -/
def atLineEnd (t : PlacedText) : Bool := t.char?.all isBreak

/-- Whether one of some characters stands here. -/
def atOneOf (t : PlacedText) (choices : List Char) : Bool := t.char?.any choices.contains

/-- The marker of a document's start or end that stands at the beginning of a line. -/
def documentMarker? : PlacedText → Option Char
  | ⟨c, _, 0⟩ :: ⟨d, _, _⟩ :: ⟨e, _, _⟩ :: rest =>
    if (c == '-' || c == '.') && d == c && e == c && atGap rest then some c else none
  | _ => none

/-! ### Parts -/

/-- The characters in front that pass a test, and what follows them. -/
def span (test : Char → Bool) (t : PlacedText) : List Char × PlacedText :=
  ((t.takeWhile fun p => test p.char).map Placed.char, t.dropWhile fun p => test p.char)

/-- What follows blanks. -/
def skipBlanks (t : PlacedText) : PlacedText := (t.span isBlank).2

/-- What follows the blanks and the comment in the rest of a line; nothing if there is anything else
in it. -/
def skipComment? (t : PlacedText) : Option PlacedText :=
  let t := t.skipBlanks
  let t := if t.char? = some '#' then (t.span fun c => !isBreak c).2 else t
  if t.atLineEnd then some t else none

end PlacedText

end ResourceTables.Yaml
