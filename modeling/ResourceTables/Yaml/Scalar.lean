import ResourceTables.Text.Hex
import ResourceTables.Yaml.Place

/-!
# ResourceTables.Yaml.Scalar

The four ways to write the text of a scalar: plain, in quotes, and as a literal or folded block.

Design points:

* What stands between two words on one line counts as it is. A single line break between words
  becomes a blank; of several ones all but the first count (`Gap`).
* All functions here go through the text once, character by character. `done` holds the characters
  so far, last one first.
-/

namespace ResourceTables.Yaml

/-- The text of a scalar with what follows it. -/
abbrev ScalarResult := Option (List Char × PlacedText)

/-! ### Gaps -/

/-- What stands between two words, last character first. -/
inductive Gap
  /-- Blanks of one line, or nothing. -/
  | inLine (blanks : List Char)
  /-- Line breaks; blanks beside them do not count. -/
  | folded (breaks : List Char)
  /-- The line breaks after one that was escaped, which all count. -/
  | escaped (breaks : List Char)

namespace Gap

/-- No gap. -/
def none : Gap := inLine []

/-- Whether there is no gap. -/
def isNone : Gap → Bool
  | inLine [] => true
  | _ => false

/-- Whether there is a line break in the gap. -/
def isBroken : Gap → Bool
  | inLine _ => false
  | _ => true

/-- The gap with one more blank or line break. -/
def push (c : Char) : Gap → Gap
  | inLine blanks => if isBreak c then folded [c] else inLine (c :: blanks)
  | folded breaks => folded (if isBreak c then c :: breaks else breaks)
  | escaped breaks => escaped (if isBreak c then c :: breaks else breaks)

/-- What the gap stands for, last character first. A separator of lines or paragraphs in front of
other line breaks counts itself. -/
def chars : Gap → List Char
  | inLine blanks => blanks
  | folded ['\n'] => [' ']
  | folded breaks => if breaks.getLast? = some '\n' then breaks.dropLast else breaks
  | escaped breaks => breaks

end Gap

/-! ### Plain scalars -/

/-- A plain scalar with what follows it. -/
structure Plain where
  text : List Char
  /-- Whether the scalar ended at a line break, after which a key may begin. -/
  isBroken : Bool
  rest : PlacedText

/-- Whether a plain scalar ends before a word that begins here. -/
def endsBeforeWord (inFlow : Bool) (margin : Nat) (p : Placed) (t : PlacedText) : Bool :=
  (!inFlow && p.column < margin) || (PlacedText.documentMarker? t).isSome || p.char == '#'

/-- Whether a plain scalar ends before a character. -/
def endsPlain (inFlow : Bool) (c : Char) (rest : PlacedText) : Bool :=
  (c == ':' && rest.atGap) || (inFlow && [',', '[', ']', '\x7b', '\x7d'].contains c)

/-- Whether a colon is too close to an indicator of a flow collection. -/
def isCrowdedColon (inFlow : Bool) (c : Char) (rest : PlacedText) : Bool :=
  inFlow && c == ':' && rest.atOneOf [',', '?', '[', ']', '\x7b', '\x7d']

/-- Reads a plain scalar, all of whose lines are to reach the margin. A tab in front of a line's
margin is refused. -/
def readPlain (inFlow : Bool) (margin : Nat) (gap : Gap) (done : List Char) :
    PlacedText → Option Plain
  | [] => some ⟨done.reverse, gap.isBroken, []⟩
  | p :: rest =>
    let c := p.char
    if isBlank c || isBreak c then
      if gap.isBroken && c == '\t' && p.column < margin then none
      else readPlain inFlow margin (gap.push c) done rest
    else if !gap.isNone && endsBeforeWord inFlow margin p (p :: rest) then
      some ⟨done.reverse, gap.isBroken, p :: rest⟩
    else if isCrowdedColon inFlow c rest then none
    else if endsPlain inFlow c rest then some ⟨done.reverse, gap.isBroken, p :: rest⟩
    else readPlain inFlow margin .none (c :: (gap.chars ++ done)) rest

/-! ### Quoted scalars -/

/-- Reads a scalar in single quotes after the first of them; two quotes in it stand for one. -/
def readSingleQuoted (gap : Gap) (done : List Char) : PlacedText → ScalarResult
  | [] => none
  | p :: rest =>
    let c := p.char
    if isBlank c || isBreak c then readSingleQuoted (gap.push c) done rest
    else if (PlacedText.documentMarker? (p :: rest)).isSome then none
    else if c == '\'' then match rest with
      | ⟨'\'', _, _⟩ :: rest => readSingleQuoted .none ('\'' :: (gap.chars ++ done)) rest
      | _ => some ((gap.chars ++ done).reverse, rest)
    else readSingleQuoted .none (c :: (gap.chars ++ done)) rest

/-- The character that an escape of one letter stands for. -/
def escaped? : Char → Option Char
  | '0' => some '\x00'
  | 'a' => some '\x07'
  | 'b' => some '\x08'
  | 't' | '\t' => some '\t'
  | 'n' => some '\n'
  | 'v' => some '\x0b'
  | 'f' => some '\x0c'
  | 'r' => some '\r'
  | 'e' => some '\x1b'
  | ' ' => some ' '
  | '\"' => some '\"'
  | '/' => some '/'
  | '\\' => some '\\'
  | 'N' => some '\u0085'
  | '_' => some '\u00a0'
  | 'L' => some '\u2028'
  | 'P' => some '\u2029'
  | _ => none

/-- How many digits follow the letter of an escape by number. -/
def escapeWidth? : Char → Option Nat
  | 'x' => some 2
  | 'u' => some 4
  | 'U' => some 8
  | _ => none

/-- What a double-quoted scalar is read as, character by character. -/
inductive QuotedState
  /-- Among words. -/
  | text
  /-- After a backslash. -/
  | escape
  /-- Before some more digits of a number. -/
  | number (digits : Nat) (value : Nat)

/-- Reads a scalar in double quotes after the first of them. -/
def readDoubleQuoted (state : QuotedState) (gap : Gap) (done : List Char) :
    PlacedText → ScalarResult
  | [] => none
  | p :: rest =>
    let c := p.char
    match state with
    | .text =>
      if isBlank c || isBreak c then readDoubleQuoted .text (gap.push c) done rest
      else if (PlacedText.documentMarker? (p :: rest)).isSome then none
      else
        let done := gap.chars ++ done
        if c == '\"' then some (done.reverse, rest)
        else if c == '\\' then readDoubleQuoted .escape .none done rest
        else readDoubleQuoted .text .none (c :: done) rest
    | .escape =>
      if isBreak c then readDoubleQuoted .text (.escaped []) done rest
      else match escapeWidth? c, escaped? c with
        | some width, _ => readDoubleQuoted (.number width 0) .none done rest
        | none, some e => readDoubleQuoted .text .none (e :: done) rest
        | none, none => none
    | .number digits value =>
      match Text.hexValue? c with
      | none => none
      | some v =>
        let value := 16 * value + v
        if 1 < digits then readDoubleQuoted (.number (digits - 1) value) .none done rest
        else if value.isValidChar then
          readDoubleQuoted .text .none (Char.ofNat value :: done) rest
        else none

/-! ### Blocks -/

/-- What is done with the line breaks at the end of a block. -/
inductive Chomping
  | strip
  | clip
  | keep
  deriving DecidableEq

/-- What is said in front of a block. -/
structure BlockHeader where
  chomping : Chomping := .clip
  indentation : Option Nat := none

/-- Reads the sign for the end of a block, if there is one. -/
def readChomping : PlacedText → Option Chomping × PlacedText
  | ⟨'-', _, _⟩ :: rest => (some .strip, rest)
  | ⟨'+', _, _⟩ :: rest => (some .keep, rest)
  | t => (none, t)

/-- Reads the indentation of a block, if it is given; it may not be zero. -/
def readIndentation? : PlacedText → Option (Option Nat × PlacedText)
  | p :: rest =>
    if p.char == '0' then none
    else if p.char.isDigit then some (some (p.char.toNat - 48), rest)
    else some (none, p :: rest)
  | [] => some (none, [])

/-- Reads what is said in front of a block, in either order, with the rest of its line. -/
def readHeader? (t : PlacedText) : Option (BlockHeader × PlacedText) := do
  let (before, t) := readChomping t
  let (indentation, t) ← readIndentation? t
  let (chomping, t) := match before, indentation with
    | none, some _ => readChomping t
    | _, _ => (before, t)
  let t ← t.skipComment?
  return (⟨chomping.getD .clip, indentation⟩, t.drop 1)

/-- The widest indentation of the first lines of a block, which end with the first one that has a
text; a tab there is refused. -/
def widestIndentation? (widest : Nat) : PlacedText → Option Nat
  | [] => some widest
  | p :: rest =>
    if p.char == ' ' then widestIndentation? (max widest (p.column + 1)) rest
    else if p.char == '\t' then none
    else if isBreak p.char then widestIndentation? widest rest
    else some widest

/-- The lines of a block so far. -/
structure BlockLines where
  done : List Char := []
  /-- The line break after the last line with a text. -/
  last : List Char := []
  /-- The line breaks after that, last one first. -/
  empty : List Char := []
  /-- Whether the last line with a text began with a blank. -/
  isIndented : Bool := false

namespace BlockLines

/-- The lines with the first character of another one. In a folded block the line break between two
lines counts only if one of them begins with a blank, and is a blank if it is the only one. -/
def begin (isFolded : Bool) (c : Char) (b : BlockLines) : BlockLines :=
  let joint :=
    if isFolded && b.last == ['\n'] && !b.isIndented && !isBlank c then
      if b.empty.isEmpty then [' '] else []
    else b.last
  { done := c :: (b.empty ++ joint ++ b.done), isIndented := isBlank c }

/-- The text of the lines. -/
def chomp (chomping : Chomping) (b : BlockLines) : List Char :=
  match chomping with
  | .strip => b.done.reverse
  | .clip => (b.last ++ b.done).reverse
  | .keep => (b.empty ++ b.last ++ b.done).reverse

end BlockLines

/-- Reads the lines of a block with a known indentation; `inLine` says whether the characters of a
line are being read. A tab before the indentation is refused. -/
def readLines (isFolded : Bool) (indentation : Nat) (inLine : Bool) (b : BlockLines) :
    PlacedText → Option (BlockLines × PlacedText)
  | [] => some (b, [])
  | p :: rest =>
    let c := p.char
    if inLine then
      if isBreak c then readLines isFolded indentation false { b with last := [c] } rest
      else readLines isFolded indentation true { b with done := c :: b.done } rest
    else if isBreak c then
      readLines isFolded indentation false { b with empty := c :: b.empty } rest
    else if p.column < indentation then
      if c == ' ' then readLines isFolded indentation false b rest
      else if c == '\t' then none
      else some (b, p :: rest)
    else readLines isFolded indentation true (b.begin isFolded c) rest

/-- Reads a block after its first character, inside a margin. -/
def readBlock (isFolded : Bool) (margin : Nat) (t : PlacedText) : ScalarResult := do
  let (header, t) ← readHeader? t
  let indentation ← match header.indentation with
    | some n => some (margin - 1 + n)
    | none => (widestIndentation? 0 t).map fun widest => max (max widest margin) 1
  let (b, rest) ← readLines isFolded indentation false {} t
  return (b.chomp header.chomping, rest)

end ResourceTables.Yaml
