import ResourceTables.Yaml.Property
import ResourceTables.Yaml.Scalar

/-!
# ResourceTables.Yaml.Token.Lexer

The tokens of a YAML text.

Design points:

* Block collections begin where a column is reached for the first time and end where it is left. The
  **margin** is the first column inside the innermost of them; at the top it is zero.
* Whether a node is a key is only known at the colon after it. So where a node begins that may be
  one, its place among the tokens is kept as a **candidate**, one for each flow collection that is
  open and one for the block around them; at the colon the token for the key goes there. A candidate
  holds for its own line only, and for 1024 characters of it.
* A candidate at the column of its block mapping can be nothing but a key, so there it is an error
  if no colon follows.
-/

namespace ResourceTables.Yaml

/-- A node that may turn out to be a key. -/
structure Candidate where
  /-- How many tokens stand before it. -/
  position : Nat
  line : Nat
  column : Nat
  /-- Whether it has to be a key. -/
  isRequired : Bool

/-- What is known between two tokens. -/
structure Lexer where
  tokens : Array Token := #[]
  /-- The margins of the block collections that are open, innermost first. -/
  margins : List Nat := []
  /-- The candidate of the innermost flow collection, or of the block if there is none. -/
  candidate : Option Candidate := none
  /-- The candidates of the collections around, innermost first. -/
  outer : List (Option Candidate) := []
  /-- Whether a key may begin here. -/
  keyAllowed : Bool := true

namespace Lexer

/-- The lexer with the text that is left. -/
abbrev Result := Option (Lexer × PlacedText)

/-- Whether a flow collection is open. -/
def inFlow (s : Lexer) : Bool := !s.outer.isEmpty

/-- The first column inside the innermost block collection. -/
def margin (s : Lexer) : Nat := s.margins.headD 0

/-- One more token. -/
def push (s : Lexer) (token : Token) : Lexer := { s with tokens := s.tokens.push token }

/-! ### Blocks -/

/-- Begins a block collection unless its column was reached before. The token goes to a position
among the others. -/
def openBlock (s : Lexer) (column position : Nat) (token : Token) : Lexer :=
  if s.inFlow || column < s.margin then s
  else { s with
    margins := (column + 1) :: s.margins
    tokens := s.tokens.insertIdxIfInBounds position token }

/-- Ends the block collections whose margin is beyond a limit. -/
def closeBlocks (limit : Nat) (s : Lexer) : Lexer :=
  if s.inFlow then s
  else
    let closed := s.margins.takeWhile (limit < ·)
    { s with
      margins := s.margins.drop closed.length
      tokens := s.tokens ++ closed.map fun _ => Token.blockEnd }

/-! ### Candidates for keys -/

/-- Gives up the candidate. -/
def dropCandidate (s : Lexer) : Option Lexer :=
  if s.candidate.any Candidate.isRequired then none else some { s with candidate := none }

/-- Makes the node that begins here the candidate, if a key may begin here. -/
def offerCandidate (s : Lexer) (p : Placed) : Option Lexer :=
  if s.keyAllowed then
    s.dropCandidate.map fun s => { s with
      candidate := some {
        position := s.tokens.size
        line := p.line
        column := p.column
        isRequired := !s.inFlow && s.margin == p.column + 1 } }
  else some s

/-- A candidate as it stands at a character: nothing if it is too far away. -/
def expired (p : Placed) : Option Candidate → Option (Option Candidate)
  | some c =>
    if c.line < p.line || c.column + 1024 < p.column then
      if c.isRequired then none else some none
    else some (some c)
  | none => some none

/-- Gives up the candidates that are too far away from a character. -/
def expire (s : Lexer) (p : Placed) : Option Lexer := do
  return { s with candidate := ← expired p s.candidate, outer := ← s.outer.mapM (expired p) }

/-! ### Between tokens -/

/-- Skips blanks, line breaks and comments. After a line break outside flow collections a key may
begin. A tab is a blank only where none may. -/
def skipGap (inFlow inComment keyAllowed : Bool) : PlacedText → Bool × PlacedText
  | [] => (keyAllowed, [])
  | p :: rest =>
    let c := p.char
    if isBreak c then skipGap inFlow false (keyAllowed || !inFlow) rest
    else if inComment || c == ' ' || (c == '\t' && (inFlow || !keyAllowed)) ||
        (c == byteOrderMark && p.column == 0) then
      skipGap inFlow inComment keyAllowed rest
    else if c == '#' then skipGap inFlow true keyAllowed rest
    else (keyAllowed, p :: rest)

/-! ### Tokens -/

/-- A token of one character, with what is known after it. -/
def mark (s : Lexer) (token : Token) (keyAllowed : Bool) (rest : PlacedText) : Result :=
  some ({ s.push token with keyAllowed := keyAllowed }, rest)

/-- A token in front of a document. -/
def outside (s : Lexer) (token : Token) (rest : PlacedText) : Result := do
  (← (s.closeBlocks 0).dropCandidate).mark token false rest

/-- The beginning of a flow collection. -/
def openFlow (s : Lexer) (p : Placed) (token : Token) (rest : PlacedText) : Result := do
  let s ← s.offerCandidate p
  { s with candidate := none, outer := s.candidate :: s.outer }.mark token true rest

/-- The end of a flow collection. -/
def closeFlow (s : Lexer) (token : Token) (rest : PlacedText) : Result := do
  let s ← s.dropCandidate
  let s := match s.outer with
    | candidate :: outer => { s with candidate, outer }
    | [] => s
  s.mark token false rest

/-- An indicator of a block collection. In a block it begins the collection if need be, and it may
only stand where a key may begin. -/
def blockIndicator (s : Lexer) (p : Placed) (start : Token) : Option Lexer :=
  if s.inFlow then some s
  else if s.keyAllowed then some (s.openBlock p.column s.tokens.size start)
  else none

/-- The hyphen before an item. -/
def entry (s : Lexer) (p : Placed) (rest : PlacedText) : Result := do
  let s ← s.blockIndicator p .blockSequenceStart
  (← s.dropCandidate).mark .blockEntry true rest

/-- The question mark before a key. -/
def keyMark (s : Lexer) (p : Placed) (rest : PlacedText) : Result := do
  let s ← s.blockIndicator p .blockMappingStart
  (← s.dropCandidate).mark .key (!s.inFlow) rest

/-- The colon before a value. The candidate is the key, if there is one. -/
def valueMark (s : Lexer) (p : Placed) (rest : PlacedText) : Result := do
  match s.candidate with
  | some c =>
    let s := { s with
      candidate := none
      tokens := s.tokens.insertIdxIfInBounds c.position .key }
    (s.openBlock c.column c.position .blockMappingStart).mark .value false rest
  | none =>
    let s ← s.blockIndicator p .blockMappingStart
    s.mark .value (!s.inFlow) rest

/-- A token that may begin a key, and no key may begin right after it. -/
def node (s : Lexer) (p : Placed) (read : Option (Token × PlacedText)) : Result := do
  let s ← s.offerCandidate p
  let (token, rest) ← read
  s.mark token false rest

/-- A scalar in quotes. -/
def quoted (s : Lexer) (p : Placed) (read : ScalarResult) : Result :=
  s.node p (read.map fun (cs, rest) => (.scalar false (String.ofList cs), rest))

/-- A block scalar. -/
def block (s : Lexer) (isFolded : Bool) (rest : PlacedText) : Result := do
  let s ← s.dropCandidate
  let (cs, rest) ← readBlock isFolded s.margin rest
  s.mark (.scalar false (String.ofList cs)) true rest

/-- A plain scalar. -/
def plain (s : Lexer) (p : Placed) (t : PlacedText) : Result := do
  let s ← s.offerCandidate p
  let read ← readPlain s.inFlow s.margin .none [] t
  s.mark (.scalar true (String.ofList read.text)) read.isBroken read.rest

/-- Whether a plain scalar may begin with a character that is not an indicator here. -/
def beginsPlain (inFlow : Bool) (c : Char) : Bool :=
  if c == '-' then true
  else if c == '?' || c == ':' then !inFlow
  else !isBlank c && !(",[]#&*!|>%@'\"".toList ++ ['\x7b', '\x7d', '\x60']).contains c

/-- Reads the token that begins with a character. -/
def next (s : Lexer) (p : Placed) (rest : PlacedText) : Result :=
  let t : PlacedText := p :: rest
  if p.column = 0 && p.char == '%' then do
    let (token, rest) ← readDirective? rest
    s.outside token rest
  else match PlacedText.documentMarker? t with
    | some '-' => s.outside .documentStart (rest.drop 2)
    | some _ => s.outside .documentEnd (rest.drop 2)
    | none =>
      let inFlow := s.inFlow
      let word := inFlow || rest.atGap
      match p.char with
      | '[' => s.openFlow p .flowSequenceStart rest
      | '\x7b' => s.openFlow p .flowMappingStart rest
      | ']' => s.closeFlow .flowSequenceEnd rest
      | '\x7d' => s.closeFlow .flowMappingEnd rest
      | ',' => s.dropCandidate.bind fun s => s.mark .flowEntry true rest
      | '*' => s.node p ((readName? rest).map fun (name, rest) => (.alias name, rest))
      | '&' => s.node p ((readName? rest).map fun (name, rest) => (.anchor name, rest))
      | '!' => s.node p ((readTag? inFlow rest).map fun (tag, rest) => (.tag tag, rest))
      | '\'' => s.quoted p (readSingleQuoted .none [] rest)
      | '\"' => s.quoted p (readDoubleQuoted .text .none [] rest)
      | c =>
        if c == '-' && rest.atGap then s.entry p rest
        else if c == '?' && word then s.keyMark p rest
        else if c == ':' && word then s.valueMark p rest
        else if (c == '|' || c == '>') && !inFlow then s.block (c == '>') rest
        else if beginsPlain inFlow c then s.plain p t
        else none

/-- The tokens at the end of the text. -/
def close (s : Lexer) : Option (Array Token) :=
  (s.closeBlocks 0).dropCandidate.map Lexer.tokens

/-- Reads all tokens. Every token takes a character of the text, so `fuel` is as much as the text is
long. -/
def run : (fuel : Nat) → Lexer → PlacedText → Option (Array Token)
  | 0, _, _ => none
  | fuel + 1, s, t =>
    let (keyAllowed, t) := skipGap s.inFlow false s.keyAllowed t
    let s := { s with keyAllowed }
    match t with
    | [] => s.close
    | p :: rest => do
      let s ← s.expire p
      let (s, rest) ← (s.closeBlocks (p.column + 1)).next p rest
      run fuel s rest

end Lexer

/-- The tokens of a text. -/
def tokens? (text : String) : Option (List Token) := do
  let t ← PlacedText.ofChars? text.toList
  return (← Lexer.run (t.length + 1) {} t).toList

end ResourceTables.Yaml
