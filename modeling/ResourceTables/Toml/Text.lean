import ResourceTables.Json.Read

/-!
# ResourceTables.Toml.Text

Strings of TOML: the basic ones with escapes and the literal ones without, each on one line or over
several lines between threefold quotes.

Where a string is read, `done` holds its characters so far, last one first. A string over several
lines may end with up to two quotes of its own before the three that close it.
-/

namespace ResourceTables.Toml

/-- Blanks inside a line. -/
def isBlank (c : Char) : Bool := c == ' ' || c == '\t'

/-- The characters after blanks. -/
def skipBlanks (cs : List Char) : List Char := cs.dropWhile isBlank

/-- Characters that stand for themselves in comments and literal strings: all but the control
characters other than the tab. -/
def isPlain (c : Char) : Bool := c == '\t' || (0x20 ≤ c.toNat && c.toNat != 0x7F)

/-- What follows a line break. -/
def afterBreak? : List Char → Option (List Char)
  | '\n' :: cs | '\r' :: '\n' :: cs => some cs
  | _ => none

/-- What follows a line break, if there is one. -/
def skipBreak (cs : List Char) : List Char := (afterBreak? cs).getD cs

/-- A string with the rest of the text. -/
abbrev TextResult := Option (String × List Char)

/-- A string from its characters, last one first. -/
def finish (done rest : List Char) : TextResult := some (String.ofList done.reverse, rest)

/-! ### Escapes -/

/-- The character of a short escape. -/
def shortEscape? (c : Char) : Option Char :=
  if c = '\x22' || c = '\\' then some c
  else if c = 'b' then some '\x08'
  else if c = 't' then some '\t'
  else if c = 'n' then some '\n'
  else if c = 'f' then some '\x0c'
  else if c = 'r' then some '\r'
  else none

/-- The character with the number of some hexadecimal digits. -/
def scalar? (ds : List Char) : Option Char :=
  (Text.ofHexDigits? ds).bind fun n =>
    if n < 0xD800 || (0xDFFF < n && n < 0x110000) then some (Char.ofNat n) else none

/-! ### One line -/

/-- Reads a basic string after its opening quote. -/
def readBasic (done : List Char) : List Char → TextResult
  | [] => none
  | '\x22' :: rest => finish done rest
  | '\\' :: 'u' :: a :: b :: c :: d :: rest =>
    (scalar? [a, b, c, d]).bind fun ch => readBasic (ch :: done) rest
  | '\\' :: 'U' :: a :: b :: c :: d :: e :: f :: g :: h :: rest =>
    (scalar? [a, b, c, d, e, f, g, h]).bind fun ch => readBasic (ch :: done) rest
  | '\\' :: c :: rest => (shortEscape? c).bind fun ch => readBasic (ch :: done) rest
  | c :: rest => if isPlain c then readBasic (c :: done) rest else none

/-- Reads a literal string after its opening quote. -/
def readLiteral (done : List Char) : List Char → TextResult
  | [] => none
  | '\x27' :: rest => finish done rest
  | c :: rest => if isPlain c then readLiteral (c :: done) rest else none

/-! ### Several lines -/

/-- Reads a basic string over several lines. After a backslash at the end of a line, the blanks and
line breaks up to the next other character are left out (`trimming`). -/
def readBasicLines (trimming : Bool) (done : List Char) : List Char → TextResult
  | [] => none
  | '\x22' :: '\x22' :: '\x22' :: '\x22' :: '\x22' :: rest => finish ('\x22' :: '\x22' :: done) rest
  | '\x22' :: '\x22' :: '\x22' :: '\x22' :: rest => finish ('\x22' :: done) rest
  | '\x22' :: '\x22' :: '\x22' :: rest => finish done rest
  | '\\' :: 'u' :: a :: b :: c :: d :: rest =>
    (scalar? [a, b, c, d]).bind fun ch => readBasicLines false (ch :: done) rest
  | '\\' :: 'U' :: a :: b :: c :: d :: e :: f :: g :: h :: rest =>
    (scalar? [a, b, c, d, e, f, g, h]).bind fun ch => readBasicLines false (ch :: done) rest
  | '\\' :: c :: rest =>
    if (afterBreak? (skipBlanks (c :: rest))).isSome then readBasicLines true done (c :: rest)
    else (shortEscape? c).bind fun ch => readBasicLines false (ch :: done) rest
  | '\r' :: '\n' :: rest => readBasicLines trimming (if trimming then done else '\n' :: done) rest
  | '\n' :: rest => readBasicLines trimming (if trimming then done else '\n' :: done) rest
  | c :: rest =>
    if trimming && isBlank c then readBasicLines true done rest
    else if isPlain c then readBasicLines false (c :: done) rest
    else none

/-- Reads a literal string over several lines. -/
def readLiteralLines (done : List Char) : List Char → TextResult
  | [] => none
  | '\x27' :: '\x27' :: '\x27' :: '\x27' :: '\x27' :: rest => finish ('\x27' :: '\x27' :: done) rest
  | '\x27' :: '\x27' :: '\x27' :: '\x27' :: rest => finish ('\x27' :: done) rest
  | '\x27' :: '\x27' :: '\x27' :: rest => finish done rest
  | '\r' :: '\n' :: rest => readLiteralLines ('\n' :: done) rest
  | '\n' :: rest => readLiteralLines ('\n' :: done) rest
  | c :: rest => if isPlain c then readLiteralLines (c :: done) rest else none

/-- Reads a string of any kind; a line break right after threefold quotes does not count. -/
def readText : List Char → TextResult
  | '\x22' :: '\x22' :: '\x22' :: cs => readBasicLines false [] (skipBreak cs)
  | '\x27' :: '\x27' :: '\x27' :: cs => readLiteralLines [] (skipBreak cs)
  | '\x22' :: cs => readBasic [] cs
  | '\x27' :: cs => readLiteral [] cs
  | _ => none

/-! ### Writing -/

/-- The longest run of a character. -/
def longestRun (c : Char) (cs : List Char) : Nat :=
  (cs.foldl (fun (run, most) d =>
    let run := if d = c then run + 1 else 0
    (run, max run most)) (0, 0)).2

/-- Whether a character can only be written as an escape. -/
def needsEscape (c : Char) : Bool := !isPlain c && c != '\n'

/-- The characters of a basic string, where up to `quotes` quotes may follow one another and line
breaks stand for themselves if `lines` is set; `run` quotes were just written. -/
def escaped (quotes : Nat) (lines : Bool) (run : Nat) : List Char → List Char
  | [] => []
  | c :: rest =>
    if c = '\x22' then
      if run < quotes then c :: escaped quotes lines (run + 1) rest
      else '\\' :: c :: escaped quotes lines 0 rest
    else
      let written :=
        if c = '\x08' then ['\\', 'b']
        else if c = '\t' then ['\\', 't']
        else if c = '\n' then if lines then [c] else ['\\', 'n']
        else if c = '\x0c' then ['\\', 'f']
        else if c = '\r' then ['\\', 'r']
        else if c = '\\' then ['\\', '\\']
        else if isPlain c then [c]
        else '\\' :: 'u' :: (Text.hexDigits 4 c.toNat).map Char.toUpper
      written ++ escaped quotes lines 0 rest

/-- A string in the style that needs the fewest escapes: basic, literal, or over several lines, and
a basic one with escapes if nothing else is left. -/
def written (s : String) : String :=
  let cs := s.toList
  let breaks := cs.contains '\n'
  let codes := cs.any needsEscape
  let slashes := cs.contains '\\'
  let basicQuotes := longestRun '\x22' cs
  let literalQuotes := longestRun '\x27' cs
  let between (quotes : List Char) (cs : List Char) :=
    let first := if breaks then ['\n'] else []
    quotes ++ first ++ cs ++ quotes
  let basicLines := between (.replicate 3 '\x22') (escaped 2 true 0 cs)
  let basic := '\x22' :: escaped 0 false 0 cs ++ ['\x22']
  String.ofList (
    if !codes && !slashes && basicQuotes = 0 && !breaks then basic
    else if !codes && literalQuotes = 0 && !breaks then '\x27' :: cs ++ ['\x27']
    else if !codes && !slashes && basicQuotes ≤ 2 then basicLines
    else if !codes && literalQuotes ≤ 2 then between (.replicate 3 '\x27') cs
    else if breaks then basicLines
    else basic)

/-- A line that gives a key a value. -/
def line (key value : String) : String := key ++ " = " ++ value ++ "\n"

/-- An array of strings: on one line, or with a line for each if there are several. -/
def strings : List String → String
  | [] => "[]"
  | [s] => "[" ++ written s ++ "]"
  | items => "[\n" ++ String.join (items.map fun s => "    " ++ written s ++ ",\n") ++ "]"

end ResourceTables.Toml
