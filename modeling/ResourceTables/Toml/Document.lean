import ResourceTables.Toml.Scalar
import ResourceTables.Toml.Text

/-!
# ResourceTables.Toml.Document

Reading of TOML documents: lines that are blank, hold a comment, open a table or an array of tables,
or give a key a value. A mark of byte order in front of the text is passed over.

Values nest less than eighty deep, and so do keys.
-/

namespace ResourceTables.Toml

/-! ### Lines -/

/-- What follows a comment, if there is one. -/
def skipComment : List Char → List Char
  | '#' :: cs => cs.dropWhile isPlain
  | cs => cs

/-- What follows the end of a line: blanks, a comment, and a line break or the end of the text. -/
def afterLine? (cs : List Char) : Option (List Char) :=
  match skipComment (skipBlanks cs) with
  | [] => some []
  | cs => afterBreak? cs

/-- What follows blanks, comments and line breaks; `fuel` bounds the lines. -/
def skipLines : (fuel : Nat) → List Char → List Char
  | 0, cs => cs
  | fuel + 1, cs =>
    match afterBreak? (skipComment (skipBlanks cs)) with
    | some rest => skipLines fuel rest
    | none => skipComment (skipBlanks cs)

/-! ### Keys -/

/-- The characters of keys without quotes. -/
def isKeyChar (c : Char) : Bool := c.isAlphanum || c == '-' || c == '_'

/-- Reads one part of a key. -/
def readKeyPart (cs : List Char) : TextResult :=
  match cs with
  | '\x22' :: cs => readBasic [] cs
  | '\x27' :: cs => readLiteral [] cs
  | cs =>
    let part := cs.takeWhile isKeyChar
    if part.isEmpty then none else some (String.ofList part, cs.dropWhile isKeyChar)

/-- Reads a key, which is parts with points between two, and the blanks after it. -/
def readKey : (fuel : Nat) → List Char → Option (List String × List Char)
  | 0, _ => none
  | fuel + 1, cs => do
    let (part, cs) ← readKeyPart (skipBlanks cs)
    match skipBlanks cs with
    | '.' :: cs => do
      let (parts, cs) ← readKey fuel cs
      return (part :: parts, cs)
    | cs => return ([part], cs)

/-- A key as the path to a table and the name in it. -/
def pathAndName : List String → Option (List String × String)
  | [] => none
  | parts => parts.getLast?.map (parts.dropLast, ·)

/-- How deep keys and values may nest. -/
def depthLimit : Nat := 80

/-- Reads a key of an allowed length, as a path and a name. -/
def readPath (cs : List Char) : Option ((List String × String) × List Char) := do
  let (parts, cs) ← readKey depthLimit cs
  if parts.length < depthLimit then return (← pathAndName parts, cs) else none

/-! ### Values -/

mutual
/-- Reads a value, with `depth - 1` levels left below it. -/
def readValue : (fuel depth : Nat) → List Char → Option (Value × List Char)
  | 0, _, _ => none
  | fuel + 1, depth, cs =>
    match cs with
    | '\x22' :: _ | '\x27' :: _ => (readText cs).map fun (s, rest) => (.string s, rest)
    | '[' :: rest =>
      if depth ≤ 1 then none
      else (readItems fuel (depth - 1) [] rest).map fun (vs, rest) => (.array vs, rest)
    | '\x7b' :: rest =>
      if depth ≤ 1 then none
      else match skipBlanks rest with
        | '\x7d' :: rest => some (.table .inline [], rest)
        | rest => (readPairs fuel (depth - 1) [] rest).map fun (ms, rest) =>
          (.table .inline ms, rest)
    | cs => readWord cs

/-- Reads the items of an array, which may go over several lines, up to its closing bracket. -/
def readItems : (fuel depth : Nat) → (done : List Value) → List Char →
    Option (List Value × List Char)
  | 0, _, _, _ => none
  | fuel + 1, depth, done, cs =>
    match skipLines cs.length cs with
    | ']' :: rest => some (done.reverse, rest)
    | cs => do
      let (v, cs) ← readValue fuel depth cs
      match skipLines cs.length cs with
      | ',' :: rest => readItems fuel depth (v :: done) rest
      | ']' :: rest => some ((v :: done).reverse, rest)
      | _ => none

/-- Reads the pairs of an inline table, of which there is at least one, up to its closing brace. -/
def readPairs : (fuel depth : Nat) → Members → List Char → Option (Members × List Char)
  | 0, _, _, _ => none
  | fuel + 1, depth, done, cs => do
    let ((path, name), cs) ← readPath cs
    match skipBlanks cs with
    | '=' :: cs => do
      let (v, cs) ← readValue fuel depth (skipBlanks cs)
      let (_, done) ← addMember path name v .inline done
      match skipBlanks cs with
      | ',' :: rest => readPairs fuel depth done rest
      | '\x7d' :: rest => some (done, rest)
      | _ => none
    | _ => none
end

/-! ### Documents -/

/-- What was read of a document: its tables, and the header that is in force. -/
structure Progress where
  root : Members := []
  header : List String := []

/-- Reads a header with what closes it, and the end of its line. -/
def readHeader (close : List Char) (cs : List Char) :
    Option ((List String × String) × List Char) := do
  let (path, cs) ← readPath cs
  if close.isPrefixOf cs then return (path, ← afterLine? (cs.drop close.length)) else none

/-- Reads one line that is not blank. -/
def readLine (p : Progress) (cs : List Char) : Option (Progress × List Char) :=
  match cs with
  | '[' :: '[' :: cs => do
    let ((path, name), cs) ← readHeader [']', ']'] cs
    return (⟨← openArrayTable path name p.root, path ++ [name]⟩, cs)
  | '[' :: cs => do
    let ((path, name), cs) ← readHeader [']'] cs
    return (⟨← openTable path name p.root, path ++ [name]⟩, cs)
  | cs => do
    let ((path, name), cs) ← readPath cs
    match cs with
    | '=' :: cs => do
      let (v, cs) ← readValue cs.length depthLimit (skipBlanks cs)
      let cs ← afterLine? cs
      let (_, root) ← alter false (addMember path name v) p.header .header p.root
      return ({ p with root }, cs)
    | _ => none

/-- Reads the lines of a document. -/
def readDocument : (fuel : Nat) → Progress → List Char → Option Members
  | 0, _, _ => none
  | fuel + 1, p, cs =>
    match skipBlanks cs with
    | [] => some p.root
    | '#' :: cs => (afterLine? ('#' :: cs)).bind (readDocument fuel p)
    | cs => match afterBreak? cs with
      | some rest => readDocument fuel p rest
      | none => (readLine p cs).bind fun (p, rest) => readDocument fuel p rest

/-- The table of a text that is a document. -/
def parse? (text : String) : Option Value :=
  let cs := match text.toList with
    | '\ufeff' :: cs => cs
    | cs => cs
  (readDocument (cs.length + 1) {} cs).map (.table .header)

end ResourceTables.Toml
