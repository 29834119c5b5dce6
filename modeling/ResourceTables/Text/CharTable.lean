import ResourceTables.Text.Hex

/-!
# ResourceTables.Text.CharTable

Tables of characters, for properties and mappings that no short rule describes.

A table is written in lines of words, each of which is a run of characters: `41` is one character,
`41-5A` all from the first to the last, and `100-12E/2` every second one. A run may say what its
characters map to: after `:` stand the images that all of them have, and after `+` the image of the
first one, from which those of the others follow at the same distance. The runs are in ascending
order and do not overlap, so that a character is found by bisection.
-/

namespace ResourceTables.Text

/-- What the characters of a run map to. -/
inductive Image
  /-- All to the same characters. -/
  | same (chars : List Char)
  /-- Each to one character, at the same distance. -/
  | shifted (first : Nat)

/-- Characters at equal distances. -/
structure Run where
  first : Nat
  last : Nat
  step : Nat
  image : Image

/-- Splits off a leading hexadecimal number. -/
def leadingHex (cs : List Char) : Nat × List Char :=
  let isHex (c : Char) := (hexValue? c).isSome
  ((ofHexDigits? (cs.takeWhile isHex)).getD 0, cs.dropWhile isHex)

/-- The characters of numbers with a point between two; `fuel` bounds how many there are. -/
def pointed : (fuel : Nat) → List Char → List Char
  | 0, _ => []
  | fuel + 1, cs =>
    let (n, rest) := leadingHex cs
    Char.ofNat n :: match rest with
      | '.' :: rest => pointed fuel rest
      | _ => []

/-- Reads a run. -/
def Run.ofWord (word : String) : Run :=
  let (first, rest) := leadingHex word.toList
  let (last, rest) := match rest with
    | '-' :: rest => leadingHex rest
    | rest => (first, rest)
  let (step, rest) := match rest with
    | '/' :: rest => leadingHex rest
    | rest => (1, rest)
  let image := match rest with
    | '+' :: rest => .shifted (leadingHex rest).1
    | ':' :: rest => .same (if rest.isEmpty then [] else pointed rest.length rest)
    | _ => .same []
  ⟨first, last, step, image⟩

/-- The image of a character under a run that holds it. -/
def Run.image? (r : Run) (c : Char) : Option (List Char) :=
  let n := c.toNat
  if r.first ≤ n && n ≤ r.last && (n - r.first) % r.step == 0 then
    match r.image with
    | .same chars => some chars
    | .shifted first => some [Char.ofNat (first + (n - r.first))]
  else none

/-- Runs in ascending order. -/
structure CharTable where
  runs : Array Run

namespace CharTable

/-- Reads a table from lines of words. -/
def ofLines (lines : List String) : CharTable :=
  ⟨(lines.flatMap fun line => (line.splitOn " ").map Run.ofWord).toArray⟩

/-- How many of the runs start at or before `n`, where the first `low` do and those from `high` on
do not. -/
def startedBy (t : CharTable) (n low high : Nat) : Nat :=
  if _h : low < high then
    let middle := (low + high) / 2
    match t.runs[middle]? with
    | some r => if r.first ≤ n then startedBy t n (middle + 1) high else startedBy t n low middle
    | none => low
  else low
termination_by high - low

/-- The image of a character; nothing if it is not in the table. -/
def image? (t : CharTable) (c : Char) : Option (List Char) :=
  t.runs[t.startedBy c.toNat 0 t.runs.size - 1]?.bind (·.image? c)

/-- Whether a character is in the table. -/
def contains (t : CharTable) (c : Char) : Bool := (t.image? c).isSome

end CharTable

end ResourceTables.Text
