import ResourceTables.Json.Value
import ResourceTables.Text.Hex

/-!
# ResourceTables.Json.Read

Reading of JSON texts, strictly by the standard: no comments, no trailing commas, no leading zeros,
no raw control characters and no lone surrogates. Arrays and objects nest at most 127 deep.

Design points:

* Every scanner takes the characters that are left and returns those it leaves.
* A number keeps its kind: without fraction and exponent, and within sixty-four bits, it is an
  integer; all else is a double, and so is `-0`. A number too large for a double is no number.
* A double is read fast, not exactly: of its digits those count that fit sixty-four bits, and what they
  make is scaled by a power of ten (`Number.Double.scaled`). So the last digit that is written again
  may be another one.
* `readValue` and its companions are bounded by a fuel that counts the characters, each call taking
  one at least; the bound on nesting is apart from it.
-/

namespace ResourceTables.Json

/-- The four blanks of the format. -/
def isSpace (c : Char) : Bool := c == ' ' || c == '\n' || c == '\t' || c == '\r'

/-- The characters after any blanks. -/
def skipSpace (cs : List Char) : List Char := cs.dropWhile isSpace

/-! ### Strings -/

/-- The number of four hexadecimal digits. -/
def unit? (a b c d : Char) : Option Nat := Text.ofHexDigits? [a, b, c, d]

/-- The character of a short escape. -/
def shortEscape? (c : Char) : Option Char :=
  if c = '\x22' || c = '\\' || c = '/' then some c
  else if c = 'b' then some '\x08'
  else if c = 'f' then some '\x0c'
  else if c = 'n' then some '\n'
  else if c = 'r' then some '\r'
  else if c = 't' then some '\t'
  else none

/-- Reads a string after its opening quote; `done` holds what was read, last character first. -/
def readString (done : List Char) : List Char → Option (String × List Char)
  | [] => none
  | '\x22' :: rest => some (String.ofList done.reverse, rest)
  | '\\' :: 'u' :: a :: b :: c :: d :: rest => do
    let high ← unit? a b c d
    if 0xD800 ≤ high && high < 0xDC00 then
      match rest with
      | '\\' :: 'u' :: e :: f :: g :: h :: rest => do
        let low ← unit? e f g h
        if 0xDC00 ≤ low && low < 0xE000 then
          readString (Char.ofNat (0x10000 + (high - 0xD800) * 0x400 + (low - 0xDC00)) :: done) rest
        else none
      | _ => none
    else if 0xDC00 ≤ high && high < 0xE000 then none
    else readString (Char.ofNat high :: done) rest
  | '\\' :: c :: rest => do
    let e ← shortEscape? c
    readString (e :: done) rest
  | c :: rest => if c.toNat < 0x20 then none else readString (c :: done) rest

/-! ### Numbers -/

/-- The number that decimal digits stand for. -/
def digitsValue (ds : List Char) : Nat := ds.foldl (fun n c => 10 * n + (c.toNat - 48)) 0

/-- Splits off a leading run of decimal digits. -/
def readDigits (cs : List Char) : List Char × List Char :=
  (cs.takeWhile Char.isDigit, cs.dropWhile Char.isDigit)

/-- The integer part: no leading zero but for zero itself. -/
def readWhole (cs : List Char) : Option (List Char × List Char) :=
  let (ds, rest) := readDigits cs
  match ds with
  | [] => none
  | ['0'] => some (ds, rest)
  | '0' :: _ => none
  | _ => some (ds, rest)

/-- An optional part after a mark, which has at least one digit. -/
def readFraction : List Char → Option (Option (List Char) × List Char)
  | '.' :: cs =>
    let (ds, rest) := readDigits cs
    if ds.isEmpty then none else some (some ds, rest)
  | cs => some (none, cs)

/-- An optional signed exponent. -/
def readExponent : List Char → Option (Option Int × List Char)
  | c :: cs =>
    if c = 'e' || c = 'E' then
      let (negative, cs) := match cs with
        | '-' :: cs => (true, cs)
        | '+' :: cs => (false, cs)
        | cs => (false, cs)
      let (ds, rest) := readDigits cs
      if ds.isEmpty then none
      else some (some (if negative then -(digitsValue ds : Int) else digitsValue ds), rest)
    else some (none, c :: cs)
  | [] => some (none, [])

/-- Appends digits to a number as long as it fits sixty-four bits; what is left begins with the first
digit that does not fit. -/
def appendDigits (n : Nat) : List Char → Nat × List Char
  | [] => (n, [])
  | c :: cs =>
    let longer := 10 * n + (c.toNat - 48)
    if ResourceTables.Number.fitsUnsigned 64 longer then appendDigits longer cs else (n, c :: cs)

/-- The double of the digits before and after the point. A digit that is left out before the point still
counts as a place, and one after it does not. -/
def double? (negative : Bool) (whole fraction : List Char) (exponent : Int) :
    Option Number.Double :=
  let (n, surplus) := appendDigits 0 whole
  let (n, unused) := appendDigits n fraction
  let places := fraction.length - unused.length
  (Number.Double.ofRatio negative n 1).bind (·.scaled (exponent + surplus.length - places))

/-- What the digits make is beyond 2^53 and is rounded before it is divided. -/
example : (double? true "93".toList "31137037688033".toList 0).map Number.Double.toString =
    some "-93.31137037688032" := by decide +kernel

/-- The number of a sign and the digits without fraction and exponent. -/
def wholeNumber (negative : Bool) (digits : List Char) : Option Number :=
  let n := digitsValue digits
  if negative then
    if 0 < n && ResourceTables.Number.fitsSigned 64 (-n) then some (.integer (-n))
    else (double? true digits [] 0).map .double
  else if ResourceTables.Number.fitsUnsigned 64 n then some (.integer n)
  else (double? false digits [] 0).map .double

/-- Reads a number. -/
def readNumber (cs : List Char) : Option (Number × List Char) := do
  let (negative, cs) := match cs with
    | '-' :: cs => (true, cs)
    | cs => (false, cs)
  let (whole, cs) ← readWhole cs
  let (fraction, cs) ← readFraction cs
  let (exponent, cs) ← readExponent cs
  let number ← match fraction, exponent with
    | none, none => wholeNumber negative whole
    | _, _ => (double? negative whole (fraction.getD []) (exponent.getD 0)).map .double
  return (number, cs)

/-! ### Values -/

/-- Reads a fixed word. -/
def readWord (word : List Char) (value : Value) (cs : List Char) : Option (Value × List Char) :=
  if word.isPrefixOf cs then some (value, cs.drop word.length) else none

mutual
/-- Reads a value, blanks before it skipped; at most `depth - 1` levels may nest in it. -/
def readValue : (fuel depth : Nat) → List Char → Option (Value × List Char)
  | 0, _, _ => none
  | fuel + 1, depth, cs =>
    match skipSpace cs with
    | [] => none
    | '\x22' :: rest => (readString [] rest).map fun (s, rest) => (.string s, rest)
    | '[' :: rest =>
      if depth ≤ 1 then none
      else match skipSpace rest with
        | ']' :: rest => some (.array [], rest)
        | _ => (readItems fuel (depth - 1) rest).map fun (vs, rest) => (.array vs, rest)
    | '\x7b' :: rest =>
      if depth ≤ 1 then none
      else match skipSpace rest with
        | '\x7d' :: rest => some (.object [], rest)
        | _ => (readMembers fuel (depth - 1) [] rest).map fun (ms, rest) => (.object ms, rest)
    | 'n' :: rest => readWord "ull".toList .null rest
    | 't' :: rest => readWord "rue".toList (.bool true) rest
    | 'f' :: rest => readWord "alse".toList (.bool false) rest
    | cs => (readNumber cs).map fun (n, rest) => (.number n, rest)

/-- Reads the items of an array that has at least one, up to its closing bracket. -/
def readItems : (fuel depth : Nat) → List Char → Option (List Value × List Char)
  | 0, _, _ => none
  | fuel + 1, depth, cs => do
    let (v, cs) ← readValue fuel depth cs
    match skipSpace cs with
    | ',' :: rest => do
      let (vs, rest) ← readItems fuel depth rest
      return (v :: vs, rest)
    | ']' :: rest => some ([v], rest)
    | _ => none

/-- Reads the members of an object that has at least one, up to its closing brace. -/
def readMembers : (fuel depth : Nat) → Members → List Char → Option (Members × List Char)
  | 0, _, _, _ => none
  | fuel + 1, depth, done, cs =>
    match skipSpace cs with
    | '\x22' :: rest => do
      let (name, cs) ← readString [] rest
      match skipSpace cs with
      | ':' :: rest => do
        let (v, cs) ← readValue fuel depth rest
        let done := Members.insert name v done
        match skipSpace cs with
        | ',' :: rest => readMembers fuel depth done rest
        | '\x7d' :: rest => some (done, rest)
        | _ => none
      | _ => none
    | _ => none
end

/-- The value of a text that holds one value and blanks around it. -/
def Value.parse? (text : String) : Option Value :=
  let cs := text.toList
  match readValue (cs.length + 1) 128 cs with
  | some (v, rest) => if (skipSpace rest).isEmpty then some v else none
  | none => none

end ResourceTables.Json
