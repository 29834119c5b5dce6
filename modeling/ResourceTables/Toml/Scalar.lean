import ResourceTables.Json.Read
import ResourceTables.Toml.Value

/-!
# ResourceTables.Toml.Scalar

The values of TOML that are written as one word: truth values, integers, floats, dates and times.

Digits may be grouped by single underscores between two of them. An integer fits sixty-four bits
with a sign, and only decimal ones have a sign. A positive float that is too large is refused.
-/

namespace ResourceTables.Toml

open Json (digitsValue)

/-! ### Digits -/

/-- The digits of a group without its underscores; nothing if there is no digit at either side of
one, or something else. -/
def grouped (isDigit : Char → Bool) : List Char → Option (List Char)
  | [] => none
  | [c] => if isDigit c then some [c] else none
  | c :: '_' :: rest => if isDigit c then (grouped isDigit rest).map (c :: ·) else none
  | c :: rest => if isDigit c then (grouped isDigit rest).map (c :: ·) else none

/-- A sign, and what follows it. -/
def signed : List Char → Bool × List Char
  | '-' :: cs => (true, cs)
  | '+' :: cs => (false, cs)
  | cs => (false, cs)

/-- The digits of a whole decimal number: no leading zero but for zero itself. -/
def wholeDigits? (cs : List Char) : Option (List Char) :=
  match grouped Char.isDigit cs with
  | some ('0' :: _ :: _) => none
  | ds => ds

/-! ### Integers -/

/-- The value of digits in a base. -/
def inBase (base : Nat) (ds : List Char) : Nat :=
  ds.foldl (fun n c => base * n + (Text.hexValue? c).getD 0) 0

/-- Whether a character is a digit of a base. -/
def isDigitOf (base : Nat) (c : Char) : Bool := (Text.hexValue? c).any (· < base)

/-- A number without a sign in another base. -/
def based? (base : Nat) (cs : List Char) : Option Int :=
  (grouped (isDigitOf base) cs).bind fun ds =>
    let n : Int := inBase base ds
    if Number.fitsSigned 64 n then some n else none

/-- An integer. -/
def integer? : List Char → Option Int
  | '0' :: 'x' :: cs => based? 16 cs
  | '0' :: 'o' :: cs => based? 8 cs
  | '0' :: 'b' :: cs => based? 2 cs
  | cs =>
    let (negative, cs) := signed cs
    (wholeDigits? cs).bind fun ds =>
      let n : Int := if negative then -digitsValue ds else digitsValue ds
      if Number.fitsSigned 64 n then some n else none

/-! ### Floats -/

/-- Whether characters are an exponent after its letter, and its value. -/
def exponent? (cs : List Char) : Option Int :=
  let (negative, cs) := signed cs
  (grouped Char.isDigit cs).map fun ds =>
    if negative then -(digitsValue ds : Int) else digitsValue ds

/-- Whether characters are a float with a fraction, an exponent or both. -/
def isFinite (cs : List Char) : Bool :=
  let (negative, cs) := signed cs
  let isMark (c : Char) := c == '.' || c == 'e' || c == 'E'
  let isLetter (c : Char) := c == 'e' || c == 'E'
  let whole := wholeDigits? (cs.takeWhile fun c => !isMark c)
  let (fraction, rest) := match cs.dropWhile fun c => !isMark c with
    | '.' :: rest =>
      (grouped Char.isDigit (rest.takeWhile fun c => !isLetter c),
        rest.dropWhile fun c => !isLetter c)
    | rest => (some [], rest)
  let exponent := match rest with
    | [] => some 0
    | _ :: rest => exponent? rest
  match whole, fraction, exponent with
  | some whole, some fraction, some exponent =>
    cs.any isMark && (negative ||
      (Number.Double.ofDecimal false (digitsValue (whole ++ fraction))
        (exponent - fraction.length)).isSome)
  | _, _, _ => false

/-- Whether characters are a float. -/
def isFloat (cs : List Char) : Bool :=
  let bare := String.ofList (signed cs).2
  bare == "inf" || bare == "nan" || isFinite cs

/-! ### Dates and times -/

/-- The value of exactly `n` digits in front, and what follows them. -/
def digits? (n : Nat) (cs : List Char) : Option (Nat × List Char) :=
  let ds := cs.take n
  if ds.length = n && ds.all Char.isDigit then some (digitsValue ds, cs.drop n) else none

/-- What follows a mark. -/
def after? (mark : Char) : List Char → Option (List Char)
  | [] => none
  | c :: cs => if c = mark then some cs else none

/-- How many days a month has. -/
def daysIn (year month : Nat) : Nat :=
  if month = 2 then
    if year % 4 = 0 && (year % 100 != 0 || year % 400 = 0) then 29 else 28
  else if month = 4 || month = 6 || month = 9 || month = 11 then 30
  else 31

/-- What follows a date. -/
def afterDate? (cs : List Char) : Option (List Char) := do
  let (year, cs) ← digits? 4 cs
  let (month, cs) ← digits? 2 (← after? '-' cs)
  let (day, cs) ← digits? 2 (← after? '-' cs)
  if 1 ≤ month && month ≤ 12 && 1 ≤ day && day ≤ daysIn year month then some cs else none

/-- What follows an hour and a minute. -/
def afterMinutes? (cs : List Char) : Option (List Char) := do
  let (hour, cs) ← digits? 2 cs
  let (minute, cs) ← digits? 2 (← after? ':' cs)
  if hour < 24 && minute < 60 then some cs else none

/-- What follows a time. -/
def afterTime? (cs : List Char) : Option (List Char) := do
  let (second, cs) ← digits? 2 (← after? ':' (← afterMinutes? cs))
  if 60 < second then none
  else match cs with
    | '.' :: cs =>
      if (cs.takeWhile Char.isDigit).isEmpty then none else some (cs.dropWhile Char.isDigit)
    | cs => some cs

/-- Whether characters are the end of a time: nothing, or the distance from universal time. -/
def isOffset : List Char → Bool
  | [] => true
  | ['Z'] | ['z'] => true
  | '+' :: cs | '-' :: cs => afterMinutes? cs == some []
  | _ => false

/-- Whether characters are a date, a time, or a date and a time. -/
def isDateTime (cs : List Char) : Bool :=
  afterTime? cs == some [] || match afterDate? cs with
    | some [] => true
    | some (c :: cs) =>
      (c == 'T' || c == 't' || c == ' ') && (afterTime? cs).any isOffset
    | none => false

/-! ### Words -/

/-- The value of a word. -/
def word? (cs : List Char) : Option Value :=
  let text := String.ofList cs
  if text = "true" then some (.boolean true)
  else if text = "false" then some (.boolean false)
  else if isDateTime cs then some (.dateTime text)
  else if isFloat cs then some (.float text)
  else (integer? cs).map .integer

/-- The characters of words. -/
def isWordChar (c : Char) : Bool :=
  c.isAlphanum || c == '+' || c == '-' || c == '_' || c == '.' || c == ':'

/-- Reads the value of a word. A blank and a time after a date belong to it. -/
def readWord (cs : List Char) : Option (Value × List Char) :=
  let word := cs.takeWhile isWordChar
  let rest := cs.dropWhile isWordChar
  let (word, rest) := match afterDate? word, rest with
    | some [], ' ' :: more =>
      if (afterMinutes? more).isSome then
        (word ++ ' ' :: more.takeWhile isWordChar, more.dropWhile isWordChar)
      else (word, rest)
    | _, _ => (word, rest)
  (word? word).map (·, rest)

end ResourceTables.Toml
