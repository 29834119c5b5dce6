import ResourceTables.Json.Read

/-!
# ResourceTables.Text.Decimal

Texts that spell a number: decimal digits with an optional point among or beside them, an optional
sign before and an optional exponent after them, or one of the words for infinity and for what is
not a number.
-/

namespace ResourceTables.Text

/-- The characters after a sign, if there is one. -/
def afterSign : List Char → List Char
  | '+' :: cs | '-' :: cs => cs
  | cs => cs

/-- The value of an exponent: nothing at all, or a letter, a sign or none, and digits. -/
def exponent? : List Char → Option Int
  | [] => some 0
  | c :: cs =>
    let digits := afterSign cs
    let n : Int := Json.digitsValue digits
    if (c == 'e' || c == 'E') && !digits.isEmpty && digits.all Char.isDigit then
      some (if cs.head? = some '-' then -n else n)
    else none

/-- The number that digits stand for, with at most one point, at least one digit, and an exponent or
none: its digits and a power of ten. -/
def decimal? (cs : List Char) : Option (Nat × Int) :=
  let whole := cs.takeWhile Char.isDigit
  let (fraction, rest) := match cs.dropWhile Char.isDigit with
    | '.' :: rest => (rest.takeWhile Char.isDigit, rest.dropWhile Char.isDigit)
    | rest => ([], rest)
  if whole.isEmpty && fraction.isEmpty then none
  else (exponent? rest).map fun e => (Json.digitsValue (whole ++ fraction), e - fraction.length)

/-- Whether a text spells a number. -/
def spellsNumber (text : String) : Bool :=
  let cs := afterSign text.toList
  (decimal? cs).isSome ||
    ["inf", "infinity", "nan"].contains (String.ofList (cs.map Char.toLower))

end ResourceTables.Text
