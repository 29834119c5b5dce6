import ResourceTables.Text.Hex

/-!
# ResourceTables.Uuid

Identifiers of 128 bits. They are written in lower case with four hyphens, and read from that form
in any case, from the bare digits, and from the hyphenated form in braces or after a URN scheme.

Design points:

* Reading the hyphenated form is defined through writing it (`hyphenate`): the hyphens are removed
  and must come back at the same places. So exactly the texts of the written shape are accepted.
* The order is the order of the numbers, which is also the order of the written texts.
-/

namespace ResourceTables

/-- An identifier of 128 bits. -/
structure Uuid where
  bits : BitVec 128
  deriving DecidableEq

namespace Uuid

instance : Inhabited Uuid := ⟨⟨0⟩⟩

instance : Hashable Uuid := ⟨fun u => hash u.bits.toNat⟩

/-- The order of the numbers. -/
def le (a b : Uuid) : Bool := a.bits.toNat ≤ b.bits.toNat

/-- The identifier with the given number, modulo 2¹²⁸. -/
def ofNat (n : Nat) : Uuid := ⟨BitVec.ofNat 128 n⟩

/-! ### Writing -/

/-- The thirty-two lower-case digits. -/
def digits (u : Uuid) : List Char := Text.hexDigits 32 u.bits.toNat

/-- Digits in groups of eight, four, four, four and the rest, with a hyphen between groups. -/
def hyphenate (ds : List Char) : List Char :=
  ds.take 8 ++ '-' :: ((ds.drop 8).take 4 ++ '-' :: ((ds.drop 12).take 4 ++
    '-' :: ((ds.drop 16).take 4 ++ '-' :: ds.drop 20)))

/-- The canonical text: lower case, hyphenated. -/
def toString (u : Uuid) : String := String.ofList (hyphenate u.digits)

instance : ToString Uuid := ⟨toString⟩

/-! ### Reading -/

/-- Reads thirty-two digits. -/
def ofSimple? (cs : List Char) : Option Uuid :=
  if cs.length = 32 then (Text.ofHexDigits? cs).map ofNat else none

/-- Reads the hyphenated form. -/
def ofHyphenated? (cs : List Char) : Option Uuid :=
  let ds := cs.filter (· != '-')
  if hyphenate ds = cs then ofSimple? ds else none

/-- Reads an identifier from any of the accepted forms; a URN scheme is all in one case. -/
def parseChars? : List Char → Option Uuid
  | 'u' :: 'r' :: 'n' :: ':' :: 'u' :: 'u' :: 'i' :: 'd' :: ':' :: rest
  | 'U' :: 'R' :: 'N' :: ':' :: 'U' :: 'U' :: 'I' :: 'D' :: ':' :: rest => ofHyphenated? rest
  | '{' :: rest => if rest.getLast? = some '}' then ofHyphenated? rest.dropLast else none
  | cs => (ofSimple? cs).or (ofHyphenated? cs)

/-- Reads an identifier from a text. -/
def parse? (text : String) : Option Uuid := parseChars? text.toList

end Uuid

end ResourceTables
