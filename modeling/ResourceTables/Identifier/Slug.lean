import ResourceTables.Text.Fold
import ResourceTables.Text.Case
import ResourceTables.Uuid.Digest

/-!
# ResourceTables.Identifier.Slug

Slugs: bounded lower-case identifiers made from names that people wrote. Accents are folded, quotes
are dropped, and every other run of characters that are no ASCII letters or digits becomes one
separator. A name with nothing left gets an identifier derived from its whole text.

Two different names can have the same slug; nothing here prevents it.
-/

namespace ResourceTables

/-- The character between two words of an identifier. -/
def separator : Char := '_'

namespace Slug

/-- The characters that words are made of. -/
def isWordChar (c : Char) : Bool := ('a' ≤ c && c ≤ 'z') || ('0' ≤ c && c ≤ '9')

/-- Straight, grave and curved quotes, which are dropped and separate nothing. -/
def isQuote (c : Char) : Bool :=
  c == '\x27' || c == '\x22' || c == '\x60' || c == '‘' || c == '’'

/-- Every run of characters outside words as one separator. -/
def separated : List Char → List Char
  | [] => []
  | c :: rest =>
    if isWordChar c then c :: separated rest
    else match separated rest with
      | [] => [separator]
      | d :: tail => if d = separator then d :: tail else separator :: d :: tail

/-- The characters without separators at the end. -/
def trimEnd (cs : List Char) : List Char := (cs.reverse.dropWhile (· == separator)).reverse

/-- The words of a text with one separator between two. -/
def joinedWords (cs : List Char) : List Char :=
  trimEnd ((separated cs).dropWhile (· == separator))

/-- The identifier of a name that has no words: it is the same for the same name. -/
def standIn (name : String) : List Char :=
  'n' :: separator :: (Uuid.ofName Uuid.objectNamespace name).digits.take 8

/-- The characters of a name that count: folded, in lower case, without quotes. -/
def prepared (name : String) : List Char :=
  (Text.lowercase (Text.fold name.toList)).filter fun c => !isQuote c

/-- The slug of a name before it is cut. -/
def whole (name : String) : List Char :=
  match joinedWords (prepared name) with
  | [] => standIn name
  | cs => cs

/-- The beginning of an identifier; a separator that the cut leaves at the end goes as well. -/
def cut (maxLength : Nat) (cs : List Char) : List Char := trimEnd (cs.take maxLength)

end Slug

/-- The slug of a name, of at most `maxLength` characters. -/
def slugify (name : String) (maxLength : Nat) : String :=
  String.ofList (Slug.cut maxLength (Slug.whole name))

end ResourceTables
