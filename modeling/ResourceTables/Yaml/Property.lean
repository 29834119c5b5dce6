import ResourceTables.Json.Read
import ResourceTables.Text.Hex
import ResourceTables.Yaml.Place
import ResourceTables.Yaml.Token

/-!
# ResourceTables.Yaml.Property

What may stand in front of a node or a document: the names of anchors, tags, and directives.
-/

namespace ResourceTables.Yaml

/-! ### Names -/

/-- Reads the name of an anchor or alias. A gap or an indicator that no name can begin with is to
follow it. -/
def readName? (t : PlacedText) : Option (String × PlacedText) :=
  let (name, rest) := t.span isNameChar
  let followers := ['?', ':', ',', ']', '\x7d', '%', '@', '\x60']
  if !name.isEmpty && (rest.atGap || rest.atOneOf followers) then
    some (String.ofList name, rest)
  else none

/-! ### Tags -/

/-- The marks that may stand in a tag. -/
def tagMarks : List Char := ";/?:@&=+$.!~*'()".toList

/-- Whether a character may stand in a tag; where nothing follows the tag, indicators of flow
collections may. -/
def isTagChar (isAlone : Bool) (c : Char) : Bool :=
  isNameChar c || tagMarks.contains c || (isAlone && [',', '[', ']'].contains c)

/-- How many octets of a character follow its first one. -/
def octetsAfter? (octet : Nat) : Option Nat :=
  if octet < 0x80 then some 0
  else if octet / 0x20 = 6 then some 1
  else if octet / 0x10 = 14 then some 2
  else if octet / 8 = 30 then some 3
  else none

/-- Reads the characters of a tag. An escaped octet stands as the character of its number: tags are
only compared with a few that have no such octets. `owed` is how many octets a character still
lacks. -/
def readTagChars (isAlone : Bool) (owed : Nat) (done : List Char) :
    PlacedText → Option (List Char × PlacedText)
  | ⟨'%', _, _⟩ :: high :: low :: rest =>
    match Text.ofHexDigits? [high.char, low.char] with
    | none => none
    | some octet =>
      let next := if owed = 0 then octetsAfter? octet
        else if octet / 0x40 = 2 then some (owed - 1)
        else none
      match next with
      | some owed => readTagChars isAlone owed (Char.ofNat octet :: done) rest
      | none => none
  | p :: rest =>
    if owed ≠ 0 || p.char == '%' then none
    else if isTagChar isAlone p.char then readTagChars isAlone 0 (p.char :: done) rest
    else some (done.reverse, p :: rest)
  | [] => if owed = 0 then some (done.reverse, []) else none

/-- Reads a text of a tag that is not empty. -/
def readTagText? (isAlone : Bool) (t : PlacedText) : Option (String × PlacedText) := do
  match ← readTagChars isAlone 0 [] t with
  | ([], _) => none
  | (cs, rest) => return (String.ofList cs, rest)

/-- Reads a tag after its exclamation mark. -/
def readTagName? (t : PlacedText) : Option (TagName × PlacedText) := do
  match t with
  | ⟨'<', _, _⟩ :: rest =>
    match ← readTagText? true rest with
    | (suffix, ⟨'>', _, _⟩ :: rest) => return (⟨none, suffix⟩, rest)
    | _ => none
  | _ =>
    let (name, rest) := t.span isNameChar
    match rest with
    | ⟨'!', _, _⟩ :: rest =>
      let (suffix, rest) ← readTagText? false rest
      return (⟨some ("!" ++ String.ofList name ++ "!"), suffix⟩, rest)
    | _ =>
      let (more, rest) ← readTagChars false 0 [] rest
      match name ++ more with
      | [] => return (⟨none, "!"⟩, rest)
      | suffix => return (⟨some "!", String.ofList suffix⟩, rest)

/-- Reads a tag after its exclamation mark. A gap is to follow it, or in a flow collection a
comma. -/
def readTag? (inFlow : Bool) (t : PlacedText) : Option (TagName × PlacedText) := do
  let (tag, rest) ← readTagName? t
  if rest.atGap || (inFlow && rest.atOneOf [',']) then return (tag, rest) else none

/-! ### Directives -/

/-- Reads a number of a version, of up to nine digits. -/
def readVersionNumber? (t : PlacedText) : Option (Nat × PlacedText) :=
  let (digits, rest) := t.span Char.isDigit
  if digits.isEmpty || 9 < digits.length then none
  else some (Json.digitsValue digits, rest)

/-- Reads a version. -/
def readVersion? (t : PlacedText) : Option (Token × PlacedText) := do
  let (major, t) ← readVersionNumber? t
  match t with
  | ⟨'.', _, _⟩ :: t =>
    let (minor, t) ← readVersionNumber? t
    return (.version major minor, t)
  | _ => none

/-- Reads a handle: one exclamation mark, or a name or nothing between two. -/
def readHandleName? : PlacedText → Option (String × PlacedText)
  | ⟨'!', _, _⟩ :: t =>
    match PlacedText.span isNameChar t with
    | (name, ⟨'!', _, _⟩ :: t) => some ("!" ++ String.ofList name ++ "!", t)
    | ([], t) => some ("!", t)
    | _ => none
  | _ => none

/-- Reads a handle and the text it stands for. -/
def readHandle? (t : PlacedText) : Option (Token × PlacedText) := do
  let (handle, t) ← readHandleName? t
  if !t.char?.any isBlank then none
  else
    let (text, t) ← readTagText? true t.skipBlanks
    if t.atGap then return (.handle handle text, t) else none

/-- Reads a directive after its percent sign, with the line it stands on. -/
def readDirective? (t : PlacedText) : Option (Token × PlacedText) := do
  let (name, t) := t.span isNameChar
  if name.isEmpty || !t.atGap then none
  else
    let (token, t) ← match String.ofList name with
      | "YAML" => readVersion? t.skipBlanks
      | "TAG" => readHandle? t.skipBlanks
      | _ => none
    let t ← t.skipComment?
    return (token, t.drop 1)

end ResourceTables.Yaml
