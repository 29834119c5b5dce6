/-!
# ResourceTables.Yaml.Token

The tokens of a YAML document. Those that begin and end block collections and simple mapping keys
stand for no character of the text: they follow from its columns.
-/

namespace ResourceTables.Yaml

/-- A tag as written: a handle and what follows it. A handle stands for a text in front, as a
directive says; a tag that is written in full has no handle. -/
structure TagName where
  handle : Option String
  suffix : String
  deriving DecidableEq

/-- A token. -/
inductive Token
  /-- A directive with the version of the language. -/
  | version (major minor : Nat)
  /-- A directive that says what a handle stands for. -/
  | handle (name text : String)
  | documentStart
  | documentEnd
  | blockSequenceStart
  | blockMappingStart
  | blockEnd
  | flowSequenceStart
  | flowSequenceEnd
  | flowMappingStart
  | flowMappingEnd
  /-- The hyphen before an item. -/
  | blockEntry
  /-- The comma after an item or pair. -/
  | flowEntry
  /-- The place where a key begins. -/
  | key
  /-- The colon before a value. -/
  | value
  | alias (name : String)
  | anchor (name : String)
  | tag (name : TagName)
  | scalar (isPlain : Bool) (text : String)
  deriving DecidableEq

end ResourceTables.Yaml
