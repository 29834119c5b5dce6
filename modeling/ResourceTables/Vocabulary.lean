import ResourceTables.Json.Decode

/-!
# ResourceTables.Vocabulary

Controlled vocabularies: collections of entries that lookup nodes refer to. An entry that only
groups others is never stored as a value.
-/

namespace ResourceTables

open Json (Decoder Value Fields)

/-- One entry of a collection. -/
structure Entry where
  id : Uuid
  label : String
  /-- How deep it is nested below the collection. -/
  depth : Nat := 0
  /-- Whether it only groups other entries. -/
  isGrouping : Bool := false
  deriving DecidableEq

/-- A collection of entries. -/
structure Collection where
  id : Uuid
  label : Option String := none
  entries : List Entry := []
  deriving DecidableEq

/-! ### Documents -/

/-- Reads an entry. -/
def Entry.ofJson : Decoder Entry := fun v => do
  let fields ← Fields.of ["id", "label", "depth", "collector"] v
  let id := fields.required "id" Decoder.uuid
  let label := fields.required "label" Decoder.string
  let depth := fields.optional "depth" (Decoder.unsigned 32)
  let isGrouping := fields.optional "collector" Decoder.bool
  fields.settle [id.failure?, label.failure?, depth.failure?, isGrouping.failure?]
  return {
    id := ← id.get
    label := ← label.get
    depth := depth.getD 0
    isGrouping := isGrouping.getD false }

/-- The document of an entry. -/
def Entry.toJson (e : Entry) : Value :=
  .object [("collector", .bool e.isGrouping), ("depth", .nat e.depth),
    ("id", .string e.id.toString), ("label", .string e.label)]

/-- Reads a collection. -/
def Collection.ofJson : Decoder Collection := fun v => do
  let fields ← Fields.of ["collectionid", "label", "entries"] v
  let id := fields.required "collectionid" Decoder.uuid
  let label := fields.optional "label" (Decoder.nullable Decoder.string)
  let entries := fields.optional "entries" (Decoder.list Entry.ofJson)
  fields.settle [id.failure?, label.failure?, entries.failure?]
  return { id := ← id.get, label := label.getD none, entries := entries.getD [] }

/-- The document of a collection. -/
def Collection.toJson (c : Collection) : Value :=
  .object [("collectionid", .string c.id.toString),
    ("entries", .array (c.entries.map Entry.toJson)), ("label", Value.orNull .string c.label)]

end ResourceTables
