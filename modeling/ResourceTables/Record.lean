import ResourceTables.Json.Decode

/-!
# ResourceTables.Record

What is recorded under the resource models: resource instances, and tiles, each of which holds one
occurrence of a nodegroup's data.

The data of a tile is sparse. A node that has no member and a node whose member is `null` both have
no value, and members are found by the canonical text of the node's identifier alone.
-/

namespace ResourceTables

open Json (Decoder Value Fields Members)

/-- One record that conforms to a graph. -/
structure Resource where
  id : Uuid
  graph : Uuid
  /-- The identifier it had in an older system. -/
  legacyId : Option String := none
  deriving DecidableEq

/-- One occurrence of a nodegroup's data for a resource. -/
structure Tile where
  id : Uuid
  resource : Uuid
  nodegroup : Uuid
  /-- The tile of the parent nodegroup it belongs to. -/
  parent : Option Uuid := none
  /-- Stored values by the text of their node's identifier. -/
  data : Members := []

namespace Tile

/-- The stored value of a node. -/
def value? (t : Tile) (node : Uuid) : Option Value :=
  (t.data.lookup node.toString).filter fun v => !v.isNull

/-- Stores the value of a node. -/
def set (t : Tile) (node : Uuid) (value : Value) : Tile :=
  { t with data := t.data.insert node.toString value }

end Tile

/-! ### Documents -/

/-- Reads a resource. -/
def Resource.ofJson : Decoder Resource := fun v => do
  let fields ← Fields.of ["resourceinstanceid", "graph_id", "legacyid"] v
  let id := fields.required "resourceinstanceid" Decoder.uuid
  let graph := fields.required "graph_id" Decoder.uuid
  let legacyId := fields.optional "legacyid" (Decoder.nullable Decoder.string)
  fields.settle [id.failure?, graph.failure?, legacyId.failure?]
  return { id := ← id.get, graph := ← graph.get, legacyId := legacyId.getD none }

/-- A member that is left out where there is no value. -/
def memberOf {α : Type} (name : String) (write : α → Value) : Option α → List (String × Value)
  | some a => [(name, write a)]
  | none => []

/-- The document of a resource. -/
def Resource.toJson (r : Resource) : Value :=
  .object (("graph_id", .string r.graph.toString) :: (memberOf "legacyid" .string r.legacyId ++
    [("resourceinstanceid", .string r.id.toString)]))

/-- Reads the data of a tile. -/
def Tile.dataOfJson : Decoder Members
  | .object members => .ok members
  | _ => .error .unfit

/-- Reads a tile. -/
def Tile.ofJson : Decoder Tile := fun v => do
  let fields ← Fields.of
    ["tileid", "resourceinstance_id", "nodegroup_id", "parenttile_id", "data"] v
  let id := fields.required "tileid" Decoder.uuid
  let resource := fields.required "resourceinstance_id" Decoder.uuid
  let nodegroup := fields.required "nodegroup_id" Decoder.uuid
  let parent := fields.optional "parenttile_id" (Decoder.nullable Decoder.uuid)
  let data := fields.optional "data" Tile.dataOfJson
  fields.settle [id.failure?, resource.failure?, nodegroup.failure?, parent.failure?,
    data.failure?]
  return {
    id := ← id.get
    resource := ← resource.get
    nodegroup := ← nodegroup.get
    parent := parent.getD none
    data := data.getD [] }

/-- The document of a tile. -/
def Tile.toJson (t : Tile) : Value :=
  .object (("data", .object t.data) :: ("nodegroup_id", .string t.nodegroup.toString) ::
    (memberOf "parenttile_id" (fun p => .string p.toString) t.parent ++
      [("resourceinstance_id", .string t.resource.toString), ("tileid", .string t.id.toString)]))

end ResourceTables
