import ResourceTables.Json.Decode

/-!
# ResourceTables.ExportError

The causes for which an export fails, their wording, and their documents.
-/

namespace ResourceTables

open Json (Decoder Value Fields)

/-- Why an export fails. -/
inductive ExportError
  | serialization (text : String)
  | validation (text : String)
  | io (text : String)
  | missingTopNode (graph : Uuid)
  | missingCollector (nodegroup : Uuid)
  | unknownNodegroup (nodegroup : Uuid)
  /-- The chain of parents comes back to the nodegroup. -/
  | cyclicNodegroups (nodegroup : Uuid)
  | missingConfiguration (node : Uuid) (datatype : String)
  | unknownCollection (node collection : Uuid)
  | invalidValue (tile node : Uuid) (reason : String)
  /-- The work itself failed, outside of what is exported. -/
  | failed (text : String)
  deriving DecidableEq

namespace ExportError

/-- The wording of a cause. -/
def message : ExportError → String
  | serialization text => "Serialization error: " ++ text
  | validation text => "Validation error: " ++ text
  | io text => "IO error: " ++ text
  | missingTopNode graph => "Graph " ++ graph.toString ++ " has no top node"
  | missingCollector nodegroup => "Nodegroup " ++ nodegroup.toString ++ " has no collector node"
  | unknownNodegroup nodegroup => "Unknown nodegroup " ++ nodegroup.toString
  | cyclicNodegroups nodegroup =>
    "Nodegroup parent chain is cyclic at " ++ nodegroup.toString
  | missingConfiguration node datatype =>
    "Node " ++ node.toString ++ " (" ++ datatype ++ ") is missing its lookup configuration"
  | unknownCollection node collection =>
    "Concept collection " ++ collection.toString ++ " referenced by node " ++ node.toString ++
      " does not exist"
  | invalidValue tile node reason =>
    "Invalid value for node " ++ node.toString ++ " in tile " ++ tile.toString ++ ": " ++ reason
  | failed text => "Export error: " ++ text

/-- The name of a cause in documents. -/
def name : ExportError → String
  | serialization _ => "SerializationError"
  | validation _ => "ValidationError"
  | io _ => "IoError"
  | missingTopNode _ => "MissingTopNode"
  | missingCollector _ => "MissingCollector"
  | unknownNodegroup _ => "UnknownNodegroup"
  | cyclicNodegroups _ => "CyclicNodegroups"
  | missingConfiguration .. => "MissingConfiguration"
  | unknownCollection .. => "UnknownCollection"
  | invalidValue .. => "InvalidValue"
  | failed _ => "ExportError"

/-! ### Documents -/

/-- The names of all causes, in the order of the declaration. -/
def names : List String :=
  ["SerializationError", "ValidationError", "IoError", "MissingTopNode", "MissingCollector",
    "UnknownNodegroup", "CyclicNodegroups", "MissingConfiguration", "UnknownCollection",
    "InvalidValue", "ExportError"]

/-- Reads a cause: an object of one member, named for the cause, that holds its content. -/
def ofJson : Decoder ExportError := fun v => do
  match ← Decoder.variant names v with
  | (_, none) => .error .unfit
  | (name, some content) =>
    match name with
    | "SerializationError" => return serialization (← Decoder.string content)
    | "ValidationError" => return validation (← Decoder.string content)
    | "IoError" => return io (← Decoder.string content)
    | "MissingTopNode" => return missingTopNode (← Decoder.uuid content)
    | "MissingCollector" => return missingCollector (← Decoder.uuid content)
    | "UnknownNodegroup" => return unknownNodegroup (← Decoder.uuid content)
    | "CyclicNodegroups" => return cyclicNodegroups (← Decoder.uuid content)
    | "MissingConfiguration" =>
      let fields ← Fields.of ["node_id", "datatype"] content
      let node := fields.required "node_id" Decoder.uuid
      let datatype := fields.required "datatype" Decoder.string
      fields.settle [node.failure?, datatype.failure?]
      return missingConfiguration (← node.get) (← datatype.get)
    | "UnknownCollection" =>
      let fields ← Fields.of ["node_id", "collection_id"] content
      let node := fields.required "node_id" Decoder.uuid
      let collection := fields.required "collection_id" Decoder.uuid
      fields.settle [node.failure?, collection.failure?]
      return unknownCollection (← node.get) (← collection.get)
    | "InvalidValue" =>
      let fields ← Fields.of ["tile_id", "node_id", "reason"] content
      let tile := fields.required "tile_id" Decoder.uuid
      let node := fields.required "node_id" Decoder.uuid
      let reason := fields.required "reason" Decoder.string
      fields.settle [tile.failure?, node.failure?, reason.failure?]
      return invalidValue (← tile.get) (← node.get) (← reason.get)
    | _ => return failed (← Decoder.string content)

/-- The content of a cause as a value. -/
def content : ExportError → Value
  | serialization text | validation text | io text | failed text => .string text
  | missingTopNode id | missingCollector id | unknownNodegroup id | cyclicNodegroups id =>
    .string id.toString
  | missingConfiguration node datatype =>
    .object [("datatype", .string datatype), ("node_id", .string node.toString)]
  | unknownCollection node collection =>
    .object [("collection_id", .string collection.toString), ("node_id", .string node.toString)]
  | invalidValue tile node reason =>
    .object [("node_id", .string node.toString), ("reason", .string reason),
      ("tile_id", .string tile.toString)]

/-- The document of a cause. -/
def toJson (e : ExportError) : Value := .object [(e.name, e.content)]

end ExportError

end ResourceTables
