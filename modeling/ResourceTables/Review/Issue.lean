import ResourceTables.Record
import ResourceTables.Graph
import ResourceTables.Text.Visible

/-!
# ResourceTables.Review.Issue

What a review can find wrong with a graph or with a tile, with the documents of issues and a text of
them for people to read.
-/

namespace ResourceTables

open Json (Decoder Value Fields)

/-! ### Texts -/

/-- A named group of named parts. -/
def labelled (name : String) (parts : List (String × String)) : String :=
  name ++ " \x7b " ++ ", ".intercalate (parts.map fun (label, text) => label ++ ": " ++ text) ++
    " \x7d"

/-- Identifiers in brackets. -/
def bracketed (ids : List Uuid) : String :=
  "[" ++ ", ".intercalate (ids.map Uuid.toString) ++ "]"

/-! ### Graphs -/

/-- A structural problem of a graph. -/
inductive GraphIssue
  | missingTopNode
  | multipleTopNodes (nodes : List Uuid)
  | missingCollector (nodegroup : Uuid)
  | unknownParentNodegroup (nodegroup parent : Uuid)
  | unknownNodegroup (node nodegroup : Uuid)
  | orphanNode (node : Uuid)
  | cyclicNodegroups (cycle : List Uuid)
  | missingLookupConfiguration (node : Uuid) (datatype : String)
  deriving DecidableEq

namespace GraphIssue

/-- The text of an issue. -/
def text : GraphIssue → String
  | missingTopNode => "MissingTopNode"
  | multipleTopNodes nodes => labelled "MultipleTopNodes" [("node_ids", bracketed nodes)]
  | missingCollector nodegroup =>
    labelled "MissingCollector" [("nodegroup_id", nodegroup.toString)]
  | unknownParentNodegroup nodegroup parent =>
    labelled "UnknownParentNodegroup"
      [("nodegroup_id", nodegroup.toString), ("parent_id", parent.toString)]
  | unknownNodegroup node nodegroup =>
    labelled "UnknownNodegroup"
      [("node_id", node.toString), ("nodegroup_id", nodegroup.toString)]
  | orphanNode node => labelled "OrphanNode" [("node_id", node.toString)]
  | cyclicNodegroups cycle => labelled "CyclicNodegroups" [("cycle", bracketed cycle)]
  | missingLookupConfiguration node datatype =>
    labelled "MissingLookupConfiguration"
      [("node_id", node.toString), ("datatype", Text.visible datatype)]

/-- The names of all issues in documents, in the order of the declaration. -/
def names : List String :=
  ["missing_top_node", "multiple_top_nodes", "missing_collector", "unknown_parent_nodegroup",
    "unknown_nodegroup", "orphan_node", "cyclic_nodegroups", "missing_lookup_configuration"]

/-- A member that holds an identifier. -/
def idMember (name : String) (id : Uuid) : String × Value := (name, .string id.toString)

/-- The name of an issue and its other members. -/
def members : GraphIssue → String × List (String × Value)
  | missingTopNode => ("missing_top_node", [])
  | multipleTopNodes nodes =>
    ("multiple_top_nodes", [("node_ids", .array (nodes.map fun n => .string n.toString))])
  | missingCollector nodegroup => ("missing_collector", [idMember "nodegroup_id" nodegroup])
  | unknownParentNodegroup nodegroup parent =>
    ("unknown_parent_nodegroup",
      [idMember "nodegroup_id" nodegroup, idMember "parent_id" parent])
  | unknownNodegroup node nodegroup =>
    ("unknown_nodegroup", [idMember "node_id" node, idMember "nodegroup_id" nodegroup])
  | orphanNode node => ("orphan_node", [idMember "node_id" node])
  | cyclicNodegroups cycle =>
    ("cyclic_nodegroups", [("cycle", .array (cycle.map fun n => .string n.toString))])
  | missingLookupConfiguration node datatype =>
    ("missing_lookup_configuration", [idMember "node_id" node, ("datatype", .string datatype)])

/-- The document of an issue. -/
def toJson (i : GraphIssue) : Value :=
  .object (("issue", .string i.members.1) :: i.members.2)

/-- Reads a record of one field. -/
def oneField {α : Type} (name : String) (decode : Decoder α) : Decoder α := fun v => do
  let fields ← Fields.of [name] v
  let slot := fields.required name decode
  fields.settle [slot.failure?]
  slot.get

/-- Reads a record of two fields. -/
def twoFields {α β : Type} (first : String) (decodeFirst : Decoder α) (second : String)
    (decodeSecond : Decoder β) : Decoder (α × β) := fun v => do
  let fields ← Fields.of [first, second] v
  let a := fields.required first decodeFirst
  let b := fields.required second decodeSecond
  fields.settle [a.failure?, b.failure?]
  return (← a.get, ← b.get)

/-- Reads an issue. -/
def ofJson : Decoder GraphIssue := fun v => do
  let (name, content) ← Decoder.tagged "issue" names v
  let id := Decoder.uuid
  match name with
  | "missing_top_node" =>
    let _ ← Fields.of [] content
    return missingTopNode
  | "multiple_top_nodes" =>
    return multipleTopNodes (← oneField "node_ids" (Decoder.list id) content)
  | "missing_collector" => return missingCollector (← oneField "nodegroup_id" id content)
  | "unknown_parent_nodegroup" =>
    let (nodegroup, parent) ← twoFields "nodegroup_id" id "parent_id" id content
    return unknownParentNodegroup nodegroup parent
  | "unknown_nodegroup" =>
    let (node, nodegroup) ← twoFields "node_id" id "nodegroup_id" id content
    return unknownNodegroup node nodegroup
  | "orphan_node" => return orphanNode (← oneField "node_id" id content)
  | "cyclic_nodegroups" =>
    return cyclicNodegroups (← oneField "cycle" (Decoder.list id) content)
  | _ =>
    let (node, datatype) ← twoFields "node_id" id "datatype" Decoder.string content
    return missingLookupConfiguration node datatype

end GraphIssue

/-! ### Tiles -/

/-- A problem of a tile. -/
inductive TileIssue
  | unknownNodegroup (tile nodegroup : Uuid)
  | unknownResource (tile resource : Uuid)
  | missingParentTile (tile : Uuid)
  | unexpectedParentTile (tile parent : Uuid)
  | unknownParentTile (tile parent : Uuid)
  deriving DecidableEq

namespace TileIssue

/-- The name of an issue in texts, its name in documents, and its parts. -/
def parts : TileIssue → String × String × List (String × Uuid)
  | unknownNodegroup tile nodegroup =>
    ("UnknownNodegroup", "unknown_nodegroup", [("tile_id", tile), ("nodegroup_id", nodegroup)])
  | unknownResource tile resource =>
    ("UnknownResource", "unknown_resource", [("tile_id", tile), ("resource_id", resource)])
  | missingParentTile tile =>
    ("MissingParentTile", "missing_parent_tile", [("tile_id", tile)])
  | unexpectedParentTile tile parent =>
    ("UnexpectedParentTile", "unexpected_parent_tile",
      [("tile_id", tile), ("parent_tile_id", parent)])
  | unknownParentTile tile parent =>
    ("UnknownParentTile", "unknown_parent_tile", [("tile_id", tile), ("parent_tile_id", parent)])

/-- The text of an issue. -/
def text (i : TileIssue) : String :=
  labelled i.parts.1 (i.parts.2.2.map fun (label, id) => (label, id.toString))

/-- The document of an issue. -/
def toJson (i : TileIssue) : Value :=
  .object (("issue", .string i.parts.2.1) ::
    i.parts.2.2.map fun (label, id) => (label, .string id.toString))

/-- The names of all issues in documents, in the order of the declaration. -/
def names : List String :=
  ["unknown_nodegroup", "unknown_resource", "missing_parent_tile", "unexpected_parent_tile",
    "unknown_parent_tile"]

/-- Reads an issue. -/
def ofJson : Decoder TileIssue := fun v => do
  let (name, content) ← Decoder.tagged "issue" names v
  let tileAnd (other : String) :=
    GraphIssue.twoFields "tile_id" Decoder.uuid other Decoder.uuid content
  match name with
  | "unknown_nodegroup" =>
    let (tile, nodegroup) ← tileAnd "nodegroup_id"
    return unknownNodegroup tile nodegroup
  | "unknown_resource" =>
    let (tile, resource) ← tileAnd "resource_id"
    return unknownResource tile resource
  | "missing_parent_tile" =>
    return missingParentTile (← GraphIssue.oneField "tile_id" Decoder.uuid content)
  | "unexpected_parent_tile" =>
    let (tile, parent) ← tileAnd "parent_tile_id"
    return unexpectedParentTile tile parent
  | _ =>
    let (tile, parent) ← tileAnd "parent_tile_id"
    return unknownParentTile tile parent

end TileIssue

end ResourceTables
