import ResourceTables.Datatype
import ResourceTables.LocalizedText

/-!
# ResourceTables.Graph

Resource models. A graph has typed nodes; nodegroups gather nodes that are recorded together and
nest under one another. The node that shares its nodegroup's identifier is its **collector** and
stands for it; the **top node** stands for the whole graph.

Nothing here is checked when a graph is read: identifiers may repeat, parents may be missing or run
in circles. Every look-up takes the first match, and the review of a graph reports what is wrong.
-/

namespace ResourceTables

open Json (Decoder Value Fields DecodeError)

/-- How many tiles a nodegroup may hold for one parent. -/
inductive Cardinality
  | one
  | many
  deriving DecidableEq

namespace Cardinality

/-- The mark of a cardinality. -/
def mark : Cardinality → String
  | one => "1"
  | many => "n"

/-- Reads a cardinality from its mark. -/
def ofJson : Decoder Cardinality := Decoder.name [("1", one), ("n", many)]

/-- The mark as a value. -/
def toJson (c : Cardinality) : Value := .string c.mark

end Cardinality

/-- Nodes that are recorded together as one tile. -/
structure NodeGroup where
  id : Uuid
  parent : Option Uuid := none
  cardinality : Cardinality := .many
  deriving DecidableEq

/-- A typed field of a graph. -/
structure Node where
  id : Uuid
  name : String
  datatype : Datatype
  /-- The nodegroup it belongs to; the top node has none. -/
  nodegroup : Option Uuid := none
  isTop : Bool := false
  /-- The vocabulary or the options of a lookup, and whatever else a datatype keeps. -/
  config : Value := .null

/-- A resource model. -/
structure Graph where
  id : Uuid
  name : LocalizedText
  isResource : Bool := false
  nodes : List Node := []
  nodegroups : List NodeGroup := []

/-! ### Nodes -/

namespace Node

/-- Whether the node stands for its nodegroup. -/
def isCollector (n : Node) : Bool := n.nodegroup == some n.id

/-- The vocabulary a concept node is configured with. -/
def vocabulary? (n : Node) : Option Uuid :=
  ((n.config.get? "rdmCollection").bind Value.text?).bind Uuid.parse?

/-- The options a domain-value node is configured with. -/
def options? (n : Node) : Option (List Value) :=
  (n.config.get? "options").bind Value.items?

end Node

/-! ### Looking up -/

namespace Graph

/-- The first top node. -/
def topNode? (g : Graph) : Option Node := g.nodes.find? (·.isTop)

/-- The first node with an identifier. -/
def node? (g : Graph) (id : Uuid) : Option Node := g.nodes.find? (·.id == id)

/-- The first nodegroup with an identifier. -/
def nodegroup? (g : Graph) (id : Uuid) : Option NodeGroup := g.nodegroups.find? (·.id == id)

/-- The first node that stands for a nodegroup. -/
def collector? (g : Graph) (id : Uuid) : Option Node :=
  g.nodes.find? fun n => n.id == id && n.nodegroup == some id

/-- The collectors in order; a top node does not count as one. -/
def collectors (g : Graph) : List Node := g.nodes.filter fun n => !n.isTop && n.isCollector

/-- The nodes of a nodegroup in order, its collector among them. -/
def members (g : Graph) (id : Uuid) : List Node := g.nodes.filter (·.nodegroup == some id)

end Graph

/-! ### Documents -/

/-- An optional identifier as a value. -/
def uuidOrNull (id : Option Uuid) : Value := Value.orNull (fun u => .string u.toString) id

/-- Reads a nodegroup. -/
def NodeGroup.ofJson : Decoder NodeGroup := fun v => do
  let fields ← Fields.of ["nodegroupid", "parentnodegroup_id", "cardinality"] v
  let id := fields.required "nodegroupid" Decoder.uuid
  let parent := fields.optional "parentnodegroup_id" (Decoder.nullable Decoder.uuid)
  let cardinality := fields.optional "cardinality" Cardinality.ofJson
  fields.settle [id.failure?, parent.failure?, cardinality.failure?]
  return {
    id := ← id.get
    parent := parent.getD none
    cardinality := cardinality.getD .many }

/-- The document of a nodegroup. -/
def NodeGroup.toJson (g : NodeGroup) : Value :=
  .object [("cardinality", g.cardinality.toJson), ("nodegroupid", .string g.id.toString),
    ("parentnodegroup_id", uuidOrNull g.parent)]

/-- Reads a node. -/
def Node.ofJson : Decoder Node := fun v => do
  let fields ← Fields.of
    ["nodeid", "name", "datatype", "nodegroup_id", "istopnode", "config"] v
  let id := fields.required "nodeid" Decoder.uuid
  let name := fields.required "name" Decoder.string
  let datatype := fields.required "datatype" Datatype.ofJson
  let nodegroup := fields.optional "nodegroup_id" (Decoder.nullable Decoder.uuid)
  let isTop := fields.optional "istopnode" Decoder.bool
  let config := fields.optional "config" Except.ok
  fields.settle [id.failure?, name.failure?, datatype.failure?, nodegroup.failure?, isTop.failure?,
    config.failure?]
  return {
    id := ← id.get
    name := ← name.get
    datatype := ← datatype.get
    nodegroup := nodegroup.getD none
    isTop := isTop.getD false
    config := config.getD .null }

/-- The document of a node. -/
def Node.toJson (n : Node) : Value :=
  .object [("config", n.config), ("datatype", n.datatype.toJson), ("istopnode", .bool n.isTop),
    ("name", .string n.name), ("nodegroup_id", uuidOrNull n.nodegroup),
    ("nodeid", .string n.id.toString)]

/-- Reads a graph. -/
def Graph.ofJson : Decoder Graph := fun v => do
  let fields ← Fields.of ["graphid", "name", "isresource", "nodes", "nodegroups"] v
  let id := fields.required "graphid" Decoder.uuid
  let name := fields.required "name" LocalizedText.ofJson
  let isResource := fields.optional "isresource" Decoder.bool
  let nodes := fields.optional "nodes" (Decoder.list Node.ofJson)
  let nodegroups := fields.optional "nodegroups" (Decoder.list NodeGroup.ofJson)
  fields.settle [id.failure?, name.failure?, isResource.failure?, nodes.failure?,
    nodegroups.failure?]
  return {
    id := ← id.get
    name := ← name.get
    isResource := isResource.getD false
    nodes := nodes.getD []
    nodegroups := nodegroups.getD [] }

/-- The document of a graph. -/
def Graph.toJson (g : Graph) : Value :=
  .object [("graphid", .string g.id.toString), ("isresource", .bool g.isResource),
    ("name", g.name.toJson), ("nodegroups", .array (g.nodegroups.map NodeGroup.toJson)),
    ("nodes", .array (g.nodes.map Node.toJson))]

end ResourceTables
