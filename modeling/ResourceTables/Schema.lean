import ResourceTables.Graph
import ResourceTables.Vocabulary

/-!
# ResourceTables.Schema

The relational shape of one graph: a schema with a root table for the resources, a table for every
nodegroup that has a collector, a column for every node that has a column type, and a lookup table
for every column whose values are drawn from a list.

Every table but the root and the lookup tables has a link column, which is named after the key of
the table it points to.
-/

namespace ResourceTables

open Json (Value)

namespace Schema

/-- The table of the values a column may have. -/
structure Lookup where
  name : String
  entries : List Entry
  deriving DecidableEq

/-- A column that holds the values of a node. -/
structure Column where
  node : Uuid
  nodeName : String
  datatype : Datatype
  name : String
  type : ColumnType
  lookup : Option Lookup := none
  deriving DecidableEq

/-- The table that another one points to. -/
structure ParentLink where
  /-- The parent nodegroup; nothing if the parent is the root table. -/
  nodegroup : Option Uuid
  table : String
  /-- The link column, and the key column of the parent. -/
  column : String
  deriving DecidableEq

/-- A table that holds the tiles of a nodegroup. -/
structure Table where
  nodegroup : Uuid
  /-- The name of the collector. -/
  nodegroupName : String
  cardinality : Cardinality
  name : String
  key : String
  parent : ParentLink
  columns : List Column
  deriving DecidableEq

end Schema

/-- The relational shape of a graph. -/
structure Schema where
  graph : Uuid
  graphName : String
  name : String
  rootTable : String
  rootKey : String
  tables : List Schema.Table
  deriving DecidableEq

namespace Schema

/-- The column of the root table with the identifier a resource had in an older system. -/
def legacyIdColumn : String := "legacy_id"

/-- The key column of lookup tables. -/
def lookupKey : String := "id"

/-- The column of lookup tables with what a value is called. -/
def lookupLabel : String := "label"

/-- The first table for a nodegroup. -/
def table? (s : Schema) (nodegroup : Uuid) : Option Table :=
  s.tables.find? (·.nodegroup == nodegroup)

/-- The lookup tables with the tables and columns they belong to. -/
def lookups (s : Schema) : List (Table × Column × Lookup) :=
  s.tables.flatMap fun t => t.columns.filterMap fun c => c.lookup.map fun l => (t, c, l)

/-- How many columns hold values. -/
def columnCount (s : Schema) : Nat := (s.tables.flatMap fun t => t.columns).length

/-! ### Documents -/

/-- The document of a lookup table. -/
def Lookup.toJson (l : Lookup) : Value :=
  .object [("entries", .array (l.entries.map Entry.toJson)), ("name", .string l.name)]

/-- The document of a column. -/
def Column.toJson (c : Column) : Value :=
  .object [("datatype", c.datatype.toJson), ("lookup", Value.orNull Lookup.toJson c.lookup),
    ("name", .string c.name), ("node_id", .string c.node.toString),
    ("node_name", .string c.nodeName), ("relational_type", c.type.toJson)]

/-- The document of a parent link. -/
def ParentLink.toJson (p : ParentLink) : Value :=
  .object [("column", .string p.column), ("nodegroup_id", uuidOrNull p.nodegroup),
    ("table", .string p.table)]

/-- The document of a table. -/
def Table.toJson (t : Table) : Value :=
  .object [("cardinality", t.cardinality.toJson),
    ("columns", .array (t.columns.map Column.toJson)), ("key_column", .string t.key),
    ("name", .string t.name), ("nodegroup_id", .string t.nodegroup.toString),
    ("nodegroup_name", .string t.nodegroupName), ("parent", t.parent.toJson)]

/-- The document of a schema. -/
def toJson (s : Schema) : Value :=
  .object [("graph_id", .string s.graph.toString), ("graph_name", .string s.graphName),
    ("root_key", .string s.rootKey), ("root_table", .string s.rootTable),
    ("schema", .string s.name), ("tables", .array (s.tables.map Table.toJson))]

end Schema

end ResourceTables
