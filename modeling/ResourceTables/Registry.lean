import ResourceTables.Schema
import ResourceTables.Sql.Script
import ResourceTables.Sql.Statement

/-!
# ResourceTables.Registry

The registry: one table outside of the derived schemas that tells for every derived column which
graph, nodegroup and node it came from. It is created anew once a run, and its own schema is kept if
there is one.
-/

namespace ResourceTables.Registry

open Sql (Script Statement TableName Expression)

/-- The columns of the registry. -/
def columns : List (String × ColumnType) :=
  [("graph_id", .uuid), ("graph_name", .text), ("nodegroup_id", .uuid), ("nodegroup_name", .text),
    ("cardinality", .text), ("node_id", .uuid), ("node_name", .text), ("datatype", .text),
    ("schema_name", .text), ("table_name", .text), ("column_name", .text), ("column_type", .text),
    ("lookup_table", .text)]

/-- The table of the registry. -/
def tableScript (registry : TableName) : Script Statement where
  tables := [.ensureSchema registry.schema, .dropTable registry,
    .createTable registry (columns.map fun (name, type) => ⟨name, type, false⟩)]

/-- What the registry tells about a column, in the order of its own columns. -/
def row (s : Schema) (t : Schema.Table) (c : Schema.Column) : List Expression :=
  [.uuid s.graph, .text s.graphName, .uuid t.nodegroup, .text t.nodegroupName,
    .text t.cardinality.mark, .uuid c.node, .text c.nodeName, .text c.datatype.tag, .text s.name,
    .text t.name, .text c.name, .text c.type.sql, .textOrNull (c.lookup.map Schema.Lookup.name)]

/-- The rows of the registry for a schema. -/
def rowScript (registry : TableName) (s : Schema) : Script Statement where
  data := s.tables.flatMap fun t => t.columns.map fun c =>
    .insert registry ((columns.map Prod.fst).zip (row s t c))

end ResourceTables.Registry
