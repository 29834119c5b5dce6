import ResourceTables.Schema
import ResourceTables.Identifier.Names
import ResourceTables.Sql.Script
import ResourceTables.Sql.Statement

/-!
# ResourceTables.Schema.Definition

The statements that define a schema: its tables in the first phase, their columns with indexes and
comments in the second, the rows of its lookup tables in the third, and foreign keys in the last.

A schema is removed with all that it holds before it is created again. Comments keep the identifiers
that tables and columns were derived from.
-/

namespace ResourceTables.Schema

open Sql (Script Statement TableName)

variable (names : Names)

/-- A table with a key and a second column. -/
def keyedTable (table : TableName) (key column : String) (type : ColumnType) : Statement :=
  .createTable table [⟨key, .uuid, true⟩, ⟨column, type, false⟩]

/-- The schema and its root table. -/
def rootScript (s : Schema) : Script Statement where
  tables := [.dropSchema s.name, .createSchema s.name,
    keyedTable ⟨s.name, s.rootTable⟩ s.rootKey legacyIdColumn .text,
    .commentOnTable ⟨s.name, s.rootTable⟩ s.graph.toString]

/-- A column. An array of identifiers cannot refer to the lookup table, a single one does. -/
def columnScript (table : TableName) (c : Column) : Script Statement where
  columns := .addColumn table c.name c.type ::
    .commentOnColumn table c.name c.node.toString ::
    (if c.type = .geometry then
      [.createSpatialIndex table (names.spatialIndex table.table c.name) c.name]
    else [])
  constraints := match c.lookup with
    | some lookup =>
      if c.type = .uuid then
        [.addForeignKey table (names.foreignKey c.name) c.name ⟨table.schema, lookup.name⟩
          lookupKey]
      else []
    | none => []

/-- The table of a nodegroup; the foreign key of its link column comes after those of its other
columns. -/
def tableScript (schema : String) (t : Table) : Script Statement :=
  let table : TableName := ⟨schema, t.name⟩
  let created : Script Statement :=
    { tables := [keyedTable table t.key t.parent.column .uuid,
        .commentOnTable table t.nodegroup.toString] }
  let linked : Script Statement :=
    { constraints := [.addForeignKey table (names.foreignKey t.parent.column) t.parent.column
        ⟨schema, t.parent.table⟩ t.parent.column] }
  created ++ Script.concat (t.columns.map (columnScript names table)) ++ linked

/-- A lookup table and its rows. -/
def lookupScript (schema : String) (l : Lookup) : Script Statement where
  tables := [keyedTable ⟨schema, l.name⟩ lookupKey lookupLabel .text]
  data := l.entries.map fun e =>
    .insert ⟨schema, l.name⟩ [(lookupKey, .uuid e.id), (lookupLabel, .text e.label)]

/-- The definition of a schema. -/
def script (s : Schema) : Script Statement :=
  s.rootScript ++ Script.concat (s.tables.map (tableScript names s.name)) ++
    Script.concat (s.lookups.map fun (_, _, l) => lookupScript s.name l)

end ResourceTables.Schema
