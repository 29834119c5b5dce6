import ResourceTables.Sql.Expression

/-!
# ResourceTables.Sql.Statement

The statements of an export. A statement says what is done to which table or schema, and `render`
writes it; what it does is not read off its text.
-/

namespace ResourceTables.Sql

/-- A table in its schema. -/
structure TableName where
  schema : String
  table : String
  deriving DecidableEq

/-- A column of a new table. -/
structure ColumnDef where
  name : String
  type : ColumnType
  isKey : Bool := false
  deriving DecidableEq

/-- A statement. -/
inductive Statement
  /-- Removes a schema with all that it holds. -/
  | dropSchema (schema : String)
  | createSchema (schema : String)
  /-- Creates a schema unless there is one of its name. -/
  | ensureSchema (schema : String)
  | dropTable (table : TableName)
  | createTable (table : TableName) (columns : List ColumnDef)
  | addColumn (table : TableName) (column : String) (type : ColumnType)
  | addForeignKey (table : TableName) (name column : String) (target : TableName)
    (targetColumn : String)
  | createSpatialIndex (table : TableName) (index column : String)
  | commentOnTable (table : TableName) (text : String)
  | commentOnColumn (table : TableName) (column text : String)
  | insert (table : TableName) (fields : List (String × Expression))
  | update (table : TableName) (column : String) (value : Expression) (keyColumn : String)
    (key : Uuid)
  deriving DecidableEq

namespace Statement

/-- The text of a statement. -/
def render : Statement → String
  | dropSchema schema => Phrase.dropSchema schema
  | createSchema schema => Phrase.createSchema schema
  | ensureSchema schema => Phrase.ensureSchema schema
  | dropTable t => Phrase.dropTable t.schema t.table
  | createTable t columns =>
    Phrase.createTable t.schema t.table
      (columns.map fun c => Phrase.columnDef c.name c.type.sql c.isKey)
  | addColumn t column type => Phrase.addColumn t.schema t.table column type.sql
  | addForeignKey t name column target targetColumn =>
    Phrase.addForeignKey t.schema t.table name column target.schema target.table targetColumn
  | createSpatialIndex t index column => Phrase.createSpatialIndex t.schema t.table index column
  | commentOnTable t text => Phrase.commentOnTable t.schema t.table text
  | commentOnColumn t column text => Phrase.commentOnColumn t.schema t.table column text
  | insert t fields =>
    Phrase.insert t.schema t.table (fields.map Prod.fst)
      (fields.map fun field => field.2.render)
  | update t column value keyColumn key =>
    Phrase.update t.schema t.table column value.render keyColumn key

end Statement

end ResourceTables.Sql
