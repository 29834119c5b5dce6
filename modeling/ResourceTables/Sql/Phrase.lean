import ResourceTables.Sql.Quoting
import ResourceTables.Text.Case
import ResourceTables.Uuid

/-!
# ResourceTables.Sql.Phrase

The texts of statements, from names, texts and parts that are written already. Names are always
quoted as identifiers and texts as literals; the parts that are taken as they are stand for types
and expressions.
-/

namespace ResourceTables.Sql.Phrase

/-! ### Parts -/

/-- Parts with a comma and a blank between two. -/
def listed (parts : List String) : String := ", ".intercalate parts

/-- A table in its schema. -/
def qualified (schema table : String) : String := identifier schema ++ "." ++ identifier table

/-- A literal that is cast to a type, whose name is put in lower case. -/
def cast (value type : String) : String :=
  literal value ++ "::" ++ String.ofList (Text.lowercase type.toList)

/-- The literal of an identifier. -/
def uuid (id : Uuid) : String := "'" ++ id.toString ++ "'::uuid"

/-- A column of a new table. -/
def columnDef (name type : String) (isKey : Bool) : String :=
  identifier name ++ " " ++ type ++ (if isKey then " PRIMARY KEY" else "")

/-! ### Statements -/

/-- Removes a schema with all that it holds. -/
def dropSchema (schema : String) : String :=
  "DROP SCHEMA IF EXISTS " ++ identifier schema ++ " CASCADE;"

/-- Creates a schema. -/
def createSchema (schema : String) : String := "CREATE SCHEMA " ++ identifier schema ++ ";"

/-- Creates a schema unless there is one of its name. -/
def ensureSchema (schema : String) : String :=
  "CREATE SCHEMA IF NOT EXISTS " ++ identifier schema ++ ";"

/-- Removes a table if there is one. -/
def dropTable (schema table : String) : String :=
  "DROP TABLE IF EXISTS " ++ qualified schema table ++ ";"

/-- Creates a table; the columns are written by `columnDef`. -/
def createTable (schema table : String) (columns : List String) : String :=
  "CREATE TABLE " ++ qualified schema table ++ " (" ++ listed columns ++ ");"

/-- Adds a column to a table. -/
def addColumn (schema table column type : String) : String :=
  "ALTER TABLE " ++ qualified schema table ++ " ADD COLUMN " ++ identifier column ++ " " ++ type ++
    ";"

/-- Makes a column refer to a column of another table. -/
def addForeignKey (schema table name column targetSchema targetTable targetColumn : String) :
    String :=
  "ALTER TABLE " ++ qualified schema table ++ " ADD CONSTRAINT " ++ identifier name ++
    " FOREIGN KEY (" ++ identifier column ++ ") REFERENCES " ++
    qualified targetSchema targetTable ++ " (" ++ identifier targetColumn ++ ");"

/-- Creates a spatial index on a column. -/
def createSpatialIndex (schema table index column : String) : String :=
  "CREATE INDEX " ++ identifier index ++ " ON " ++ qualified schema table ++ " USING GIST (" ++
    identifier column ++ ");"

/-- Comments on a table. -/
def commentOnTable (schema table comment : String) : String :=
  "COMMENT ON TABLE " ++ qualified schema table ++ " IS " ++ literal comment ++ ";"

/-- Comments on a column. -/
def commentOnColumn (schema table column comment : String) : String :=
  "COMMENT ON COLUMN " ++ qualified schema table ++ "." ++ identifier column ++ " IS " ++
    literal comment ++ ";"

/-- Inserts a row. -/
def insert (schema table : String) (columns values : List String) : String :=
  "INSERT INTO " ++ qualified schema table ++ " (" ++ listed (columns.map identifier) ++
    ") VALUES (" ++ listed values ++ ");"

/-- Sets one column of the row with a key. -/
def update (schema table column value keyColumn : String) (key : Uuid) : String :=
  "UPDATE " ++ qualified schema table ++ " SET " ++ identifier column ++ " = " ++ value ++
    " WHERE " ++ identifier keyColumn ++ " = " ++ uuid key ++ ";"

end ResourceTables.Sql.Phrase
