import ResourceTables.Sql.Phrase
import ResourceTables.Datatype

/-!
# ResourceTables.Sql.Expression

The expressions that are stored in rows. All text in them is quoted when it is written.
-/

namespace ResourceTables.Sql

/-- An expression for one field of a row. -/
inductive Expression
  | null
  | text (value : String)
  | cast (value : String) (type : ColumnType)
  | uuid (id : Uuid)
  | uuidArray (ids : List Uuid)
  /-- Geometries, given by their GeoJSON texts, in one of a spatial reference system. -/
  | collection (geometries : List String) (srid : Nat)
  deriving DecidableEq

namespace Expression

/-- One geometry of a collection. -/
def geometry (srid : Nat) (geojson : String) : String :=
  "ST_SetSRID(ST_GeomFromGeoJSON(" ++ literal geojson ++ "), " ++ toString srid ++ ")"

/-- The text of an expression. -/
def render : Expression → String
  | null => "NULL"
  | text value => literal value
  | cast value type => Phrase.cast value type.sql
  | uuid id => Phrase.uuid id
  | uuidArray ids =>
    "ARRAY[" ++ Phrase.listed (ids.map fun id => literal id.toString) ++ "]::uuid[]"
  | collection geometries srid =>
    "ST_Collect(ARRAY[" ++ Phrase.listed (geometries.map (geometry srid)) ++ "])"

/-- An optional text, `NULL` if there is none. -/
def textOrNull : Option String → Expression
  | some value => text value
  | none => null

/-- An optional identifier, `NULL` if there is none. -/
def uuidOrNull : Option Uuid → Expression
  | some id => uuid id
  | none => null

end Expression

end ResourceTables.Sql
