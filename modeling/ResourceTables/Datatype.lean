import ResourceTables.Json.Decode

/-!
# ResourceTables.Datatype

The datatypes of nodes and the column types they map to. A datatype is known by its tag; tags that
are not known are kept as they are, so that they survive reading and writing, and map to no column.
-/

namespace ResourceTables

/-- The type of a column. -/
inductive ColumnType
  | text
  | numeric
  | boolean
  | timestamp
  | geometry
  | uuid
  | uuidArray
  | jsonb
  deriving DecidableEq

namespace ColumnType

/-- The spelling of a type in a statement. -/
def sql : ColumnType → String
  | text => "TEXT"
  | numeric => "NUMERIC"
  | boolean => "BOOLEAN"
  | timestamp => "TIMESTAMP"
  | geometry => "GEOMETRY"
  | uuid => "UUID"
  | uuidArray => "UUID[]"
  | jsonb => "JSONB"

/-- The types by their names in documents. -/
def names : List (String × ColumnType) :=
  [("text", text), ("numeric", numeric), ("boolean", boolean), ("timestamp", timestamp),
    ("geometry", geometry), ("uuid", uuid), ("uuidarray", uuidArray), ("jsonb", jsonb)]

/-- The name of a type in documents. -/
def name : ColumnType → String
  | text => "text"
  | numeric => "numeric"
  | boolean => "boolean"
  | timestamp => "timestamp"
  | geometry => "geometry"
  | uuid => "uuid"
  | uuidArray => "uuidarray"
  | jsonb => "jsonb"

/-- Reads a type from its name. -/
def ofJson : Json.Decoder ColumnType := Json.Decoder.name names

/-- The name as a value. -/
def toJson (t : ColumnType) : Json.Value := .string t.name

end ColumnType

/-- The datatype of a node. -/
inductive Datatype
  | string
  | nonLocalizedString
  | number
  | boolean
  | date
  | edtf
  | url
  | geojsonFeatureCollection
  | concept
  | conceptList
  | domainValue
  | domainValueList
  | resourceInstance
  | resourceInstanceList
  | fileList
  | annotation
  | nodeValue
  | semantic
  /-- A datatype that is only known by its tag. -/
  | other (tag : String)
  deriving DecidableEq

namespace Datatype

/-- The tag of a datatype. -/
def tag : Datatype → String
  | string => "string"
  | nonLocalizedString => "non-localized-string"
  | number => "number"
  | boolean => "boolean"
  | date => "date"
  | edtf => "edtf"
  | url => "url"
  | geojsonFeatureCollection => "geojson-feature-collection"
  | concept => "concept"
  | conceptList => "concept-list"
  | domainValue => "domain-value"
  | domainValueList => "domain-value-list"
  | resourceInstance => "resource-instance"
  | resourceInstanceList => "resource-instance-list"
  | fileList => "file-list"
  | annotation => "annotation"
  | nodeValue => "node-value"
  | semantic => "semantic"
  | other tag => tag

/-- The datatypes that are not only known by their tag. -/
def known : List Datatype :=
  [string, nonLocalizedString, number, boolean, date, edtf, url, geojsonFeatureCollection, concept,
    conceptList, domainValue, domainValueList, resourceInstance, resourceInstanceList, fileList,
    annotation, nodeValue, semantic]

/-- The datatype of a tag. -/
def ofTag (tag : String) : Datatype :=
  (known.find? fun d => d.tag == tag).getD (other tag)

/-- The column type of a datatype, if it has one. -/
def columnType? : Datatype → Option ColumnType
  | string | nonLocalizedString | edtf => some .text
  | number => some .numeric
  | boolean => some .boolean
  | date => some .timestamp
  | geojsonFeatureCollection => some .geometry
  | concept | domainValue | nodeValue => some .uuid
  | conceptList | domainValueList => some .uuidArray
  | url | resourceInstance | resourceInstanceList | fileList | annotation => some .jsonb
  | semantic | other _ => none

/-- Whether values are drawn from a vocabulary or from a list of options. -/
def isLookup : Datatype → Bool
  | concept | conceptList | domainValue | domainValueList => true
  | _ => false

/-- Whether the values of a lookup come from a vocabulary. -/
def isConcept : Datatype → Bool
  | concept | conceptList => true
  | _ => false

/-- Whether a stored value is a list of identifiers. -/
def isList : Datatype → Bool
  | conceptList | domainValueList => true
  | _ => false

/-- Whether the datatype is only known by its tag. -/
def isOther : Datatype → Bool
  | other _ => true
  | _ => false

/-- Reads a datatype from its tag. -/
def ofJson : Json.Decoder Datatype := fun v => (Json.Decoder.string v).map ofTag

/-- The tag as a value. -/
def toJson (d : Datatype) : Json.Value := .string d.tag

end Datatype

end ResourceTables
