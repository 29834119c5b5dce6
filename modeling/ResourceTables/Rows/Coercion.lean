import ResourceTables.Json.Read
import ResourceTables.Json.Text
import ResourceTables.LocalizedText
import ResourceTables.Sql.Expression
import ResourceTables.Text.Blank
import ResourceTables.Text.Decimal

/-!
# ResourceTables.Rows.Coercion

Stored values as expressions of a column's type. A value is stored, or holds nothing to store, or
does not fit the column.

Blank numbers, empty lists of identifiers and feature collections without a geometry hold nothing; a
blank date is stored as `NULL`. A plain text is stored as it was entered and never read as JSON.
-/

namespace ResourceTables.Rows

open Json (Value)
open Sql (Expression)

/-! ### Causes -/

/-- What a column expects of a value. -/
inductive Expected
  | number
  | boolean
  | date
  | identifier
  | list
  deriving DecidableEq

/-- Why a value does not fit a column. -/
inductive Misfit
  /-- The value is of another kind. -/
  | found (expected : Expected) (value : Value)
  /-- A text is no identifier. -/
  | badIdentifier (text : String)
  /-- A text is not the JSON text of a geometry. -/
  | badJson
  /-- A value is no collection of features. -/
  | noFeatures

/-- What is expected, in words. -/
def Expected.words : Expected → String
  | number => "a number"
  | boolean => "a boolean"
  | date => "a date"
  | identifier => "an identifier"
  | list => "a list"

namespace Misfit

/-- The wording of a cause. Where a text is no JSON, what is wrong with it is not told. -/
def reason : Misfit → String
  | found expected value => "expected " ++ expected.words ++ ", found " ++ value.compact
  | badIdentifier text => "'" ++ text ++ "' is not a valid identifier"
  | badJson => "<json error>"
  | noFeatures => "expected a GeoJSON feature collection"

end Misfit

/-- The expression of a value; nothing if the value holds nothing to store. -/
abbrev Coerced := Except Misfit (Option Expression)

/-! ### Texts and identifiers -/

/-- A value as text: a string as it is, and every other value as JSON. -/
def scalarText : Value → String
  | .string text => text
  | value => value.compact

/-- The text of a value in a language: only localized nodes have objects of texts. -/
def textOf (language : String) (datatype : Datatype) (value : Value) : String :=
  match datatype, value with
  | .string, .object members =>
    (LocalizedText.ofMembers members).resolve language defaultLanguage
  | _, _ => scalarText value

/-- The identifier of a value; blanks around it do not count. -/
def uuidOf : Value → Except Misfit Uuid
  | .string text => match Uuid.parse? (Text.trim text) with
    | some id => .ok id
    | none => .error (.badIdentifier text)
  | value => .error (.found .identifier value)

/-! ### Geometries -/

/-- The features of a collection. -/
def featuresOf (collection : Value) : Except Misfit (List Value) :=
  match (collection.get? "features").bind Value.items? with
  | some features => .ok features
  | none => .error .noFeatures

/-- The geometries of some features, as JSON; features without one are left out. -/
def geometriesOf (features : List Value) : List String :=
  ((features.filterMap (·.get? "geometry")).filter fun g => !g.isNull).map Value.compact

/-- A collection of features, which may be stored as JSON text. -/
def collectionOf : Value → Except Misfit Value
  | .string text => match Value.parse? text with
    | some value => .ok value
    | none => .error .badJson
  | value => .ok value

/-- The geometries of a collection of features as one. -/
def geometry (srid : Nat) (value : Value) : Coerced := do
  let collection ← collectionOf value
  let features ← featuresOf collection
  match geometriesOf features with
  | [] => return none
  | geometries => return some (.collection geometries srid)

/-! ### Columns -/

/-- A value as a number. -/
def numeric (value : Value) : Coerced :=
  match value with
  | .number n => .ok (some (.cast n.text .numeric))
  | .string text =>
    let trimmed := Text.trim text
    if trimmed.isEmpty then .ok none
    else if Text.spellsNumber trimmed then .ok (some (.cast trimmed .numeric))
    else .error (.found .number value)
  | _ => .error (.found .number value)

/-- A value as a truth value. -/
def boolean (value : Value) : Coerced :=
  match value with
  | .bool b => .ok (some (.cast (if b then "true" else "false") .boolean))
  | .string text =>
    if text = "true" ∨ text = "false" then .ok (some (.cast text .boolean))
    else .error (.found .boolean value)
  | _ => .error (.found .boolean value)

/-- A value as a date. -/
def timestamp (value : Value) : Coerced :=
  match value with
  | .string text =>
    if (Text.trim text).isEmpty then .ok (some .null) else .ok (some (.cast text .timestamp))
  | _ => .error (.found .date value)

/-- A value as a list of identifiers. -/
def uuidArray (value : Value) : Coerced :=
  match value with
  | .array [] => .ok none
  | .array items => (items.mapM uuidOf).map fun ids => some (.uuidArray ids)
  | _ => .error (.found .list value)

/-- A stored value as an expression of a column's type. -/
def coerce (srid : Nat) (language : String) (datatype : Datatype) (type : ColumnType)
    (value : Value) : Coerced :=
  match type with
  | .text => .ok (some (.cast (textOf language datatype value) .text))
  | .numeric => numeric value
  | .boolean => boolean value
  | .timestamp => timestamp value
  | .geometry => geometry srid value
  | .uuid => (uuidOf value).map fun id => some (.uuid id)
  | .uuidArray => uuidArray value
  | .jsonb => .ok (some (.cast value.compact .jsonb))

end ResourceTables.Rows
