import ResourceTables.Proofs.Sql.Insertion

/-!
# ResourceTables.Proofs.Sql.Readings

What the text of an expression says. A reading names the literals of an expression as they are after
unquoting, and what stands around them; the text of every expression is read as its tokens
(`Expression.lex_render`). A literal has all of its text but for the character NUL.
-/

namespace ResourceTables.Sql

/-- The name of a type in a cast. -/
def castName : ColumnType → String
  | .text => "text"
  | .numeric => "numeric"
  | .boolean => "boolean"
  | .timestamp => "timestamp"
  | .geometry => "geometry"
  | .uuid => "uuid"
  | .uuidArray => "uuid[]"
  | .jsonb => "jsonb"

/-- A cast names a type as a definition does, in small letters. -/
theorem lowercase_sql (type : ColumnType) :
    String.ofList (Text.lowercase type.sql.toList) = castName type := by
  cases type <;> decide +kernel

/-! ### Readings -/

/-- What an expression says. -/
inductive Reading
  | null
  | literal (value : String)
  | cast (value type : String)
  | array (values : List String) (type : String)
  /-- Geometries by their GeoJSON texts, in one spatial reference system. -/
  | collected (geometries : List String) (srid : Nat)
  deriving DecidableEq

namespace Reading

/-- The tokens of a geometry. -/
def geometry (srid : Nat) (geojson : String) : List Token :=
  wording "ST_SetSRID(ST_GeomFromGeoJSON(" ++ [.literal geojson] ++
    wording ("), " ++ toString srid ++ ")")

/-- The tokens of what is said. -/
def tokens : Reading → List Token
  | null => wording "NULL"
  | literal value => [.literal value]
  | cast value type => .literal value :: wording ("::" ++ type)
  | array values type =>
    wording "ARRAY[" ++ listedTokens (values.map fun value => [.literal value]) ++
      wording ("]::" ++ type)
  | collected geometries srid =>
    wording "ST_Collect(ARRAY[" ++ listedTokens (geometries.map (geometry srid)) ++ wording "])"

/-- The type that is named, if one is. -/
def type? : Reading → Option String
  | cast _ type | array _ type => some type
  | _ => none

end Reading

namespace Expression

/-- What an expression says, less the characters that a literal cannot hold. -/
def reading : Expression → Reading
  | null => .null
  | text value => .literal (stored value)
  | cast value type => .cast (stored value) (castName type)
  | uuid id => .cast id.toString "uuid"
  | uuidArray ids => .array (ids.map Uuid.toString) "uuid[]"
  | collection geometries srid => .collected (geometries.map stored) srid

theorem literalToken_uuid (id : Uuid) : literalToken id.toString = .literal id.toString :=
  congrArg Token.literal (stored_uuid id)

theorem tokens_eq (e : Expression) : e.tokens = e.reading.tokens := by
  cases e with
  | null | text => rfl
  | cast value type =>
    show literalToken value :: _ = literalToken value :: _
    rw [lowercase_sql]
  | uuid id =>
    show literalToken id.toString :: _ = _
    rw [literalToken_uuid]
    rfl
  | uuidArray ids =>
    simp only [tokens, reading, Reading.tokens, List.map_map, Function.comp_def, literalToken_uuid]
    rfl
  | collection geometries srid =>
    simp only [tokens, reading, Reading.tokens, List.map_map]
    rfl

/-- The text of an expression is read as what the expression says. -/
theorem lex_render (e : Expression) : lex e.render.toList = some e.reading.tokens := by
  have hclean : Clean (fun _ => True) e.tokens := e.clean_tokens
  rw [toList_render, ← tokens_eq]
  exact hclean.readable.lex_source

end Expression

end ResourceTables.Sql
