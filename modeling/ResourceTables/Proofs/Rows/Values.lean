import ResourceTables.Proofs.Rows.Geometries
import ResourceTables.Proofs.Schema.Coverage
import ResourceTables.Proofs.Schema.Objects

/-!
# ResourceTables.Proofs.Rows.Values

What is stored of a value. The text of its expression casts to the type that the column was defined
with, unless it is the `NULL` of a blank date or collects geometries, and what the literals in it hold
is the value (`derive_keeps_values`).

Design points:

* What is stored is told by the text: `Stores` relates a value to the reading of an expression, one
  case for each type of column and kind of value that has something to store.
* Only plain texts and dates can lose something, namely the character NUL, which no literal holds.
  JSON texts, numbers and identifiers have none.
-/

namespace ResourceTables

open Json (Value)
open Sql (Expression Reading castName lex stored stored_eq_self)

namespace Rows

/-! ### Texts and identifiers -/

/-- The text of a value: a text itself, the text of a localized object in the language, and the JSON
text of everything else. -/
inductive HasText (language : String) (datatype : Datatype) : Value → String → Prop
  | itself (s : String) : HasText language datatype (.string s) s
  | localized (members : Json.Members) (h : datatype = .string) :
    HasText language datatype (.object members)
      ((LocalizedText.ofMembers members).resolve language defaultLanguage)
  | json (v : Value) (htext : ∀ s, v ≠ .string s)
      (hlocalized : datatype = .string → ∀ members, v ≠ .object members) :
    HasText language datatype v v.compact

/-- The text of an identifier, with blanks around it or without. -/
def HasUuid (v : Value) (id : Uuid) : Prop :=
  ∃ s, v = .string s ∧ Uuid.parse? (Text.trim s) = some id

theorem hasText_textOf (language : String) (datatype : Datatype) (v : Value) :
    HasText language datatype v (textOf language datatype v) := by
  unfold textOf
  split
  · exact .localized _ rfl
  · next hlocalized =>
    unfold scalarText
    split
    · exact .itself _
    · next htext => exact .json v htext fun hd members hv => hlocalized members hd hv

theorem uuidOf_eq_ok_iff {v : Value} {id : Uuid} : uuidOf v = .ok id ↔ HasUuid v id := by
  unfold uuidOf HasUuid
  cases v with
  | string s => cases hparse : Uuid.parse? (Text.trim s) <;> simp [hparse]
  | _ => simp

/-! ### What is stored -/

/-- What an expression for a value says, by the type of the column. -/
inductive Stores (srid : Nat) (language : String) (datatype : Datatype) :
    ColumnType → Value → Reading → Prop
  | text {v : Value} {text : String} (h : HasText language datatype v text) :
    Stores srid language datatype .text v (.cast (stored text) "text")
  | number (n : Json.Number) :
    Stores srid language datatype .numeric (.number n)
      (.cast (Value.number n).compact "numeric")
  | numberText {s : String} (h : Text.trim s ≠ "") :
    Stores srid language datatype .numeric (.string s) (.cast (Text.trim s) "numeric")
  | boolean (b : Bool) :
    Stores srid language datatype .boolean (.bool b)
      (.cast (Value.bool b).compact "boolean")
  | booleanText {s : String} (h : s = "true" ∨ s = "false") :
    Stores srid language datatype .boolean (.string s) (.cast s "boolean")
  | date {s : String} (h : Text.trim s ≠ "") :
    Stores srid language datatype .timestamp (.string s) (.cast (stored s) "timestamp")
  | blankDate {s : String} (h : Text.trim s = "") :
    Stores srid language datatype .timestamp (.string s) .null
  | geometry {value v : Value} {features geometries : List Value} (hv : Holds value v)
      (hfeatures : HasFeatures v features)
      (hgeometries : features.filterMap geometryOf? = geometries) (hne : geometries ≠ []) :
    Stores srid language datatype .geometry value
      (.collected (geometries.map Value.compact) srid)
  | uuid {v : Value} {id : Uuid} (h : HasUuid v id) :
    Stores srid language datatype .uuid v (.cast id.toString "uuid")
  | uuidArray {items : List Value} {ids : List Uuid} (hne : items ≠ [])
      (h : List.Forall₂ HasUuid items ids) :
    Stores srid language datatype .uuidArray (.array items)
      (.array (ids.map Uuid.toString) "uuid[]")
  | jsonb (v : Value) : Stores srid language datatype .jsonb v (.cast v.compact "jsonb")

variable {srid : Nat} {language : String} {datatype : Datatype} {v : Value} {e : Expression}

/-- A type is named as the column's, unless nothing is stored of a date or geometries are. -/
theorem Stores.type?_eq {type : ColumnType} {r : Reading}
    (h : Stores srid language datatype type v r) :
    r.type? = some (castName type) ∨ (type = .timestamp ∧ r = .null) ∨
      type = .geometry ∧ ∃ geometries, r = .collected geometries srid := by
  cases h with
  | blankDate => exact .inr (.inl ⟨rfl, rfl⟩)
  | geometry => exact .inr (.inr ⟨rfl, _, rfl⟩)
  | _ => exact .inl rfl

theorem stores_of_numeric (h : numeric v = .ok (some e)) :
    Stores srid language datatype .numeric v e.reading := by
  unfold numeric at h
  split at h
  · next n =>
    cases h
    have htext : stored n.text = n.text := stored_eq_self n.printed_text.nul_notMem
    rw [Expression.reading, htext]
    exact .number n
  · next s =>
    dsimp only at h
    split at h
    · cases h
    · next hblank =>
      split at h
      · next hspells =>
        cases h
        have htext : stored (Text.trim s) = Text.trim s :=
          stored_eq_self (Text.printed_of_spellsNumber hspells).nul_notMem
        rw [Expression.reading, htext]
        exact .numberText (by simpa using hblank)
      · cases h
  · cases h

theorem stores_of_boolean (h : boolean v = .ok (some e)) :
    Stores srid language datatype .boolean v e.reading := by
  have hfalse : stored "false" = "false" := by decide
  have htrue : stored "true" = "true" := by decide
  unfold boolean at h
  split at h
  · next b =>
    cases h
    have htext : stored (if b then "true" else "false") = (Value.bool b).compact := by
      cases b
      · exact hfalse
      · exact htrue
    rw [Expression.reading, htext]
    exact .boolean b
  · next s =>
    split at h
    · next hs =>
      cases h
      have htext : stored s = s := by
        rcases hs with rfl | rfl
        · exact htrue
        · exact hfalse
      rw [Expression.reading, htext]
      exact .booleanText hs
    · cases h
  · cases h

theorem stores_of_timestamp (h : timestamp v = .ok (some e)) :
    Stores srid language datatype .timestamp v e.reading := by
  unfold timestamp at h
  split at h
  · split at h
    · next hblank =>
      cases h
      exact .blankDate (by simpa using hblank)
    · next hblank =>
      cases h
      exact .date (by simpa using hblank)
  · cases h

theorem stores_of_geometry (h : geometry srid v = .ok (some e)) :
    Stores srid language datatype .geometry v e.reading := by
  obtain ⟨w, features, hw, hfeatures, hcollected⟩ := geometry_eq_ok_iff.1 h
  obtain ⟨hne, hreading⟩ := reading_collected hcollected
  rw [hreading]
  exact .geometry hw hfeatures rfl hne

theorem stores_of_uuidArray (h : uuidArray v = .ok (some e)) :
    Stores srid language datatype .uuidArray v e.reading := by
  unfold uuidArray at h
  split at h
  · cases h
  · next items hne =>
    obtain ⟨ids, hids, heq⟩ := map_eq_ok_iff.1 h
    cases heq
    refine .uuidArray (fun hnil => hne (by rw [hnil])) ?_
    exact (forall₂_of_mapM_eq_ok hids).imp fun _ _ => uuidOf_eq_ok_iff.1
  · cases h

/-- What an expression for a value says is what is to be stored of it. -/
theorem stores_of_coerce {type : ColumnType}
    (h : coerce srid language datatype type v = .ok (some e)) :
    Stores srid language datatype type v e.reading := by
  cases type with
  | text =>
    cases h
    exact .text (hasText_textOf language datatype v)
  | numeric => exact stores_of_numeric h
  | boolean => exact stores_of_boolean h
  | timestamp => exact stores_of_timestamp h
  | geometry => exact stores_of_geometry h
  | uuid =>
    obtain ⟨id, hid, heq⟩ := map_eq_ok_iff.1 h
    cases heq
    exact .uuid (uuidOf_eq_ok_iff.1 hid)
  | uuidArray => exact stores_of_uuidArray h
  | jsonb =>
    cases h
    rw [Expression.reading, stored_compact]
    exact .jsonb v

end Rows

/-! ### Columns of a derived schema -/

namespace Schema

open Rows (coerce Stores stores_of_coerce)

variable {source : Source} {names : Names} {language : String} {g : Graph} {s : Schema}

theorem addColumn_mem_columns {t : Table} (ht : t ∈ s.tables) {c : Column} (hc : c ∈ t.columns) :
    .addColumn ⟨s.name, t.name⟩ c.name c.type ∈ (s.script names).statements .columns := by
  rw [statements_columns]
  exact List.mem_flatMap.2 ⟨t, ht, List.mem_flatMap.2 ⟨c, hc, List.mem_cons_self⟩⟩

/-- A column is added with a type, and the expression of every value in it names this type, unless
nothing is stored of a date or geometries are, and says what is to be stored of the value. -/
structure KeepsValues (names : Names) (s : Schema) (t : Table) (c : Column) : Prop where
  added : .addColumn ⟨s.name, t.name⟩ c.name c.type ∈ (s.script names).statements .columns
  kept : ∀ srid language value e, coerce srid language c.datatype c.type value = .ok (some e) →
    ∃ r : Reading, lex e.render.toList = some r.tokens ∧
      Stores srid language c.datatype c.type value r ∧
      (r.type? = some (String.ofList (Text.lowercase c.type.sql.toList)) ∨
        (c.type = .timestamp ∧ r = .null) ∨
        c.type = .geometry ∧ ∃ geometries, r = .collected geometries srid)

/-- Definitions and rows agree on the types of columns, and rows keep the values: for every column of a
derived schema and every value in it. -/
theorem derive_keeps_values (source : Source) (names : Names) (language : String) (g : Graph)
    (s : Schema) (h : derive source names language g = .ok s) :
    ∀ t ∈ s.tables, ∀ c ∈ t.columns, KeepsValues names s t c ∧
      ∃ n ∈ g.nodes, c.node = n.id ∧ c.datatype = n.datatype ∧
        n.datatype.columnType? = some c.type := by
  intro t ht c hc
  obtain ⟨n, hn, -, hcolumn⟩ := exists_node_of_mem_columns (isDerived_of_derive h) ht hc
  refine ⟨⟨addColumn_mem_columns ht hc, ?_⟩, n, hn, hcolumn.node, hcolumn.datatype, ?_⟩
  · intro srid language value e hcoerce
    have hstores := stores_of_coerce hcoerce
    refine ⟨e.reading, e.lex_render, hstores, ?_⟩
    rw [Sql.lowercase_sql]
    exact hstores.type?_eq
  · rw [← hcolumn.datatype]
    exact hcolumn.type

theorem derive_keeps_values_siteGraph : ∃ s,
    derive (.ofPackage sitePackage) {} "en" siteGraph = .ok s ∧
      s.tables.map (fun t => t.columns.map fun c => (c.name, c.type)) =
        [[("phase", .timestamp)], [("part", .text), ("kind", .uuid), ("outline", .geometry)]] ∧
      (∀ t ∈ s.tables, ∀ c ∈ t.columns, KeepsValues {} s t c ∧
        ∃ n ∈ siteGraph.nodes, c.node = n.id ∧ c.datatype = n.datatype ∧
          n.datatype.columnType? = some c.type) ∧
      ∃ t ∈ s.tables, ∃ c ∈ t.columns, c.name = "part" ∧
        ∃ e, coerce 4326 "en" c.datatype c.type (.string "O'Brien's\x00 well") = .ok (some e) ∧
          lex e.render.toList = some (Reading.cast "O'Brien's well" "text").tokens := by
  have h : ∃ s ∈ (derive (.ofPackage sitePackage) {} "en" siteGraph).toOption,
      s.tables.map (fun t => t.columns.map fun c => (c.name, c.type)) =
        [[("phase", .timestamp)], [("part", .text), ("kind", .uuid), ("outline", .geometry)]] ∧
      ∃ t ∈ s.tables, ∃ c ∈ t.columns, c.name = "part" ∧ c.datatype = .string ∧ c.type = .text := by
    rw [Source.ofPackage_eq]
    decide +kernel
  obtain ⟨s, hs, htables, t, ht, c, hc, hname, hdatatype, htype⟩ := h
  have hderive := mem_toOption_iff.1 hs
  have hkeeps := derive_keeps_values _ _ _ _ s hderive
  have hcoerce : coerce 4326 "en" c.datatype c.type (.string "O'Brien's\x00 well") =
      .ok (some (.cast "O'Brien's\x00 well" .text)) := by
    rw [hdatatype, htype]
    rfl
  obtain ⟨r, hlex, hstores, -⟩ := (hkeeps t ht c hc).1.kept _ _ _ _ hcoerce
  refine ⟨s, hderive, htables, hkeeps, t, ht, c, hc, hname, _, hcoerce, ?_⟩
  rw [htype] at hstores
  -- A text is the text of itself, and the literal leaves out its character NUL.
  cases hstores with
  | text htext =>
    cases htext with
    | itself =>
      have hstored : stored "O'Brien's\x00 well" = "O'Brien's well" := by decide
      rw [hlex, hstored]
    | json _ hplain => exact absurd rfl (hplain _)

end Schema

end ResourceTables
