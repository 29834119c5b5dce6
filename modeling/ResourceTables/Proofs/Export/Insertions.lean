import ResourceTables.Proofs.Export.Rows

/-!
# ResourceTables.Proofs.Export.Insertions

The rows that an export inserts, each with what it is about (`Insertion`): an entry of a lookup table, a
column in the registry, a resource or a tile. The insertions of a whole export are those of its schemas
one after the other (`filter_isInsert_export`); nothing else inserts a row.
-/

namespace ResourceTables

open Schema (legacyIdColumn lookupKey lookupLabel)
open Sql (Script Statement TableName)

/-- Whether a statement inserts a row. -/
def Sql.Statement.isInsert : Statement → Bool
  | insert _ _ => true
  | _ => false

/-- A row that is inserted, by what it is about. -/
inductive Insertion
  /-- An entry of a lookup table. -/
  | entry (s : Schema) (l : Schema.Lookup) (e : Entry)
  /-- A column, in the registry. -/
  | column (s : Schema) (t : Schema.Table) (c : Schema.Column)
  | resource (s : Schema) (r : Resource)
  | tile (s : Schema) (table : Schema.Table) (t : Tile)

namespace Insertion

/-- The statement of an insertion. -/
def statement (registry : TableName) : Insertion → Statement
  | entry s l e => .insert ⟨s.name, l.name⟩ [(lookupKey, .uuid e.id), (lookupLabel, .text e.label)]
  | column s t c => .insert registry ((Registry.columns.map Prod.fst).zip (Registry.row s t c))
  | resource s r => .insert ⟨s.name, s.rootTable⟩
    [(s.rootKey, .uuid r.id), (legacyIdColumn, .textOrNull r.legacyId)]
  | tile s table t => .insert ⟨s.name, table.name⟩
    [(table.key, .uuid t.id), (table.parent.column, .uuidOrNull (Rows.linkOf table t))]

/-- The resource that is inserted, with its schema. -/
def resource? : Insertion → Option (Schema × Resource)
  | resource s r => some (s, r)
  | _ => none

/-- The tile that is inserted, with its schema and table. -/
def tile? : Insertion → Option (Schema × Schema.Table × Tile)
  | tile s table t => some (s, table, t)
  | _ => none

end Insertion

namespace Schema

/-- The columns of a schema with their tables, as the registry lists them. -/
def columnInsertions (s : Schema) : List Insertion :=
  s.tables.flatMap fun t => t.columns.map (.column s t)

/-- The entries of the lookup tables. -/
def entryInsertions (s : Schema) : List Insertion :=
  s.lookups.flatMap fun (_, _, l) => l.entries.map (.entry s l)

/-- The resources, and then the tiles table by table. -/
def recordInsertions (source : Source) (s : Schema) : List Insertion :=
  (source.resources s.graph).map (.resource s) ++
    s.tables.flatMap fun table => (source.tiles table.nodegroup).map (.tile s table)

/-- The rows that are inserted for a schema. -/
def insertions (source : Source) (o : ExportOptions) (s : Schema) : List Insertion :=
  s.entryInsertions ++ s.columnInsertions ++
    if o.includeRows then s.recordInsertions source else []

end Schema

variable {source : Source} {o : ExportOptions}

/-! ### The insertions of a schema -/

theorem filter_isInsert_map {α : Type} {f : α → Statement} {l : List α}
    (h : ∀ a ∈ l, (f a).isInsert = true) : (l.map f).filter Statement.isInsert = l.map f :=
  List.filter_eq_self.2 (List.forall_mem_map.2 h)

theorem Insertion.isInsert_statement (registry : TableName) (x : Insertion) :
    (x.statement registry).isInsert = true := by
  cases x <;> rfl

/-- The rows of a schema's definition are those of its lookup tables. -/
theorem Schema.data_eq_insertions (registry : TableName) {names : Names} (s : Schema) :
    (s.script names).statements .data = s.entryInsertions.map (Insertion.statement registry) := by
  rw [statements_data, entryInsertions, List.map_flatMap]
  refine List.flatMap_congr ?_
  rintro ⟨_, _, l⟩ -
  rw [List.map_map]
  rfl

theorem Registry.data_eq_insertions (registry : TableName) (s : Schema) :
    (rowScript registry s).statements .data =
      s.columnInsertions.map (Insertion.statement registry) := by
  rw [Schema.columnInsertions, List.map_flatMap]
  refine List.flatMap_congr fun t _ => ?_
  rw [List.map_map]
  rfl

/-- Of the statements for a tile only the first one inserts a row. -/
theorem Rows.filter_isInsert_tileSteps {srid : Nat} {language : String} {s : Schema}
    (registry : TableName) (table : Schema.Table) (t : Tile) :
    ((tileSteps table t).flatMap (Step.statements srid language s)).filter Statement.isInsert =
      [Insertion.statement registry (.tile s table t)] := by
  rw [statements_tileSteps, List.filter_cons_of_pos rfl, List.filter_eq_nil_iff.2]
  · rfl
  · intro st hst
    obtain ⟨change, -, rfl⟩ := List.mem_map.1 hst
    exact Bool.false_ne_true

theorem Rows.filter_isInsert_statements {srid : Nat} {language : String} {s : Schema} {y : Yield}
    (registry : TableName) (h : materialize source srid language s = .ok y) :
    y.statements.filter Statement.isInsert =
      (s.recordInsertions source).map (Insertion.statement registry) := by
  rw [statements_eq_append h, List.filter_append, Schema.recordInsertions, List.map_append]
  refine congrArg₂ (· ++ ·) ?_ ?_
  · rw [resourceStatements, List.map_map]
    exact filter_isInsert_map fun _ _ => rfl
  · rw [List.filter_flatMap, List.map_flatMap]
    refine List.flatMap_congr ?_
    intro table _
    rw [tableStatements, List.flatMap_assoc, List.filter_flatMap, List.map_map,
      List.map_eq_flatMap]
    exact List.flatMap_congr fun t _ => filter_isInsert_tileSteps registry table t

/-! ### The insertions of an export -/

theorem Part.IsOf.filter_isInsert_data {p : Part} (hp : p.IsOf source o) :
    ((p.script o).statements .data).filter Statement.isInsert =
      (p.schema.insertions source o).map (Insertion.statement o.registry) := by
  have hinsert (l : List Insertion) : (l.map (Insertion.statement o.registry)).filter
      Statement.isInsert = l.map (Insertion.statement o.registry) :=
    filter_isInsert_map fun x _ => x.isInsert_statement o.registry
  rw [Part.statements_data, List.filter_append, List.filter_append,
    Schema.data_eq_insertions o.registry, Registry.data_eq_insertions, hinsert, hinsert,
    Schema.insertions, List.map_append, List.map_append]
  refine congrArg₂ (· ++ ·) rfl ?_
  rcases hp.rows_cases with ⟨hinclude, hrows⟩ | ⟨hinclude, hrows⟩
  · rw [if_pos hinclude, Rows.filter_isInsert_statements o.registry hrows]
  · rw [if_neg (by simp [hinclude]), hrows]
    rfl

/-- The rows that are inserted by an export, in order. -/
theorem filter_isInsert_export {e : Export} {warnings : List Rows.Warning}
    (h : export? source o = (.ok e, warnings)) :
    (e.script.statements .data).filter Statement.isInsert =
      (e.schemas.flatMap (Schema.insertions source o)).map (Insertion.statement o.registry) := by
  obtain ⟨parts, -, hparts, hschemas, hscript, -⟩ := exists_parts h
  rw [hscript, statements_data_parts, List.filter_flatMap, hschemas, List.flatMap_map,
    List.map_flatMap]
  exact List.flatMap_congr fun p hp => (hparts p hp).filter_isInsert_data

end ResourceTables
