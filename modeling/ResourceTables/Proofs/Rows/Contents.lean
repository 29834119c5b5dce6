import ResourceTables.Proofs.Package
import ResourceTables.Proofs.Rows.Run
import ResourceTables.Proofs.Schema.Derivation
import ResourceTables.Proofs.Schema.Objects
import ResourceTables.Proofs.Sql.Store

/-!
# ResourceTables.Proofs.Rows.Contents

What the tables of a schema hold once its rows are written: the root table a row for each resource, a
table a row for each tile of its nodegroup, a lookup table a row for each entry, and nothing else
anywhere.

A row is written in pieces. The insertion of a tile has its key and its link, the link may be set
once more, and each stored value is an update of its own. No two tiles of a nodegroup share an
identifier, so these updates reach the tile's own row (`rowsAfter_tile`), and the columns they set are
told apart by their names (`setAll_values`).
-/

namespace ResourceTables.Rows

open Sql (Expression Row Statement Store TableName)
open Schema (Table Column Lookup legacyIdColumn lookupKey lookupLabel)

variable {srid : Nat} {language : String} {s : Schema}

/-! ### Rows -/

/-- The row holds a resource. -/
structure IsResourceRow (s : Schema) (r : Resource) (row : Row) : Prop where
  key : row s.rootKey = .uuid r.id
  legacyId : row legacyIdColumn = .textOrNull r.legacyId
  others : ∀ column, column ≠ s.rootKey → column ≠ legacyIdColumn → row column = .null

/-- The row holds an entry of a vocabulary. -/
structure IsEntryRow (e : Entry) (row : Row) : Prop where
  key : row lookupKey = .uuid e.id
  label : row lookupLabel = .text e.label
  others : ∀ column, column ≠ lookupKey → column ≠ lookupLabel → row column = .null

/-- The row holds a tile of a nodegroup: it has its identifier, leads to the resource or to the
parent tile, and has what its stored values are coerced to. -/
structure IsTileRow (srid : Nat) (language : String) (group : NodeGroup) (table : Table) (t : Tile)
    (row : Row) : Prop where
  key : row table.key = .uuid t.id
  link : row table.parent.column =
    if group.parent.isNone then .uuid t.resource else .uuidOrNull t.parent
  noValue : ∀ c ∈ table.columns, t.value? c.node = none → row c.name = .null
  value : ∀ c ∈ table.columns, ∀ v, t.value? c.node = some v →
    ∃ e, coerce srid language c.datatype c.type v = .ok e ∧ row c.name = e.getD .null
  others : ∀ column, column ≠ table.key → column ≠ table.parent.column →
    column ∉ table.columns.map Column.name → row column = .null

theorem isResourceRow_ofFields {r : Resource} (hroot : s.rootKey ≠ legacyIdColumn) :
    IsResourceRow s r
      (Row.ofFields [(s.rootKey, .uuid r.id), (legacyIdColumn, .textOrNull r.legacyId)]) where
  key := by simp [Row.ofFields]
  legacyId := by simp [Row.ofFields, List.lookup_cons, beq_false_of_ne hroot.symm]
  others column hkey hlegacy := by
    simp [Row.ofFields, List.lookup_cons, beq_false_of_ne hkey, beq_false_of_ne hlegacy]

theorem isEntryRow_ofFields (e : Entry) :
    IsEntryRow e (Row.ofFields [(lookupKey, .uuid e.id), (lookupLabel, .text e.label)]) where
  key := by simp [Row.ofFields]
  label := by simp [Row.ofFields, List.lookup_cons, lookupKey, lookupLabel]
  others column hkey hlabel := by
    simp [Row.ofFields, List.lookup_cons, beq_false_of_ne hkey, beq_false_of_ne hlabel]

/-- What is stored of the value that a tile has for a column; nothing if there is no value or if it
holds nothing to store. -/
def stored? (srid : Nat) (language : String) (t : Tile) (c : Column) : Option Expression :=
  (t.value? c.node).bind fun v =>
    (coerce srid language c.datatype c.type v).toOption.bind id

/-- The row of a tile. -/
def tileRow (srid : Nat) (language : String) (table : Table) (t : Tile) : Row := fun column =>
  if column = table.key then .uuid t.id
  else if column = table.parent.column then .uuidOrNull (linkOf table t)
  else ((table.columns.find? fun c => c.name = column).bind (stored? srid language t)).getD .null

/-! ### Statements -/

/-- The statements a step is done by; none if it fails. -/
def Step.statements (srid : Nat) (language : String) (s : Schema) (step : Step) : List Statement :=
  ((step.yield srid language s).toOption.map Yield.statements).getD []

theorem statements_of_run {steps : List Step} {y : Yield}
    (h : run srid language s steps = (y, none)) :
    y.statements = steps.flatMap (Step.statements srid language s) := by
  obtain ⟨yields, hall, rfl⟩ := run_eq_ok_iff.1 h
  rw [Yield.statements_concat]
  clear h
  induction hall with
  | nil => rfl
  | @cons step y steps yields hstep _ ih =>
    rw [List.flatMap_cons, List.flatMap_cons, ih, Step.statements, hstep]
    rfl

theorem statements_of_materialize {source : Source} {y : Yield}
    (h : materialize source srid language s = .ok y) :
    y.statements = (steps source s).flatMap (Step.statements srid language s) :=
  statements_of_run (materialize_eq_ok_iff.1 h)

/-- The columns that are set after a tile was inserted: the link to its parent once more, and the
columns it has values for. -/
def changes (srid : Nat) (language : String) (table : Table) (t : Tile) :
    List (String × Expression) :=
  (match table.parent.nodegroup, t.parent with
    | some _, some parent => [(table.parent.column, .uuid parent)]
    | _, _ => []) ++
  table.columns.filterMap fun c => (stored? srid language t c).map (c.name, ·)

/-- The statements for a tile whose columns are gone through as far as the given ones. -/
def tileStatements (srid : Nat) (language : String) (s : Schema) (table : Table)
    (columns : List Column) (t : Tile) : List Statement :=
  .insert ⟨s.name, table.name⟩
      [(table.key, .uuid t.id), (table.parent.column, .uuidOrNull (linkOf table t))] ::
    (changes srid language { table with columns := columns } t).map fun change =>
      .update ⟨s.name, table.name⟩ change.1 change.2 table.key t.id

/-- The steps for the values that a tile has for some columns. -/
def valueSteps (table : Table) (t : Tile) (columns : List Column) : List Step :=
  columns.filterMap fun c => (t.value? c.node).map (.value table t c)

theorem statements_valueSteps (table : Table) (t : Tile) (columns : List Column) :
    (valueSteps table t columns).flatMap (Step.statements srid language s) =
      (columns.filterMap fun c => (stored? srid language t c).map (c.name, ·)).map fun change =>
        Statement.update ⟨s.name, table.name⟩ change.1 change.2 table.key t.id := by
  induction columns with
  | nil => rfl
  | cons c columns ih =>
    unfold valueSteps at ih ⊢
    rw [List.filterMap_cons, List.filterMap_cons, stored?]
    cases hv : t.value? c.node with
    | none => exact ih
    | some v =>
      rcases hc : coerce srid language c.datatype c.type v with misfit | _ | e
      all_goals
        simp [Step.statements, Step.yield, valueYield, hc, ih, Except.toOption]

theorem statements_tile_valueSteps (table : Table) (t : Tile) (columns : List Column) :
    (.tile table t :: valueSteps table t columns).flatMap (Step.statements srid language s) =
      tileStatements srid language s table columns t := by
  rw [List.flatMap_cons, statements_valueSteps, tileStatements, changes, List.map_append]
  have htile : Step.statements srid language s (.tile table t) =
      (tileYield s table t).statements := rfl
  rw [htile, tileYield]
  cases table.parent.nodegroup <;> cases t.parent <;> rfl

theorem statements_tileSteps (table : Table) (t : Tile) :
    (tileSteps table t).flatMap (Step.statements srid language s) =
      .insert ⟨s.name, table.name⟩
          [(table.key, .uuid t.id), (table.parent.column, .uuidOrNull (linkOf table t))] ::
        (changes srid language table t).map fun change =>
          .update ⟨s.name, table.name⟩ change.1 change.2 table.key t.id :=
  statements_tile_valueSteps table t table.columns

/-! ### The row of a tile -/

theorem find?_eq_none_of_notMem {columns : List Column} {name : String}
    (h : name ∉ columns.map Column.name) : (columns.find? fun c => c.name = name) = none := by
  refine List.find?_eq_none.2 ?_
  intro c hc heq
  exact h (of_decide_eq_true heq ▸ List.mem_map_of_mem hc)

theorem find?_eq_some_of_mem {columns : List Column} {c : Column}
    (hcolumns : (columns.map Column.name).Nodup) (hc : c ∈ columns) :
    (columns.find? fun c' => c'.name = c.name) = some c :=
  find?_key_of_mem hcolumns hc

/-- Columns of different names that are set where there is something to store. -/
theorem setAll_values {columns : List Column} {f : Column → Option Expression} (r : Row)
    (hcolumns : (columns.map Column.name).Nodup) (column : String) :
    r.setAll (columns.filterMap fun c => (f c).map (c.name, ·)) column =
      ((columns.find? fun c => c.name = column).bind f).getD (r column) := by
  induction columns generalizing r with
  | nil => rfl
  | cons c columns ih =>
    obtain ⟨hc, hcolumns⟩ := List.nodup_cons.1 hcolumns
    rw [List.filterMap_cons, List.find?_cons]
    by_cases hname : c.name = column
    · -- No later column has the name.
      have hnone := find?_eq_none_of_notMem (hname ▸ hc)
      cases hf : f c with
      | none => simp [ih r hcolumns, hnone, hname, hf]
      | some e =>
        have hset := ih (Function.update r c.name e) hcolumns
        rw [hnone] at hset
        simpa [hname, hf, Row.setAll] using hset
    · cases hf : f c with
      | none => simp [ih r hcolumns, hname]
      | some e =>
        have hset := ih (Function.update r c.name e) hcolumns
        rw [Function.update_of_ne (Ne.symm hname)] at hset
        simpa [hname, Row.setAll] using hset

/-- The row that the insertion of a tile adds. -/
def insertedRow (table : Table) (t : Tile) : Row :=
  .ofFields [(table.key, .uuid t.id), (table.parent.column, .uuidOrNull (linkOf table t))]

theorem insertedRow_apply {table : Table} {t : Tile} (column : String) :
    insertedRow table t column =
      if column = table.key then .uuid t.id
      else if column = table.parent.column then .uuidOrNull (linkOf table t)
      else .null := by
  unfold insertedRow Row.ofFields
  by_cases hkey : column = table.key
  · simp [hkey]
  · rw [List.lookup_cons, beq_false_of_ne hkey, if_neg hkey]
    by_cases hlink : column = table.parent.column
    · simp [hlink]
    · simp [List.lookup_cons, beq_false_of_ne hlink, hlink]

/-- The link is inserted as what it is set to again. -/
theorem setAll_link {table : Table} {t : Tile} (hlink : table.key ≠ table.parent.column) :
    (insertedRow table t).setAll (match table.parent.nodegroup, t.parent with
      | some _, some parent => [(table.parent.column, .uuid parent)]
      | _, _ => []) = insertedRow table t := by
  cases hgroup : table.parent.nodegroup with
  | none => rfl
  | some group =>
    cases hparent : t.parent with
    | none => rfl
    | some parent =>
      have hset : insertedRow table t table.parent.column = .uuid parent := by
        rw [insertedRow_apply, if_neg hlink.symm, if_pos rfl, linkOf, hgroup, hparent]
        rfl
      show Function.update (insertedRow table t) table.parent.column (.uuid parent) = _
      rw [← hset, Function.update_eq_self]

theorem setAll_changes {table : Table} {t : Tile} (hcolumns : table.ColumnsApart)
    (hlink : table.key ≠ table.parent.column) :
    (insertedRow table t).setAll (changes srid language table t) =
      tileRow srid language table t := by
  funext column
  have happend (r : Row) (l l' : List (String × Expression)) :
      r.setAll (l ++ l') = (r.setAll l).setAll l' := List.foldl_append
  rw [changes, happend, setAll_link hlink, setAll_values _ hcolumns.nodup, insertedRow_apply,
    tileRow]
  by_cases hkey : column = table.key
  · rw [if_pos hkey, if_pos hkey, find?_eq_none_of_notMem (hkey ▸ hcolumns.key_notMem)]
    rfl
  · rw [if_neg hkey, if_neg hkey]
    by_cases hparent : column = table.parent.column
    · rw [if_pos hparent, if_pos hparent, find?_eq_none_of_notMem (hparent ▸ hcolumns.link_notMem)]
      rfl
    · rw [if_neg hparent, if_neg hparent]

/-- The statements of a tile add its row and leave the other rows as they are. -/
theorem rowsAfter_tile {table : Table} {t : Tile} {rows : List Row} (hcolumns : table.ColumnsApart)
    (hlink : table.key ≠ table.parent.column) (hfresh : ∀ r ∈ rows, r table.key ≠ .uuid t.id) :
    Sql.rowsAfter ⟨s.name, table.name⟩ rows
      ((tileSteps table t).flatMap (Step.statements srid language s)) =
        rows ++ [tileRow srid language table t] := by
  -- The updates look the row up by its key, which none of them sets.
  have hchanges : ∀ change ∈ changes srid language table t, change.1 ≠ table.key := by
    intro change hchange heq
    rcases List.mem_append.1 hchange with hchange | hchange
    · split at hchange
      · rw [List.mem_singleton.1 hchange] at heq
        exact hlink heq.symm
      · cases hchange
    · obtain ⟨c, hc, hchange⟩ := List.mem_filterMap.1 hchange
      obtain ⟨e, -, rfl⟩ := Option.map_eq_some_iff.1 hchange
      exact hcolumns.key_notMem (heq ▸ List.mem_map_of_mem hc)
  have hinsert : Sql.rowsStep ⟨s.name, table.name⟩ rows (.insert ⟨s.name, table.name⟩
      [(table.key, .uuid t.id), (table.parent.column, .uuidOrNull (linkOf table t))]) =
        rows ++ [insertedRow table t] := if_pos rfl
  have hkey : insertedRow table t table.key = .uuid t.id := by
    rw [insertedRow_apply, if_pos rfl]
  rw [statements_tileSteps, Sql.rowsAfter_cons, hinsert,
    Sql.rowsAfter_updates hchanges hkey hfresh, setAll_changes hcolumns hlink]

/-- The rows of a nodegroup whose tiles have identifiers of their own. -/
theorem rowsAfter_tiles {table : Table} {tiles : List Tile} {rows : List Row}
    (hcolumns : table.ColumnsApart) (hlink : table.key ≠ table.parent.column)
    (hids : (tiles.map Tile.id).Nodup)
    (hfresh : ∀ r ∈ rows, ∀ t ∈ tiles, r table.key ≠ .uuid t.id) :
    Sql.rowsAfter ⟨s.name, table.name⟩ rows
      ((tiles.flatMap (tileSteps table)).flatMap (Step.statements srid language s)) =
        rows ++ tiles.map (tileRow srid language table) := by
  induction tiles generalizing rows with
  | nil => simp
  | cons t tiles ih =>
    obtain ⟨hid, hids⟩ := List.nodup_cons.1 hids
    rw [List.flatMap_cons, List.flatMap_append, Sql.rowsAfter_append,
      rowsAfter_tile hcolumns hlink fun r hr => hfresh r hr t List.mem_cons_self, ih hids]
    · rw [List.map_cons, List.append_assoc]
      rfl
    -- The row that was just added has the key of another tile as well.
    · intro r hr t' ht'
      rcases List.mem_append.1 hr with hr | hr
      · exact hfresh r hr t' (List.mem_cons_of_mem _ ht')
      · rw [List.mem_singleton.1 hr, tileRow, if_pos rfl]
        intro heq
        injection heq with heq
        exact hid (heq ▸ List.mem_map_of_mem ht')

/-! ### All tables -/

/-- The statements for the resources of a schema. -/
def resourceStatements (source : Source) (s : Schema) : List Statement :=
  (source.resources s.graph).map fun r => .insert ⟨s.name, s.rootTable⟩
    [(s.rootKey, .uuid r.id), (legacyIdColumn, .textOrNull r.legacyId)]

/-- The statements for the tiles of a table. -/
def tableStatements (source : Source) (srid : Nat) (language : String) (s : Schema)
    (table : Table) : List Statement :=
  ((source.tiles table.nodegroup).flatMap (tileSteps table)).flatMap
    (Step.statements srid language s)

/-- The statements for the entries of a lookup table. -/
def lookupStatements (s : Schema) (l : Lookup) : List Statement :=
  l.entries.map fun e =>
    .insert ⟨s.name, l.name⟩ [(lookupKey, .uuid e.id), (lookupLabel, .text e.label)]

theorem statements_eq_append {source : Source} {y : Yield}
    (h : materialize source srid language s = .ok y) :
    y.statements = resourceStatements source s ++
      s.tables.flatMap (tableStatements source srid language s) := by
  rw [statements_of_materialize h, steps, List.flatMap_append, List.flatMap_map,
    List.flatMap_assoc, resourceStatements, List.map_eq_flatMap]
  rfl

/-- Every resource of the graph has a row in the root table. -/
theorem insert_mem_of_resource {source : Source} {y : Yield} {r : Resource}
    (h : materialize source srid language s = .ok y) (hr : r ∈ source.resources s.graph) :
    .insert ⟨s.name, s.rootTable⟩
      [(s.rootKey, .uuid r.id), (legacyIdColumn, .textOrNull r.legacyId)] ∈ y.statements := by
  rw [statements_eq_append h]
  exact List.mem_append_left _ (List.mem_map_of_mem hr)

/-- Every tile of a nodegroup has a row in the table of the nodegroup. -/
theorem insert_mem_of_tile {source : Source} {y : Yield} {table : Table} {t : Tile}
    (h : materialize source srid language s = .ok y) (htable : table ∈ s.tables)
    (ht : t ∈ source.tiles table.nodegroup) :
    .insert ⟨s.name, table.name⟩ [(table.key, .uuid t.id),
      (table.parent.column, .uuidOrNull (linkOf table t))] ∈ y.statements := by
  rw [statements_eq_append h]
  refine List.mem_append_right _ (List.mem_flatMap.2 ⟨table, htable, ?_⟩)
  rw [tableStatements, List.flatMap_assoc]
  refine List.mem_flatMap.2 ⟨t, ht, ?_⟩
  rw [statements_tileSteps]
  exact List.mem_cons_self

theorem target?_of_mem_tableStatements {source : Source} {table : Table} {st : Statement}
    (hst : st ∈ tableStatements source srid language s table) :
    st.target? = some ⟨s.name, table.name⟩ := by
  rw [tableStatements, List.flatMap_assoc] at hst
  obtain ⟨t, -, hst⟩ := List.mem_flatMap.1 hst
  rw [statements_tileSteps] at hst
  rcases List.mem_cons.1 hst with rfl | hst
  · rfl
  · obtain ⟨change, -, rfl⟩ := List.mem_map.1 hst
    rfl

theorem target?_of_mem_lookupStatements {l : Lookup} {st : Statement}
    (hst : st ∈ lookupStatements s l) : st.target? = some ⟨s.name, l.name⟩ := by
  obtain ⟨e, -, rfl⟩ := List.mem_map.1 hst
  rfl

theorem target?_of_mem_resourceStatements {source : Source} {st : Statement}
    (hst : st ∈ resourceStatements source s) : st.target? = some ⟨s.name, s.rootTable⟩ := by
  obtain ⟨r, -, rfl⟩ := List.mem_map.1 hst
  rfl

section

variable {source : Source} {names : Names} {y : Yield} {target : TableName} {rows : List Row}

theorem rowsAfter_lookups_of_ne (h : ∀ p ∈ s.lookups, ⟨s.name, p.2.2.name⟩ ≠ target) :
    Sql.rowsAfter target rows (s.lookups.flatMap fun p => lookupStatements s p.2.2) = rows :=
  Sql.rowsAfter_flatMap_of_ne _ (fun _ _ _ hst => target?_of_mem_lookupStatements hst) h

theorem rowsAfter_resources_of_ne (h : ⟨s.name, s.rootTable⟩ ≠ target) :
    Sql.rowsAfter target rows (resourceStatements source s) = rows := by
  refine Sql.rowsAfter_of_forall_ne ?_
  intro st hst heq
  exact h (Option.some.inj ((target?_of_mem_resourceStatements hst).symm.trans heq))

theorem rowsAfter_tables_of_ne (h : ∀ table ∈ s.tables, ⟨s.name, table.name⟩ ≠ target) :
    Sql.rowsAfter target rows (s.tables.flatMap (tableStatements source srid language s)) =
      rows :=
  Sql.rowsAfter_flatMap_of_ne _ (fun _ _ _ hst => target?_of_mem_tableStatements hst) h

/-- The rows that the data of a schema puts into a table. -/
theorem run_apply (h : materialize source srid language s = .ok y) (target : TableName) :
    Store.empty.run ((s.script names).statements .data ++ y.statements) target =
      Sql.rowsAfter target (Sql.rowsAfter target (Sql.rowsAfter target []
        (s.lookups.flatMap fun p => lookupStatements s p.2.2)) (resourceStatements source s))
        (s.tables.flatMap (tableStatements source srid language s)) := by
  rw [Store.run_apply, Sql.rowsAfter_append, statements_eq_append h, Sql.rowsAfter_append,
    Schema.statements_data]
  rfl

/-- The names of the tables, kind by kind. -/
theorem apart_of_nodup (hnames : s.tableNames.Nodup) :
    (∀ table ∈ s.tables, table.name ≠ s.rootTable) ∧ (∀ p ∈ s.lookups, p.2.2.name ≠ s.rootTable) ∧
      (∀ table ∈ s.tables, ∀ p ∈ s.lookups, table.name ≠ p.2.2.name) ∧
      (s.tables.map Table.name).Nodup ∧ (s.lookups.map fun p => p.2.2.name).Nodup := by
  rw [Schema.tableNames, List.nodup_cons, List.mem_append, not_or, List.nodup_append] at hnames
  obtain ⟨⟨htable, hlookup⟩, htables, hlookups, hapart⟩ := hnames
  refine ⟨?_, ?_, ?_, htables, hlookups⟩
  · exact fun table hmem heq => htable (heq ▸ List.mem_map_of_mem hmem)
  · exact fun p hmem heq => hlookup (List.mem_map.2 ⟨p, hmem, heq⟩)
  · exact fun table htable p hp =>
      hapart _ (List.mem_map_of_mem htable) _ (List.mem_map.2 ⟨p, hp, rfl⟩)

theorem nodup_map_qualified {α : Type} {l : List α} (name : α → String) (schema : String)
    (h : (l.map name).Nodup) : (l.map fun a => TableName.mk schema (name a)).Nodup := by
  have hinj : Function.Injective (TableName.mk schema) := fun a b heq => by injection heq
  simpa [List.map_map, Function.comp_def] using h.map hinj

theorem run_rootTable (h : materialize source srid language s = .ok y)
    (hnames : s.tableNames.Nodup) :
    Store.empty.run ((s.script names).statements .data ++ y.statements) ⟨s.name, s.rootTable⟩ =
      (source.resources s.graph).map fun r =>
        Row.ofFields [(s.rootKey, .uuid r.id), (legacyIdColumn, .textOrNull r.legacyId)] := by
  obtain ⟨htables, hlookups, -⟩ := apart_of_nodup hnames
  rw [run_apply h, rowsAfter_lookups_of_ne, rowsAfter_tables_of_ne, resourceStatements,
    Sql.rowsAfter_inserts, List.nil_append]
  · simpa using htables
  · simpa using hlookups

theorem run_lookup (h : materialize source srid language s = .ok y) (hnames : s.tableNames.Nodup)
    {p : Table × Column × Lookup} (hp : p ∈ s.lookups) :
    Store.empty.run ((s.script names).statements .data ++ y.statements) ⟨s.name, p.2.2.name⟩ =
      p.2.2.entries.map fun e =>
        Row.ofFields [(lookupKey, .uuid e.id), (lookupLabel, .text e.label)] := by
  obtain ⟨-, hroot, hapart, -, hlookups⟩ := apart_of_nodup hnames
  rw [run_apply h, rowsAfter_tables_of_ne, rowsAfter_resources_of_ne,
    Sql.rowsAfter_flatMap_of_mem (fun p => ⟨s.name, p.2.2.name⟩)
      (fun _ _ _ hst => target?_of_mem_lookupStatements hst)
      (nodup_map_qualified (fun p : Table × Column × Lookup => p.2.2.name) s.name hlookups) hp,
    lookupStatements, Sql.rowsAfter_inserts, List.nil_append]
  · simpa using (hroot p hp).symm
  · simpa using fun table htable => hapart table htable p hp

/-- What becomes of a table is up to the statements for its tiles. -/
theorem run_table_eq (h : materialize source srid language s = .ok y) (hnames : s.tableNames.Nodup)
    {table : Table} (htable : table ∈ s.tables) :
    Store.empty.run ((s.script names).statements .data ++ y.statements) ⟨s.name, table.name⟩ =
      Sql.rowsAfter ⟨s.name, table.name⟩ [] (tableStatements source srid language s table) := by
  obtain ⟨hroot, -, hapart, htables, -⟩ := apart_of_nodup hnames
  rw [run_apply h, Sql.rowsAfter_flatMap_of_mem (fun table => ⟨s.name, table.name⟩)
      (fun _ _ _ hst => target?_of_mem_tableStatements hst)
      (nodup_map_qualified Table.name s.name htables) htable,
    rowsAfter_resources_of_ne, rowsAfter_lookups_of_ne]
  · simpa using fun p hp => (hapart table htable p hp).symm
  · simpa using (hroot table htable).symm

theorem run_table (h : materialize source srid language s = .ok y) (hnames : s.tableNames.Nodup)
    {table : Table} (htable : table ∈ s.tables) (hcolumns : table.ColumnsApart)
    (hlink : table.key ≠ table.parent.column)
    (hids : ((source.tiles table.nodegroup).map Tile.id).Nodup) :
    Store.empty.run ((s.script names).statements .data ++ y.statements) ⟨s.name, table.name⟩ =
      (source.tiles table.nodegroup).map (tileRow srid language table) := by
  rw [run_table_eq h hnames htable, tableStatements, rowsAfter_tiles hcolumns hlink hids (by simp),
    List.nil_append]

theorem run_of_notMem (h : materialize source srid language s = .ok y)
    (htarget : target.schema = s.name → target.table ∉ s.tableNames) :
    Store.empty.run ((s.script names).statements .data ++ y.statements) target = [] := by
  have hne {table : String} (hmem : table ∈ s.tableNames) : ⟨s.name, table⟩ ≠ target := by
    rintro rfl
    exact htarget rfl hmem
  rw [run_apply h, rowsAfter_tables_of_ne, rowsAfter_resources_of_ne, rowsAfter_lookups_of_ne]
  · intro p hp
    refine hne (List.mem_cons_of_mem _ (List.mem_append_right _ ?_))
    exact List.mem_map.2 ⟨p, hp, rfl⟩
  · exact hne List.mem_cons_self
  · intro table htable
    refine hne (List.mem_cons_of_mem _ (List.mem_append_left _ ?_))
    exact List.mem_map_of_mem htable

/-! ### Contents -/

/-- Values are only written where they could be coerced. -/
theorem exists_coerce {table : Table} {t : Tile} {c : Column} {v : Json.Value}
    (h : materialize source srid language s = .ok y) (htable : table ∈ s.tables)
    (ht : t ∈ source.tiles table.nodegroup) (hc : c ∈ table.columns)
    (hv : t.value? c.node = some v) :
    ∃ e, coerce srid language c.datatype c.type v = .ok e := by
  obtain ⟨yields, hall, -⟩ := run_eq_ok_iff.1 (materialize_eq_ok_iff.1 h)
  -- The value is a step of the run, and none of the steps has failed.
  have hstep : Step.value table t c v ∈ steps source s := by
    refine List.mem_append_right _ (List.mem_flatMap.2 ⟨table, htable, ?_⟩)
    refine List.mem_flatMap.2 ⟨t, ht, List.mem_cons_of_mem _ ?_⟩
    exact List.mem_filterMap.2 ⟨c, hc, by rw [hv]; rfl⟩
  obtain ⟨_, -, hyield⟩ := exists_right_of_mem hall hstep
  rcases valueYield_eq_ok hyield with ⟨hcoerce, -⟩ | ⟨e, hcoerce, -⟩
  · exact ⟨_, hcoerce⟩
  · exact ⟨_, hcoerce⟩

theorem isTileRow_tileRow {group : NodeGroup} {table : Table} {t : Tile}
    (h : materialize source srid language s = .ok y) (htable : table ∈ s.tables)
    (hcolumns : table.ColumnsApart) (hlink : table.key ≠ table.parent.column)
    (hgroup : table.parent.nodegroup = group.parent) (ht : t ∈ source.tiles table.nodegroup) :
    IsTileRow srid language group table t (tileRow srid language table t) := by
  have hvalue {c : Column} (hc : c ∈ table.columns) :
      tileRow srid language table t c.name = (stored? srid language t c).getD .null := by
    have hmem : c.name ∈ table.columns.map Column.name := List.mem_map_of_mem hc
    have hkey : c.name ≠ table.key := fun heq => hcolumns.key_notMem (heq ▸ hmem)
    have hparent : c.name ≠ table.parent.column := fun heq =>
      hcolumns.link_notMem (heq ▸ hmem)
    rw [tileRow, if_neg hkey, if_neg hparent, find?_eq_some_of_mem hcolumns.nodup hc, Option.bind_some]
  refine ⟨by rw [tileRow, if_pos rfl], ?_, ?_, ?_, ?_⟩
  · rw [tileRow, if_neg hlink.symm, if_pos rfl, linkOf, hgroup]
    cases group.parent <;> rfl
  · intro c hc hv
    rw [hvalue hc, stored?, hv]
    rfl
  · intro c hc v hv
    obtain ⟨e, he⟩ := exists_coerce h htable ht hc hv
    refine ⟨e, he, ?_⟩
    rw [hvalue hc, stored?, hv, Option.bind_some, he]
    rfl
  · intro column hkey hparent hmem
    rw [tileRow, if_neg hkey, if_neg hparent, find?_eq_none_of_notMem hmem]
    rfl

end

/-- Once the rows of a derived schema are written to empty tables, the root table has one row for
each resource of the graph, the table of a nodegroup has one for each of its tiles, a lookup table has
one for each entry, all of them in order, and no other table has rows.

The key of the root table must not be the column for older identifiers, and no table may link to one
of its own name: in both cases two columns of a row would be one. -/
theorem materialize_contents (source : Source) (names : Names) (language : String) (g : Graph)
    (s : Schema) (hderive : Schema.derive source names language g = .ok s) (srid : Nat)
    (spoken : String) (y : Yield) (h : materialize source srid spoken s = .ok y)
    (hnames : s.tableNames.Nodup) (hroot : s.rootKey ≠ legacyIdColumn)
    (hcolumns : ∀ table ∈ s.tables, table.ColumnsApart)
    (hlinks : ∀ table ∈ s.tables, table.key ≠ table.parent.column)
    (hids : ∀ table ∈ s.tables, ((source.tiles table.nodegroup).map Tile.id).Nodup) :
    let store := Store.empty.run ((s.script names).statements .data ++ y.statements)
    List.Forall₂ (IsResourceRow s) (source.resources g.id) (store ⟨s.name, s.rootTable⟩) ∧
    (∀ table ∈ s.tables, ∃ group, g.nodegroup? table.nodegroup = some group ∧
      List.Forall₂ (IsTileRow srid spoken group table) (source.tiles table.nodegroup)
        (store ⟨s.name, table.name⟩)) ∧
    (∀ p ∈ s.lookups,
      List.Forall₂ IsEntryRow p.2.2.entries (store ⟨s.name, p.2.2.name⟩)) ∧
    ∀ target, (target.schema = s.name → target.table ∉ s.tableNames) → store target = [] := by
  have hs := Schema.isDerived_of_derive hderive
  refine ⟨?_, ?_, ?_, ?_⟩
  · rw [run_rootTable h hnames, hs.graph_eq, List.forall₂_map_right_iff, List.forall₂_same]
    exact fun r _ => isResourceRow_ofFields hroot
  · intro table htable
    obtain ⟨collector, -, hd⟩ := hs.exists_collector htable
    obtain ⟨group, hgroup, -, hparent, -, hid, -⟩ := Schema.deriveTable_eq_ok_iff.1 hd
    refine ⟨group, hid ▸ hgroup, ?_⟩
    rw [run_table h hnames htable (hcolumns table htable) (hlinks table htable)
      (hids table htable), List.forall₂_map_right_iff, List.forall₂_same]
    exact fun t ht => isTileRow_tileRow h htable (hcolumns table htable) (hlinks table htable)
      (Schema.deriveParent_eq_ok_iff.1 hparent).1 ht
  · intro p hp
    rw [run_lookup h hnames hp, List.forall₂_map_right_iff, List.forall₂_same]
    exact fun e _ => isEntryRow_ofFields e
  · intro target htarget
    exact run_of_notMem h htarget

theorem materialize_contents_sitePackage :
    ∃ s y, Schema.derive (.ofPackage sitePackage) {} "en" siteGraph = .ok s ∧
      materialize (.ofPackage sitePackage) 4326 "en" s = .ok y ∧
      s.tableNames = ["site", "phase", "phase_part", "dom_phase_part_kind"] ∧
      List.Forall₂ (IsResourceRow s) ((Source.ofPackage sitePackage).resources siteGraph.id)
        (Store.empty.run ((s.script {}).statements .data ++ y.statements)
          ⟨s.name, s.rootTable⟩) := by
  have h : ∃ s ∈ (Schema.derive (.ofPackage sitePackage) {} "en" siteGraph).toOption,
      ∃ y ∈ (materialize (.ofPackage sitePackage) 4326 "en" s).toOption,
        s.tableNames = ["site", "phase", "phase_part", "dom_phase_part_kind"] ∧
        s.rootKey ≠ legacyIdColumn ∧ (∀ table ∈ s.tables, table.ColumnsApart) ∧
        (∀ table ∈ s.tables, table.key ≠ table.parent.column) ∧
        ∀ table ∈ s.tables,
          (((Source.ofPackage sitePackage).tiles table.nodegroup).map Tile.id).Nodup := by
    rw [Source.ofPackage_eq]
    decide +kernel
  obtain ⟨s, hs, y, hy, htables, hroot, hcolumns, hlinks, hids⟩ := h
  rw [mem_toOption_iff] at hs hy
  exact ⟨s, y, hs, hy, htables, (materialize_contents _ {} "en" _ s hs 4326 "en" y hy
    (by rw [htables]; decide) hroot hcolumns hlinks hids).1⟩

/-! ### Two columns in one -/

theorem IsResourceRow.rootKey_ne {r : Resource} {row : Row} (h : IsResourceRow s r row) :
    s.rootKey ≠ legacyIdColumn := by
  intro heq
  have hkey := h.key
  rw [heq, h.legacyId] at hkey
  cases hlegacy : r.legacyId <;> simp [hlegacy, Expression.textOrNull] at hkey

theorem IsTileRow.key_ne_link {group : NodeGroup} {table : Table} {t : Tile} {row : Row}
    (h : IsTileRow srid language group table t row) (hresource : t.resource ≠ t.id)
    (hparent : t.parent ≠ some t.id) : table.key ≠ table.parent.column := by
  intro heq
  have hkey := h.key
  rw [heq, h.link] at hkey
  by_cases hnone : group.parent.isNone = true
  · rw [if_pos hnone] at hkey
    injection hkey with hkey
    exact hresource hkey
  · rw [if_neg hnone] at hkey
    cases hp : t.parent with
    | none =>
      rw [hp] at hkey
      cases hkey
    | some parent =>
      rw [hp] at hkey hparent
      injection hkey with hkey
      exact hparent (congrArg some hkey)

/-- A resource of a graph whose root table has its key in the column for older identifiers. -/
def legacyPackage : Package where
  graphs := [legacyGraph]
  resources := [{ id := .ofNat 20, graph := .ofNat 9 }]

/-- A graph in which the name of a collector has no letters and that of its parent is a top node's, so
that the table links to one of its own name. -/
def namelessGraph : Graph where
  id := .ofNat 9
  name := .single "en" "Site"
  nodes := [
    { id := .ofNat 1, name := "Site", datatype := .semantic, isTop := true },
    { id := .ofNat 2, name := "Part", datatype := .semantic, nodegroup := some (.ofNat 2)
      isTop := true },
    { id := .ofNat 3, name := "-", datatype := .semantic, nodegroup := some (.ofNat 3) }]
  nodegroups := [{ id := .ofNat 2 }, { id := .ofNat 3, parent := some (.ofNat 2) }]

/-- A tile of the nodegroup whose collector has no letters in its name. -/
def namelessPackage : Package where
  graphs := [namelessGraph]
  resources := [{ id := .ofNat 20, graph := .ofNat 9 }]
  tiles := [{ id := .ofNat 21, resource := .ofNat 20, nodegroup := .ofNat 3 }]

/-- Both conditions on keys are needed, whatever the names of tables and of columns for values. -/
theorem not_materialize_contents :
    (∃ s y, Schema.derive (.ofPackage legacyPackage) {} "en" legacyGraph = .ok s ∧
      materialize (.ofPackage legacyPackage) 4326 "en" s = .ok y ∧
      s.tableNames.Nodup ∧ s.tables = [] ∧
      ¬ List.Forall₂ (IsResourceRow s) ((Source.ofPackage legacyPackage).resources legacyGraph.id)
        (Store.empty.run ((s.script {}).statements .data ++ y.statements)
          ⟨s.name, s.rootTable⟩)) ∧
    ∃ s y, Schema.derive (.ofPackage namelessPackage) {} "en" namelessGraph = .ok s ∧
      materialize (.ofPackage namelessPackage) 4326 "en" s = .ok y ∧
      s.tableNames.Nodup ∧ (∀ table ∈ s.tables, table.ColumnsApart) ∧
      (∀ table ∈ s.tables,
        (((Source.ofPackage namelessPackage).tiles table.nodegroup).map Tile.id).Nodup) ∧
      ∃ table ∈ s.tables, ∀ group, ¬ List.Forall₂ (IsTileRow 4326 "en" group table)
        ((Source.ofPackage namelessPackage).tiles table.nodegroup)
        (Store.empty.run ((s.script {}).statements .data ++ y.statements)
          ⟨s.name, table.name⟩) := by
  constructor
  · have h : ∃ s ∈ (Schema.derive (.ofPackage legacyPackage) {} "en" legacyGraph).toOption,
        ∃ y ∈ (materialize (.ofPackage legacyPackage) 4326 "en" s).toOption,
          s.tableNames.Nodup ∧ s.tables = [] ∧ s.rootKey = legacyIdColumn ∧
          { id := .ofNat 20, graph := .ofNat 9 } ∈
            (Source.ofPackage legacyPackage).resources legacyGraph.id := by
      rw [Source.ofPackage_eq]
      decide +kernel
    obtain ⟨s, hs, y, hy, hnames, htables, hroot, hmem⟩ := h
    rw [mem_toOption_iff] at hs hy
    refine ⟨s, y, hs, hy, hnames, htables, ?_⟩
    intro hall
    obtain ⟨row, -, hrow⟩ := exists_right_of_mem hall hmem
    exact hrow.rootKey_ne hroot
  · have h : ∃ s ∈ (Schema.derive (.ofPackage namelessPackage) {} "en" namelessGraph).toOption,
        ∃ y ∈ (materialize (.ofPackage namelessPackage) 4326 "en" s).toOption,
          s.tableNames.Nodup ∧ (∀ table ∈ s.tables, table.ColumnsApart) ∧
          (∀ table ∈ s.tables,
            (((Source.ofPackage namelessPackage).tiles table.nodegroup).map Tile.id).Nodup) ∧
          ∃ table ∈ s.tables, table.key = table.parent.column ∧
            ∃ t ∈ (Source.ofPackage namelessPackage).tiles table.nodegroup,
              t.resource ≠ t.id ∧ t.parent ≠ some t.id := by
      rw [Source.ofPackage_eq]
      decide +kernel
    obtain ⟨s, hs, y, hy, hnames, hcolumns, hids, table, htable, hkey, t, ht, hresource,
      hparent⟩ := h
    rw [mem_toOption_iff] at hs hy
    refine ⟨s, y, hs, hy, hnames, hcolumns, hids, table, htable, ?_⟩
    intro group hall
    obtain ⟨row, -, hrow⟩ := exists_right_of_mem hall ht
    exact hrow.key_ne_link hresource hparent hkey

end ResourceTables.Rows
