import ResourceTables.Proofs.Identifier.Slug
import ResourceTables.Proofs.Schema.Derivation
import ResourceTables.Proofs.Schema.Objects
import ResourceTables.Proofs.Sql.Tokens

/-!
# ResourceTables.Proofs.Schema.Identifiers

All names of a derived schema are slugs (`slugged_of_isDerived`), and so are the identifiers in the
statements that define it (`isSlug_of_mem_script`): whatever stands in the names of nodes has gone
through `Names.slug`.
-/

namespace ResourceTables.Schema

open Sql (Statement)

variable {source : Source} {names : Names} {language : String} {g : Graph} {s : Schema}

/-- The names of a table are slugs, those of its columns and lookup tables included. -/
structure Table.Slugged (t : Table) : Prop where
  name : IsSlug t.name
  key : IsSlug t.key
  parent : IsSlug t.parent.table
  link : IsSlug t.parent.column
  columns : ∀ c ∈ t.columns, IsSlug c.name
  lookups : ∀ c ∈ t.columns, ∀ l, c.lookup = some l → IsSlug l.name

/-- The names of a schema are slugs. -/
structure Slugged (s : Schema) : Prop where
  name : IsSlug s.name
  rootTable : IsSlug s.rootTable
  rootKey : IsSlug s.rootKey
  tables : ∀ t ∈ s.tables, t.Slugged

theorem slugged_of_deriveTable {rootTable : String} {collector : Node} {t : Table}
    (hroot : IsSlug rootTable)
    (h : deriveTable source names language g rootTable collector = .ok t) : t.Slugged := by
  obtain ⟨⟨_, hname⟩, hkey, hparent, hlink, hcolumns, hlookups⟩ := isNamed_of_deriveTable h
  have hslug : IsSlug t.name := hname ▸ Names.isSlug_slug _
  have hparent : IsSlug t.parent.table := by
    rcases hparent with hparent | ⟨_, hparent⟩
    · exact hparent ▸ hroot
    · exact hparent ▸ Names.isSlug_slug _
  refine ⟨hslug, hkey ▸ Names.isSlug_keyColumn hslug, hparent,
    hlink ▸ Names.isSlug_keyColumn hparent, ?_, ?_⟩
  · intro c hc
    obtain ⟨_, hcolumn⟩ := hcolumns c hc
    exact hcolumn ▸ Names.isSlug_slug _
  · intro c hc l hl
    obtain ⟨_, hlookup⟩ := hlookups c hc l hl
    exact hlookup ▸ Names.isSlug_slug _

theorem slugged_of_isDerived (hs : IsDerived source names language g s) : s.Slugged := by
  obtain ⟨top, -, hname⟩ := hs.name_eq
  have hslug : IsSlug s.name := hname ▸ Names.isSlug_slug _
  have hroot : IsSlug s.rootTable := hs.rootTable_eq ▸ hslug
  refine ⟨hslug, hroot, hs.rootKey_eq ▸ Names.isSlug_keyColumn hroot, ?_⟩
  intro t ht
  obtain ⟨collector, -, hd⟩ := hs.exists_collector ht
  exact slugged_of_deriveTable hroot hd

theorem Slugged.lookup (hs : s.Slugged) {p : Table × Column × Lookup} (hp : p ∈ s.lookups) :
    IsSlug p.2.2.name := by
  obtain ⟨t, ht, hp⟩ := List.mem_flatMap.1 hp
  obtain ⟨c, hc, hp⟩ := List.mem_filterMap.1 hp
  obtain ⟨l, hl, rfl⟩ := Option.map_eq_some_iff.1 hp
  exact (hs.tables t ht).lookups c hc l hl

/-! ### Statements -/

theorem isSlug_legacyIdColumn : IsSlug legacyIdColumn := by decide

theorem isSlug_lookupKey : IsSlug lookupKey := by decide

theorem isSlug_lookupLabel : IsSlug lookupLabel := by decide

theorem isSlug_of_mem_creation (hs : s.Slugged) {st : Statement}
    (hst : st ∈ s.creation) : ∀ name ∈ st.names, IsSlug name := by
  have hkeyed {table key column : String} {type : ColumnType} (htable : IsSlug table)
      (hkey : IsSlug key) (hcolumn : IsSlug column) :
      ∀ name ∈ (keyedTable ⟨s.name, table⟩ key column type).names, IsSlug name := by
    simp only [keyedTable, Statement.names, List.map_cons, List.map_nil, List.forall_mem_cons]
    exact ⟨hs.name, htable, hkey, hcolumn, by simp⟩
  have hcomment {table text : String} (htable : IsSlug table) :
      ∀ name ∈ (Statement.commentOnTable ⟨s.name, table⟩ text).names, IsSlug name := by
    simp only [Statement.names, List.forall_mem_cons]
    exact ⟨hs.name, htable, by simp⟩
  simp only [creation, List.mem_append, List.mem_cons, List.mem_flatMap, List.not_mem_nil,
    or_false] at hst
  rcases hst with ((rfl | rfl | rfl) | ⟨t, ht, rfl | rfl⟩) | ⟨p, hp, rfl⟩
  · exact List.forall_mem_singleton.2 hs.name
  · exact hkeyed hs.rootTable hs.rootKey isSlug_legacyIdColumn
  · exact hcomment hs.rootTable
  · exact hkeyed (hs.tables t ht).name (hs.tables t ht).key (hs.tables t ht).link
  · exact hcomment (hs.tables t ht).name
  · exact hkeyed (hs.lookup hp) isSlug_lookupKey isSlug_lookupLabel

theorem isSlug_of_mem_columns (hs : s.Slugged) {st : Statement}
    (hst : st ∈ (s.script names).statements .columns) : ∀ name ∈ st.names, IsSlug name := by
  rw [statements_columns] at hst
  obtain ⟨t, ht, hst⟩ := List.mem_flatMap.1 hst
  obtain ⟨c, hc, hst⟩ := List.mem_flatMap.1 hst
  have hcolumn := (hs.tables t ht).columns c hc
  have hnames : ∀ name ∈ [s.name, t.name, c.name], IsSlug name := by
    simp only [List.forall_mem_cons]
    exact ⟨hs.name, (hs.tables t ht).name, hcolumn, by simp⟩
  rcases List.mem_cons.1 hst with rfl | hst
  · exact hnames
  rcases List.mem_cons.1 hst with rfl | hst
  · exact hnames
  · split at hst
    · rw [List.mem_singleton.1 hst]
      simp only [Statement.names, List.forall_mem_cons]
      exact ⟨hs.name, (hs.tables t ht).name, Names.isSlug_perColumn _ _ _, hcolumn, by simp⟩
    · cases hst

theorem isSlug_of_mem_data (hs : s.Slugged) {st : Statement}
    (hst : st ∈ (s.script names).statements .data) : ∀ name ∈ st.names, IsSlug name := by
  rw [statements_data] at hst
  obtain ⟨p, hp, hst⟩ := List.mem_flatMap.1 hst
  obtain ⟨e, -, rfl⟩ := List.mem_map.1 hst
  simp only [Statement.names, List.map_cons, List.map_nil, List.forall_mem_cons]
  exact ⟨hs.name, hs.lookup hp, isSlug_lookupKey, isSlug_lookupLabel, by simp⟩

theorem isSlug_of_mem_constraints (hs : s.Slugged) {st : Statement}
    (hst : st ∈ (s.script names).statements .constraints) : ∀ name ∈ st.names, IsSlug name := by
  obtain ⟨t, ht, hst⟩ := exists_of_mem_constraints names hst
  have ht := hs.tables t ht
  rcases hst with ⟨c, hc, l, hl, -, rfl⟩ | rfl
  · simp only [Statement.names, List.forall_mem_cons]
    exact ⟨hs.name, ht.name, Names.isSlug_slug _, ht.columns c hc, hs.name, ht.lookups c hc l hl,
      isSlug_lookupKey, by simp⟩
  · simp only [Statement.names, List.forall_mem_cons]
    exact ⟨hs.name, ht.name, Names.isSlug_slug _, ht.link, hs.name, ht.parent, ht.link, by simp⟩

/-- The identifiers in the definition of a schema are slugs. -/
theorem isSlug_of_mem_script (hs : s.Slugged) {st : Statement} {phase : Sql.Phase}
    (hst : st ∈ (s.script names).statements phase) : ∀ name ∈ st.names, IsSlug name := by
  cases phase with
  | tables =>
    rw [statements_tables] at hst
    rcases List.mem_cons.1 hst with rfl | hst
    · exact List.forall_mem_singleton.2 hs.name
    · exact isSlug_of_mem_creation hs hst
  | columns => exact isSlug_of_mem_columns hs hst
  | data => exact isSlug_of_mem_data hs hst
  | constraints => exact isSlug_of_mem_constraints hs hst

end ResourceTables.Schema
