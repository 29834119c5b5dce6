import ResourceTables.Proofs.Schema.Objects
import ResourceTables.Proofs.Schema.Links

/-!
# ResourceTables.Proofs.Schema.Construction

The statements of a schema find what they need. Each phase builds on the phases before it: tables on
the schema (`builds_creation`), columns on the tables (`builds_columns`), rows of lookup tables and
foreign keys on both (`requires_data`, `builds_constraints`). Only the foreign keys of the link
columns need to know where the links lead to (`Schema.Linked`).
-/

namespace ResourceTables.Schema

open Sql (Object Slot Statement TableName Catalog Builds)
open Sql.Statement (created created_flatMap)

variable {names : Names} {s : Schema}

/-- A schema whose statements can be run: its names do not collide, and every link leads to a table
and not back to its own. -/
structure Sound (names : Names) (s : Schema) : Prop extends NamesApart names s where
  linked : ∀ t ∈ s.tables, s.Linked t
  keys : ∀ t ∈ s.tables, t.key ≠ t.parent.column

theorem NamesApart.sound {source : Source} {language : String} {g : Graph}
    (hnames : s.NamesApart names) (hs : IsDerived source names language g s)
    (hparents : g.ParentsHaveTables) : s.Sound names where
  toNamesApart := hnames
  linked _ ht := linked_of_isDerived hs hparents ht
  keys _ ht := key_ne_link hs hparents hnames.nodup_tables ht

/-- The statements of a schema create no slot twice. -/
theorem Sound.nodup_slots (h : s.Sound names) :
    ((s.createdObjects names).map Object.slot).Nodup :=
  nodup_slots_createdObjects names h.toNamesApart h.keys

/-! ### What is there after the first two phases -/

theorem rootObjects_subset : s.rootObjects ⊆ created s.creation := by
  rw [created_creation]
  intro x hx
  simp [hx]

theorem ofTable_subset {t : Table} (ht : t ∈ s.tables) :
    Object.ofTable ⟨s.name, t.name⟩ t.key [(t.key, .uuid), (t.parent.column, .uuid)] ⊆
      created s.creation := by
  rw [created_creation]
  intro x hx
  refine List.mem_append_left _ (List.mem_append_right _ ?_)
  exact List.mem_flatMap.2 ⟨t, ht, hx⟩

theorem mem_lookups {t : Table} {c : Column} {l : Lookup} (ht : t ∈ s.tables) (hc : c ∈ t.columns)
    (hl : c.lookup = some l) : (t, c, l) ∈ s.lookups := by
  refine List.mem_flatMap.2 ⟨t, ht, List.mem_filterMap.2 ⟨c, hc, ?_⟩⟩
  simp [hl]

theorem lookupObjects_subset {p : Table × Column × Lookup} (hp : p ∈ s.lookups) :
    p.2.2.objects s.name ⊆ created s.creation := by
  rw [created_creation]
  intro x hx
  exact List.mem_append_right _ (List.mem_flatMap.2 ⟨p, hp, hx⟩)

theorem column_mem (names : Names) {t : Table} {c : Column} (ht : t ∈ s.tables) (hc : c ∈ t.columns) :
    Object.column ⟨s.name, t.name⟩ c.name c.type ∈
      created ((s.script names).statements .columns) := by
  rw [created_columns]
  exact List.mem_flatMap.2 ⟨t, ht, List.mem_flatMap.2 ⟨c, hc, List.mem_cons_self⟩⟩

/-! ### Tables -/

theorem builds_keyedTable {base : Catalog} {t : TableName} {key column : String}
    {type : ColumnType} {statements : List Statement} (hschema : .schema t.schema ∈ base)
    (h : Builds (base ++ Object.ofTable t key [(key, .uuid), (column, type)]) statements) :
    Builds base (keyedTable t key column type :: statements) :=
  .cons rfl hschema h

theorem builds_comment {base : Catalog} {t : TableName} {key column text : String}
    {type : ColumnType} :
    Builds (base ++ Object.ofTable t key [(key, .uuid), (column, type)])
      [.commentOnTable t text] := by
  refine .cons rfl ?_ .nil
  exact List.mem_append_right _ List.mem_cons_self

theorem builds_creation : Builds [] s.creation := by
  have hroot : Builds [] [.createSchema s.name,
      keyedTable ⟨s.name, s.rootTable⟩ s.rootKey legacyIdColumn .text,
      .commentOnTable ⟨s.name, s.rootTable⟩ s.graph.toString] :=
    .cons rfl trivial (builds_keyedTable List.mem_cons_self builds_comment)
  rw [creation, List.append_assoc]
  refine hroot.append (.append (.flatMap ?_) (.flatMap ?_))
  · intro t _
    exact builds_keyedTable (by simp [Sql.Statement.creates]) builds_comment
  · intro p _
    exact builds_keyedTable (by simp [Sql.Statement.creates]) .nil

/-! ### Columns -/

theorem builds_columns :
    Builds (created s.creation) ((s.script names).statements .columns) := by
  rw [statements_columns]
  refine .flatMap fun t ht => .flatMap fun c _ => ?_
  have htable : Object.table ⟨s.name, t.name⟩ ∈ created s.creation :=
    ofTable_subset ht List.mem_cons_self
  refine .cons rfl htable (.of_forall ?_)
  have hcolumn : Catalog.HasColumn (created s.creation ++
      (Statement.addColumn ⟨s.name, t.name⟩ c.name c.type).creates) ⟨s.name, t.name⟩ c.name :=
    .of_mem c.type (List.mem_append_right _ List.mem_cons_self)
  intro st hst
  rcases List.mem_cons.1 hst with rfl | hst
  · exact ⟨rfl, List.mem_append_left _ htable, hcolumn⟩
  · by_cases hgeometry : c.type = .geometry
    · rw [if_pos hgeometry, List.mem_singleton] at hst
      subst hst
      exact ⟨rfl, List.mem_append_left _ htable, hcolumn⟩
    · rw [if_neg hgeometry] at hst
      cases hst

/-! ### Rows of lookup tables -/

theorem requires_data {st : Statement} (hst : st ∈ (s.script names).statements .data) :
    st.writesRow = true ∧ Catalog.Requires (created s.creation) st := by
  rw [statements_data] at hst
  obtain ⟨p, hp, hst⟩ := List.mem_flatMap.1 hst
  obtain ⟨entry, -, rfl⟩ := List.mem_map.1 hst
  have hsub := lookupObjects_subset hp
  refine ⟨rfl, hsub List.mem_cons_self, ?_, by simp [lookupKey, lookupLabel]⟩
  intro field hfield
  simp only [List.mem_cons, List.not_mem_nil, or_false] at hfield
  rcases hfield with rfl | rfl
  · exact .of_mem .uuid (hsub (by simp [Lookup.objects, Object.ofTable]))
  · exact .of_mem .text (hsub (by simp [Lookup.objects, Object.ofTable]))

/-! ### Foreign keys -/

/-- A column of identifiers may refer to the key of a table. -/
theorem requires_foreignKey {base : Catalog} {t target : TableName}
    {name column targetColumn : String} (columns : List (String × ColumnType))
    (ht : .table t ∈ base) (hcolumn : .column t column .uuid ∈ base)
    (htarget : Object.ofTable target targetColumn columns ⊆ base)
    (hkey : (targetColumn, .uuid) ∈ columns) :
    Catalog.Requires base (.addForeignKey t name column target targetColumn) := by
  refine ⟨ht, htarget List.mem_cons_self, htarget (by simp [Object.ofTable]), .uuid,
    Catalog.mem_columnTypes.2 hcolumn, htarget ?_⟩
  refine List.mem_cons_of_mem _ (List.mem_cons_of_mem _ ?_)
  exact List.mem_map.2 ⟨_, hkey, rfl⟩

theorem builds_constraints (hlinked : ∀ t ∈ s.tables, s.Linked t) :
    Builds (created s.creation ++ created ((s.script names).statements .columns))
      ((s.script names).statements .constraints) := by
  refine .of_forall ?_
  intro st hst
  obtain ⟨t, ht, hst⟩ := exists_of_mem_constraints names hst
  have htable : Object.table ⟨s.name, t.name⟩ ∈ created s.creation :=
    ofTable_subset ht List.mem_cons_self
  rcases hst with ⟨c, hc, l, hl, huuid, rfl⟩ | rfl
  · have hcolumn := column_mem names ht hc
    rw [huuid] at hcolumn
    refine ⟨rfl, requires_foreignKey [(lookupKey, .uuid), (lookupLabel, .text)]
      (List.mem_append_left _ htable) (List.mem_append_right _ hcolumn) ?_ List.mem_cons_self⟩
    exact List.subset_append_of_subset_left _ (lookupObjects_subset (mem_lookups ht hc hl))
  · have hlink : Object.column ⟨s.name, t.name⟩ t.parent.column .uuid ∈ created s.creation :=
      ofTable_subset ht (by simp [Object.ofTable])
    refine ⟨rfl, ?_⟩
    -- The link leads to the key of the root table or to that of another table.
    rcases hlinked t ht with ⟨hname, hkey⟩ | ⟨u, hu, -, hname, hkey⟩
    · refine requires_foreignKey [(s.rootKey, .uuid), (legacyIdColumn, .text)]
        (List.mem_append_left _ htable) (List.mem_append_left _ hlink) ?_ (by simp [hkey])
      rw [hname, hkey]
      exact List.subset_append_of_subset_left _ rootObjects_subset
    · refine requires_foreignKey [(u.key, .uuid), (u.parent.column, .uuid)]
        (List.mem_append_left _ htable) (List.mem_append_left _ hlink) ?_ (by simp [hkey])
      rw [hname, hkey]
      exact List.subset_append_of_subset_left _ (ofTable_subset hu)

end ResourceTables.Schema
