import ResourceTables.Proofs.Package
import ResourceTables.Proofs.Export.Parts
import ResourceTables.Proofs.Schema.Construction

/-!
# ResourceTables.Proofs.Export.Execution

Run in order against a database, the statements of an export succeed and leave behind exactly the
registry and the exported schemas, whatever the database held before. The names of a schema must not
collide, and a nodegroup that others nest under must have a table for them to refer to.

The four phases mix the statements of all graphs. Schemas are created one after the other
(`exists_run_creations`), and removing one leaves the others alone since their names differ. What the
later phases need is there from then on, and what they create has its place in one schema each
(`nodup_slots_later`).
-/

namespace ResourceTables

open Sql (Object Slot Statement TableName Script Catalog Builds)
open Sql.Statement (created created_flatMap created_append)

/-! ### The registry -/

/-- The table of the registry in a catalog. -/
def Registry.tableObjects (registry : TableName) : List Object :=
  .table registry :: Registry.columns.map fun (name, type) => .column registry name type

/-- The registry in a catalog, with the schema it is in. -/
def Registry.objects (registry : TableName) : List Object :=
  .schema registry.schema :: Registry.tableObjects registry

theorem Registry.home_of_mem_objects {registry : TableName} {x : Object}
    (hx : x ∈ objects registry) : x.home = registry.schema := by
  rcases List.mem_cons.1 hx with rfl | hx
  · rfl
  rcases List.mem_cons.1 hx with rfl | hx
  · rfl
  · obtain ⟨column, -, rfl⟩ := List.mem_map.1 hx
    rfl

namespace Execution

theorem nodup_slots_registry (registry : TableName) :
    ((Registry.tableObjects registry).map Object.slot).Nodup := by
  have hnames : (Registry.columns.map Prod.fst).Nodup := by decide
  have hcolumns := hnames.map (f := Slot.column registry) fun a b h => by injection h
  rw [List.map_map] at hcolumns
  rw [Registry.tableObjects, List.map_cons, List.map_map, List.nodup_cons]
  exact ⟨by simp [Object.slot], hcolumns⟩

/-- The registry is created anew, and its schema stays as it is if there is one. -/
theorem exists_run_registry {c : Catalog} {registry : TableName}
    (hindex : ∀ table, .index registry table ∉ c) :
    ∃ d, c.run ((Registry.tableScript registry).statements .tables) = some d ∧
      ∀ x, x ∈ d ↔ x ∈ c ∧ x.isOf registry = false ∨ x ∈ Registry.objects registry := by
  obtain ⟨c₁, hensure, hmem⟩ : ∃ c₁ : Catalog, c.step (.ensureSchema registry.schema) = some c₁ ∧
      ∀ x, x ∈ c₁ ↔ x ∈ c ∨ x = .schema registry.schema := by
    refine ⟨_, rfl, fun x => ?_⟩
    by_cases h : .schema registry.schema ∈ c
    · rw [if_pos h]
      exact ⟨.inl, fun hx => hx.elim id fun hx => hx ▸ h⟩
    · rw [if_neg h, List.mem_append, List.mem_singleton]
  -- An index of the registry's name would not be taken for a table.
  have hdrop : c₁.step (.dropTable registry) = some (c₁.filter fun x => !x.isOf registry) := by
    refine if_pos ?_
    intro x hx hslot
    rcases (hmem x).1 hx with hx | rfl
    · cases x <;> simp_all [Object.slot]
    · simp [Object.slot] at hslot
  -- Nothing that went with an older table is left, so all names are free.
  have hcreate : Catalog.step (c₁.filter fun x => !x.isOf registry)
      (.createTable registry (Registry.columns.map fun (name, type) => ⟨name, type, false⟩)) =
      some (c₁.filter (fun x => !x.isOf registry) ++ Registry.tableObjects registry) := by
    refine Catalog.step_of_isAdditive rfl ?_ ⟨nodup_slots_registry registry, ?_⟩
    · exact List.mem_filter.2 ⟨(hmem _).2 (.inr rfl), rfl⟩
    · intro x hx hslot
      obtain ⟨y, hy, hslot⟩ := List.mem_map.1 hslot
      obtain ⟨hy, hof⟩ := List.mem_filter.1 hy
      have hindex' (table : String) : .index registry table ∉ c₁ := fun h =>
        ((hmem _).1 h).elim (hindex table) (by simp)
      rcases List.mem_cons.1 hx with rfl | hx
      · cases y <;> simp_all [Object.slot, Object.isOf]
      · obtain ⟨column, -, rfl⟩ := List.mem_map.1 hx
        cases y <;> simp_all [Object.slot, Object.isOf]
  refine ⟨c₁.filter (fun x => !x.isOf registry) ++ Registry.tableObjects registry, ?_, ?_⟩
  · show Catalog.run c [_, _, _] = _
    rw [Catalog.run_cons, hensure, Option.bind_some, Catalog.run_cons, hdrop, Option.bind_some,
      Catalog.run_cons, hcreate]
    rfl
  · intro x
    have hschema : Object.isOf registry (.schema registry.schema) = false := rfl
    simp only [List.mem_append, List.mem_filter, hmem, Registry.objects, List.mem_cons,
      Bool.not_eq_eq_eq_not, Bool.not_true]
    by_cases h : x = .schema registry.schema
    · simp [h, hschema]
    · simp [h]

/-! ### Schemas -/

variable {names : Names} {schemas : List Schema}

/-- What has its place in a schema takes no slot of anything outside. -/
theorem slot_ne_of_home_ne {x y : Object} (h : x.home ≠ y.home) : x.slot ≠ y.slot :=
  fun heq => h (congrArg Slot.home heq)

/-- Removing and creating schemas of different names, one after the other, leaves nothing but the
new ones and what is in no schema of these names. -/
theorem exists_run_creations (c : Catalog) (hnames : (schemas.map Schema.name).Nodup)
    (hslots : ∀ s ∈ schemas, ((created s.creation).map Object.slot).Nodup) :
    ∃ d, c.run (schemas.flatMap fun s => .dropSchema s.name :: s.creation) = some d ∧
      ∀ x, x ∈ d ↔ x ∈ c ∧ x.home ∉ schemas.map Schema.name ∨
        ∃ s ∈ schemas, x ∈ created s.creation := by
  induction schemas generalizing c with
  | nil => exact ⟨c, rfl, by simp⟩
  | cons s schemas ih =>
    obtain ⟨hfresh, hrest⟩ := List.nodup_cons.1 hnames
    have hrun : c.run (.dropSchema s.name :: s.creation) =
        some (c.filter (fun x => x.home ≠ s.name) ++ created s.creation) := by
      rw [Catalog.run_cons]
      refine Schema.builds_creation (hslots s List.mem_cons_self) _ (List.nil_subset _) ?_
      -- What is left after the schema was removed has its place in others.
      intro x hx hmem
      obtain ⟨y, hy, hslot⟩ := List.mem_map.1 hmem
      have hhome : y.home ≠ s.name := by simpa using (List.mem_filter.1 hy).2
      rw [← Schema.home_of_mem_creation hx] at hhome
      exact slot_ne_of_home_ne hhome hslot
    obtain ⟨d, hd, hmem⟩ := ih (c.filter (fun x => x.home ≠ s.name) ++ created s.creation) hrest
      fun s' hs' => hslots s' (List.mem_cons_of_mem _ hs')
    refine ⟨d, ?_, ?_⟩
    · rw [List.flatMap_cons, Catalog.run_append hrun, hd]
    · intro x
      have hhome (hx : x ∈ created s.creation) : x.home ∉ schemas.map Schema.name :=
        Schema.home_of_mem_creation hx ▸ hfresh
      simp only [hmem, List.mem_append, List.mem_filter, List.map_cons, List.mem_cons,
        exists_eq_or_imp, not_or, decide_eq_true_eq]
      tauto

/-- The phases after the first one create no slot twice. -/
theorem nodup_slots_later (hnames : (schemas.map Schema.name).Nodup)
    (hslots : ∀ s ∈ schemas, ((s.createdObjects names).map Object.slot).Nodup) :
    ((schemas.flatMap (Schema.laterObjects names)).map Object.slot).Nodup := by
  rw [List.map_flatMap]
  refine Schema.nodup_flatMap_of_owner Slot.home Schema.name ?_ ?_ hnames
  · intro s hs
    exact (Schema.nodup_slots_phases (hslots s hs)).2.1
  · intro s hs slot hslot
    obtain ⟨x, hx, rfl⟩ := List.mem_map.1 hslot
    exact Schema.home_of_mem_laterObjects names hx

/-- The phases after the first one take no slot of what is there after it. -/
theorem slot_notMem_of_mem_later {c d : Catalog} (hnames : (schemas.map Schema.name).Nodup)
    (hslots : ∀ s ∈ schemas, ((s.createdObjects names).map Object.slot).Nodup)
    (hmem : ∀ x, x ∈ d ↔ x ∈ c ∧ x.home ∉ schemas.map Schema.name ∨
      ∃ s ∈ schemas, x ∈ created s.creation) :
    ∀ x ∈ schemas.flatMap (Schema.laterObjects names), x.slot ∉ d.map Object.slot := by
  intro x hx hslot
  obtain ⟨s, hs, hx⟩ := List.mem_flatMap.1 hx
  obtain ⟨y, hy, hslot⟩ := List.mem_map.1 hslot
  have hhome : y.home = s.name :=
    (congrArg Slot.home hslot).trans (Schema.home_of_mem_laterObjects names hx)
  rcases (hmem y).1 hy with ⟨-, hout⟩ | ⟨s', hs', hy⟩
  · exact hout (hhome ▸ List.mem_map_of_mem hs)
  · have heq : s' = s := by
      refine List.inj_on_of_nodup_map hnames hs' hs ?_
      rw [← hhome, Schema.home_of_mem_creation hy]
    subst heq
    exact (Schema.nodup_slots_phases (hslots s' hs)).2.2 y hy x hx hslot

/-! ### Rows -/

theorem requires_registryRow {registry : TableName} {s : Schema} {st : Statement}
    (hst : st ∈ (Registry.rowScript registry s).statements .data) :
    st.writesRow = true ∧ Catalog.Requires (Registry.objects registry) st := by
  obtain ⟨t, -, hst⟩ := List.mem_flatMap.1 hst
  obtain ⟨c, -, rfl⟩ := List.mem_map.1 hst
  have hfields : ((Registry.columns.map Prod.fst).zip (Registry.row s t c)).map Prod.fst =
      Registry.columns.map Prod.fst := rfl
  refine ⟨rfl, by simp [Registry.objects, Registry.tableObjects], ?_, ?_⟩
  · intro field hfield
    have hname := List.mem_map_of_mem (f := Prod.fst) hfield
    rw [hfields] at hname
    obtain ⟨column, hcolumn, heq⟩ := List.mem_map.1 hname
    refine .of_mem column.2 (List.mem_cons_of_mem _ (List.mem_cons_of_mem _ ?_))
    exact List.mem_map.2 ⟨column, hcolumn, congrArg (Object.column registry · column.2) heq⟩
  · rw [hfields]
    decide

/-- Rows are written to the root table and to the tables of nodegroups, whose columns are all there
after the second phase. -/
theorem requires_row {source : Source} {srid : Nat} {language : String} {s : Schema}
    {y : Rows.Yield} {st : Statement} (hs : s.Sound names)
    (hy : Rows.materialize source srid language s = .ok y) (hst : st ∈ y.statements) :
    st.writesRow = true ∧ Catalog.Requires
      (created s.creation ++ created ((s.script names).statements .columns)) st := by
  have htable {t : Schema.Table} (ht : t ∈ s.tables) :
      Object.ofTable ⟨s.name, t.name⟩ t.key [(t.key, .uuid), (t.parent.column, .uuid)] ⊆
        created s.creation ++ created ((s.script names).statements .columns) :=
    List.subset_append_of_subset_left _ (Schema.ofTable_subset ht)
  have hkey {t : Schema.Table} (ht : t ∈ s.tables) : Catalog.HasColumn
      (created s.creation ++ created ((s.script names).statements .columns))
      ⟨s.name, t.name⟩ t.key :=
    .of_mem .uuid (htable ht (by simp [Object.ofTable]))
  have hparent {t : Schema.Table} (ht : t ∈ s.tables) : Catalog.HasColumn
      (created s.creation ++ created ((s.script names).statements .columns))
      ⟨s.name, t.name⟩ t.parent.column :=
    .of_mem .uuid (htable ht (by simp [Object.ofTable]))
  cases Rows.isRowStatement_of_mem hy hst with
  | resource hr =>
    have hroot := List.subset_append_of_subset_left
      (created ((s.script names).statements .columns)) (Schema.rootObjects_subset (s := s))
    refine ⟨rfl, hroot List.mem_cons_self, ?_, by simpa using hs.rootKey⟩
    simp only [List.forall_mem_cons, List.not_mem_nil, false_imp_iff, implies_true, and_true]
    exact ⟨.of_mem .uuid (hroot (by simp [Schema.rootObjects, Object.ofTable])),
      .of_mem .text (hroot (by simp [Schema.rootObjects, Object.ofTable]))⟩
  | tile ht _ =>
    refine ⟨rfl, htable ht List.mem_cons_self, ?_, by simpa using hs.keys _ ht⟩
    simp only [List.forall_mem_cons, List.not_mem_nil, false_imp_iff, implies_true, and_true]
    exact ⟨hkey ht, hparent ht⟩
  | link ht _ _ => exact ⟨rfl, htable ht List.mem_cons_self, hparent ht, hkey ht⟩
  | @value _ _ column _ _ ht _ hc _ _ =>
    refine ⟨rfl, htable ht List.mem_cons_self, .of_mem column.type ?_, hkey ht⟩
    exact List.mem_append_right _ (Schema.column_mem names ht hc)

/-- The rows of a part find their tables. -/
theorem requires_partRow {source : Source} {o : ExportOptions} {p : Part} {st : Statement}
    (hp : p.IsOf source o) (hs : p.schema.Sound ⟨o.maxLength⟩)
    (hst : st ∈ (p.script o).statements .data) :
    st.writesRow = true ∧ Catalog.Requires (Registry.objects o.registry ++
      (created p.schema.creation ++
        created ((p.schema.script ⟨o.maxLength⟩).statements .columns))) st := by
  have hrequires {base : Catalog} (hrow : st.writesRow = true ∧ Catalog.Requires base st)
      (hsub : base ⊆ Registry.objects o.registry ++ (created p.schema.creation ++
        created ((p.schema.script ⟨o.maxLength⟩).statements .columns))) :
      st.writesRow = true ∧ Catalog.Requires (Registry.objects o.registry ++
        (created p.schema.creation ++
          created ((p.schema.script ⟨o.maxLength⟩).statements .columns))) st :=
    ⟨hrow.1, hrow.2.mono (Sql.Statement.isAdditive_of_writesRow hrow.1) hsub⟩
  rw [Part.script, Script.statements_append, Script.statements_append] at hst
  rcases List.mem_append.1 hst with hst | hst
  · rcases List.mem_append.1 hst with hst | hst
    · refine hrequires (Schema.requires_data hst) ?_
      exact List.subset_append_of_subset_right _ (List.subset_append_left _ _)
    · exact hrequires (requires_registryRow hst) (List.subset_append_left _ _)
  · have hrows := hp.rows
    by_cases hinclude : o.includeRows = true
    · rw [if_pos hinclude] at hrows
      exact hrequires (requires_row hs hrows hst) (List.subset_append_right _ _)
    · rw [if_neg hinclude] at hrows
      rw [hrows] at hst
      cases hst

/-! ### The phases of an export -/

/-- The statements of the phases after the first one. -/
def laterStatements (o : ExportOptions) (parts : List Part) : List Statement :=
  (parts.flatMap fun p => (p.schema.script ⟨o.maxLength⟩).statements .columns) ++
    ((parts.flatMap fun p => (p.script o).statements .data) ++
      parts.flatMap fun p => (p.schema.script ⟨o.maxLength⟩).statements .constraints)

/-- The statements of an export in the order in which they are run. -/
theorem statements_eq {o : ExportOptions} {parts : List Part} {e : Export}
    (hscript : e.script =
      Registry.tableScript o.registry ++ Script.concat (parts.map (Part.script o))) :
    e.script.toList.map Prod.snd = (Registry.tableScript o.registry).statements .tables ++
      (((parts.map Part.schema).flatMap fun s => .dropSchema s.name :: s.creation) ++
        laterStatements o parts) := by
  have hpart (p : Part) :
      (p.script o).statements .tables = .dropSchema p.schema.name :: p.schema.creation ∧
      (p.script o).statements .columns = (p.schema.script ⟨o.maxLength⟩).statements .columns ∧
      (p.script o).statements .constraints =
        (p.schema.script ⟨o.maxLength⟩).statements .constraints := by
    rw [← Schema.statements_tables ⟨o.maxLength⟩]
    exact ⟨p.statements_of_ne_data o (by decide), p.statements_of_ne_data o (by decide),
      p.statements_of_ne_data o (by decide)⟩
  have hregistry : (Registry.tableScript o.registry).statements .columns = [] ∧
      (Registry.tableScript o.registry).statements .data = [] ∧
      (Registry.tableScript o.registry).statements .constraints = [] := ⟨rfl, rfl, rfl⟩
  rw [Script.map_snd_toList, Script.flatMap_phases, hscript]
  simp only [Script.statements_append, Script.statements_concat, List.flatMap_map, hpart,
    hregistry, List.nil_append, laterStatements, List.append_assoc]

/-- The phases after the first one build on the registry and the tables of all parts. -/
theorem builds_later {source : Source} {o : ExportOptions} {parts : List Part}
    (hparts : ∀ p ∈ parts, p.IsOf source o) (hsound : ∀ p ∈ parts, p.schema.Sound ⟨o.maxLength⟩) :
    Builds (Registry.objects o.registry ++ parts.flatMap fun p => created p.schema.creation)
      (laterStatements o parts) := by
  have hcreation {p : Part} (hp : p ∈ parts) : created p.schema.creation ⊆
      parts.flatMap fun p => created p.schema.creation :=
    fun _ hx => List.mem_flatMap.2 ⟨p, hp, hx⟩
  have hcolumns {p : Part} (hp : p ∈ parts) :
      created ((p.schema.script ⟨o.maxLength⟩).statements .columns) ⊆
        created (parts.flatMap fun p => (p.schema.script ⟨o.maxLength⟩).statements .columns) := by
    rw [created_flatMap]
    exact fun _ hx => List.mem_flatMap.2 ⟨p, hp, hx⟩
  refine .append (.flatMap ?_) (.append (.of_forall ?_) (.flatMap ?_))
  · intro p hp
    exact Schema.builds_columns.mono (List.subset_append_of_subset_right _ (hcreation hp))
  · intro st hst
    obtain ⟨p, hp, hst⟩ := List.mem_flatMap.1 hst
    obtain ⟨hrow, hrequires⟩ := requires_partRow (hparts p hp) (hsound p hp) hst
    have hadditive := Sql.Statement.isAdditive_of_writesRow hrow
    refine ⟨hadditive, hrequires.mono hadditive ?_⟩
    intro x hx
    simp only [List.mem_append] at hx ⊢
    exact hx.elim (fun hx => .inl (.inl hx)) fun hx =>
      hx.imp (fun hx => .inr (hcreation hp hx)) fun hx => hcolumns hp hx
  · intro p hp
    refine (Schema.builds_constraints (hsound p hp).linked).mono ?_
    intro x hx
    simp only [List.mem_append] at hx ⊢
    exact .inl (hx.imp (fun hx => .inr (hcreation hp hx)) fun hx => hcolumns hp hx)

theorem created_later_perm {source : Source} {o : ExportOptions} {parts : List Part}
    (hparts : ∀ p ∈ parts, p.IsOf source o) (hsound : ∀ p ∈ parts, p.schema.Sound ⟨o.maxLength⟩) :
    (created (laterStatements o parts)).Perm
      ((parts.map Part.schema).flatMap (Schema.laterObjects ⟨o.maxLength⟩)) := by
  have hdata : created (parts.flatMap fun p => (p.script o).statements .data) = [] := by
    refine Sql.Statement.created_of_writesRow ?_
    intro st hst
    obtain ⟨p, hp, hst⟩ := List.mem_flatMap.1 hst
    exact (requires_partRow (hparts p hp) (hsound p hp) hst).1
  rw [laterStatements, created_append, created_append, hdata, List.nil_append, created_flatMap,
    created_flatMap, List.flatMap_map]
  exact List.flatMap_append_perm parts _ _

end Execution

open Execution in
/-- Run against any database, the statements of an export succeed, and afterwards there are the
registry, the exported schemas, and what the database held outside of them.

The names of a schema must not collide (`Schema.NamesApart`), and neither may those of the schemas.
Nodegroups that others nest under must have tables (`Graph.ParentsHaveTables`), and an index of
another table may not have the name of the registry. -/
theorem run_export (source : Source) (o : ExportOptions) (e : Export)
    (warnings : List Rows.Warning) (h : export? source o = (.ok e, warnings))
    (hschemas : (e.schemas.map Schema.name).Nodup)
    (hnames : ∀ s ∈ e.schemas, s.NamesApart ⟨o.maxLength⟩)
    (hparents : ∀ g ∈ selectedGraphs source o, g.ParentsHaveTables)
    (c : Catalog) (hindex : ∀ table, Object.index o.registry table ∉ c) :
    ∃ c', c.run (e.script.toList.map Prod.snd) = some c' ∧
      ∀ x, x ∈ c' ↔
        x ∈ c ∧ x.home ∉ e.schemas.map Schema.name ∧ x.isOf o.registry = false ∨
        x ∈ Registry.objects o.registry ∨
        ∃ s ∈ e.schemas, x ∈ s.objects ⟨o.maxLength⟩ := by
  obtain ⟨parts, hgraphs, hparts, hexported, hscript, -⟩ := exists_parts h
  rw [hexported] at hschemas hnames ⊢
  have hsound : ∀ p ∈ parts, p.schema.Sound ⟨o.maxLength⟩ := by
    intro p hp
    refine (hnames _ (List.mem_map_of_mem hp)).sound
      (Schema.isDerived_of_derive (hparts p hp).derived) ?_
    exact hparents p.graph (hgraphs ▸ List.mem_map_of_mem hp)
  have hslots : ∀ s ∈ parts.map Part.schema,
      ((s.createdObjects ⟨o.maxLength⟩).map Object.slot).Nodup := by
    rintro _ hs
    obtain ⟨p, hp, rfl⟩ := List.mem_map.1 hs
    exact (hsound p hp).nodup_slots
  have hcreation : ∀ s ∈ parts.map Part.schema,
      ((created s.creation).map Object.slot).Nodup := fun s hs =>
    (Schema.nodup_slots_phases (hslots s hs)).1
  have hregistry : ∀ x ∈ Registry.objects o.registry,
      x.home ∉ (parts.map Part.schema).map Schema.name := by
    intro x hx hmem
    obtain ⟨s, hs, hname⟩ := List.mem_map.1 hmem
    obtain ⟨p, hp, rfl⟩ := List.mem_map.1 hs
    exact (hparts p hp).apart (hname.trans (Registry.home_of_mem_objects hx))
  obtain ⟨c₁, hrun₁, hmem₁⟩ := exists_run_registry hindex
  obtain ⟨c₂, hrun₂, hmem₂⟩ := exists_run_creations c₁ hschemas hcreation
  have hlater := created_later_perm hparts hsound
  have hbuilt := builds_later hparts hsound
    ((hlater.map Object.slot).nodup_iff.2 (nodup_slots_later hschemas hslots)) c₂
  refine ⟨c₂ ++ created (laterStatements o parts), ?_, ?_⟩
  · rw [statements_eq hscript, Catalog.run_append hrun₁, Catalog.run_append hrun₂]
    refine hbuilt ?_ ?_
    · intro x hx
      refine (hmem₂ x).2 ?_
      rcases List.mem_append.1 hx with hx | hx
      · exact .inl ⟨(hmem₁ x).2 (.inr hx), hregistry x hx⟩
      · obtain ⟨p, hp, hx⟩ := List.mem_flatMap.1 hx
        exact .inr ⟨_, List.mem_map_of_mem hp, hx⟩
    · intro x hx
      exact slot_notMem_of_mem_later hschemas hslots hmem₂ x (hlater.mem_iff.1 hx)
  · intro x
    have hobjects : (∃ s ∈ parts.map Part.schema, x ∈ created s.creation) ∨
        x ∈ (parts.map Part.schema).flatMap (Schema.laterObjects ⟨o.maxLength⟩) ↔
        ∃ s ∈ parts.map Part.schema, x ∈ s.objects ⟨o.maxLength⟩ := by
      simp only [← (Schema.createdObjects_perm_objects _ _).mem_iff, Schema.createdObjects,
        List.mem_append, List.mem_flatMap, and_or_left, exists_or]
    rw [List.mem_append, hlater.mem_iff, hmem₂, hmem₁, or_assoc, hobjects]
    constructor
    · rintro (⟨⟨hx, hof⟩ | hx, hout⟩ | hx)
      · exact .inl ⟨hx, hout, hof⟩
      · exact .inr (.inl hx)
      · exact .inr (.inr hx)
    · rintro (⟨hx, hout, hof⟩ | hx | hx)
      · exact .inl ⟨.inl ⟨hx, hof⟩, hout⟩
      · exact .inl ⟨.inr hx, hregistry x hx⟩
      · exact .inr hx

/-- A database with an older table for sites, and with one of its own. -/
def siteDatabase : Catalog :=
  [.schema "public", .table ⟨"public", "people"⟩, .schema "site", .table ⟨"site", "owner"⟩]

theorem run_export_sitePackage :
    ∃ e warnings c', export? (.ofPackage sitePackage) {} = (.ok e, warnings) ∧
      e.schemas.map Schema.tableNames = [["site", "phase", "phase_part", "dom_phase_part_kind"]] ∧
      siteDatabase.run (e.script.toList.map Prod.snd) = some c' ∧
      Object.table ⟨"public", "people"⟩ ∈ c' ∧ Object.table ⟨"site", "owner"⟩ ∉ c' := by
  have h : ∃ e ∈ (export? (.ofPackage sitePackage) {}).1.toOption,
      e.schemas.map Schema.tableNames =
          [["site", "phase", "phase_part", "dom_phase_part_kind"]] ∧
        (e.schemas.map Schema.name).Nodup ∧ (∀ s ∈ e.schemas, s.NamesApart {}) ∧
        Object.home (.table ⟨"public", "people"⟩) ∉ e.schemas.map Schema.name ∧
        "site" ∈ e.schemas.map Schema.name ∧
        ∀ s ∈ e.schemas, Object.table ⟨"site", "owner"⟩ ∉ s.objects {} := by
    rw [Source.ofPackage_eq]
    decide +kernel
  obtain ⟨e, he, htables, hschemas, hnames, hkept, hsite, hgone⟩ := h
  obtain ⟨c', hrun, hmem⟩ := run_export (.ofPackage sitePackage) {} e _
    (Prod.ext (mem_toOption_iff.1 he) rfl) hschemas hnames (by decide) siteDatabase
    (by simp [siteDatabase])
  refine ⟨e, _, c', Prod.ext (mem_toOption_iff.1 he) rfl, htables, hrun, ?_, ?_⟩
  · exact (hmem _).2 (.inl ⟨by simp [siteDatabase], hkept, rfl⟩)
  · intro hx
    rcases (hmem _).1 hx with ⟨-, hout, -⟩ | hx | ⟨s, hs, hx⟩
    · exact hout hsite
    · exact absurd hx (by decide)
    · exact hgone s hs hx

/-- A graph in which a part nests under the nodegroup of the top node, which nests under a phase. -/
def nestedTopGraph : Graph where
  id := .ofNat 9
  name := .single "en" "Site"
  isResource := true
  nodes := [
    { id := .ofNat 1, name := "Site", datatype := .semantic, nodegroup := some (.ofNat 1)
      isTop := true },
    { id := .ofNat 2, name := "Phase", datatype := .semantic, nodegroup := some (.ofNat 2) },
    { id := .ofNat 3, name := "Part", datatype := .semantic, nodegroup := some (.ofNat 3) }]
  nodegroups := [{ id := .ofNat 2 }, { id := .ofNat 1, parent := some (.ofNat 2) },
    { id := .ofNat 3, parent := some (.ofNat 1) }]

/-- A graph in which the foreign keys of a lookup column and of a link column have one name if names
are cut after ten characters. -/
def cutNamesGraph : Graph where
  id := .ofNat 9
  name := .single "en" "Monumental site"
  isResource := true
  nodes := [
    { id := .ofNat 1, name := "Monumental site", datatype := .semantic, isTop := true },
    { id := .ofNat 2, name := "Part", datatype := .semantic, nodegroup := some (.ofNat 2) },
    { id := .ofNat 3, name := "Monumen", datatype := .domainValue, nodegroup := some (.ofNat 2)
      config := .object [("options", .array [])] }]
  nodegroups := [{ id := .ofNat 2 }]

/-- An export of one graph whose statements cannot be run, even though its tables, indexes and columns
have names of their own. -/
def FailsToRun (g : Graph) (maxLength : Nat) : Prop :=
  ∃ e, (export? (.ofPackage { graphs := [g] }) { maxLength }).1 = .ok e ∧
    (e.schemas.map Schema.name).Nodup ∧
    (∀ s ∈ e.schemas, (s.relationNames ⟨maxLength⟩).Nodup ∧ ∀ t ∈ s.tables, t.ColumnsApart) ∧
    Catalog.run [] (e.script.toList.map Prod.snd) = none

/-- Each of the conditions on keys, links and foreign keys is needed. -/
theorem run_export_eq_none :
    FailsToRun legacyGraph 60 ∧ FailsToRun nestedTopGraph 60 ∧ FailsToRun cutNamesGraph 10 := by
  have hfails {g : Graph} {maxLength : Nat}
      (h : ∃ e ∈ (export? (.ofPackage { graphs := [g] }) { maxLength }).1.toOption,
        (e.schemas.map Schema.name).Nodup ∧
        (∀ s ∈ e.schemas, (s.relationNames ⟨maxLength⟩).Nodup ∧ ∀ t ∈ s.tables, t.ColumnsApart) ∧
        Catalog.run [] (e.script.toList.map Prod.snd) = none) : FailsToRun g maxLength := by
    obtain ⟨e, he, hrest⟩ := h
    exact ⟨e, mem_toOption_iff.1 he, hrest⟩
  refine ⟨hfails ?_, hfails ?_, hfails ?_⟩ <;>
  · rw [Source.ofPackage_eq]
    decide +kernel

end ResourceTables
