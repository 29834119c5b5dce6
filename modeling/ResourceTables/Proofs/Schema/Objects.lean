import Mathlib.Data.List.Perm.Basic
import Mathlib.Algebra.Order.Group.Multiset
import Mathlib.Tactic.Abel
import ResourceTables.Schema.Definition
import ResourceTables.Proofs.Sql.Catalog
import ResourceTables.Proofs.Sql.Script

/-!
# ResourceTables.Proofs.Schema.Objects

What a schema looks like in a catalog, told apart from the statements that define it: its relations
with their columns, keys and constraints (`Schema.relations`). The statements of all four phases
together create just these objects (`createdObjects_perm_objects`), and no slot is taken twice as long as the
names of the schema do not collide (`nodup_slots_objects`).
-/

namespace ResourceTables.Schema

open Sql (Object Slot Statement TableName Script)
open Sql.Statement (created created_flatMap)

variable (names : Names)

/-! ### Names -/

/-- The names of the tables: of the root table, of those for nodegroups, and of the lookup tables. -/
def tableNames (s : Schema) : List String :=
  s.rootTable :: (s.tables.map Table.name ++ s.lookups.map fun (_, _, l) => l.name)

/-- The names of the spatial indexes of a table. -/
def Table.indexNames (t : Table) : List String :=
  (t.columns.filter fun c => c.type = .geometry).map fun c => names.spatialIndex t.name c.name

/-- The names of the tables and of the spatial indexes, which share a schema. -/
def relationNames (s : Schema) : List String :=
  s.tableNames ++ s.tables.flatMap (Table.indexNames names)

/-- Whether a column is a foreign key to its lookup table. -/
def Column.isReference (c : Column) : Bool := c.lookup.isSome && c.type = .uuid

/-- The names of the foreign keys of a table, that of the link column last. -/
def Table.foreignKeyNames (t : Table) : List String :=
  ((t.columns.filter Column.isReference).map fun c => names.foreignKey c.name) ++
    [names.foreignKey t.parent.column]

/-- The columns for values have names of their own, apart from those of the key and the link. -/
structure Table.ColumnsApart (t : Table) : Prop where
  nodup : (t.columns.map Column.name).Nodup
  key_notMem : t.key ∉ t.columns.map Column.name
  link_notMem : t.parent.column ∉ t.columns.map Column.name

/-- No two things of a schema that share a place have one name. -/
structure NamesApart (s : Schema) : Prop where
  relations : (s.relationNames names).Nodup
  /-- The two columns of the root table. -/
  rootKey : s.rootKey ≠ legacyIdColumn
  columns : ∀ t ∈ s.tables, t.ColumnsApart
  foreignKeys : ∀ t ∈ s.tables, (t.foreignKeyNames names).Nodup

instance (t : Table) : Decidable t.ColumnsApart :=
  decidable_of_iff ((t.columns.map Column.name).Nodup ∧ t.key ∉ t.columns.map Column.name ∧
      t.parent.column ∉ t.columns.map Column.name)
    ⟨fun ⟨h, hkey, hlink⟩ => ⟨h, hkey, hlink⟩, fun ⟨h, hkey, hlink⟩ => ⟨h, hkey, hlink⟩⟩

instance (s : Schema) : Decidable (s.NamesApart names) :=
  decidable_of_iff ((s.relationNames names).Nodup ∧ s.rootKey ≠ legacyIdColumn ∧
      (∀ t ∈ s.tables, t.ColumnsApart) ∧ ∀ t ∈ s.tables, (t.foreignKeyNames names).Nodup)
    ⟨fun ⟨h, hroot, hcolumns, hkeys⟩ => ⟨h, hroot, hcolumns, hkeys⟩,
      fun ⟨h, hroot, hcolumns, hkeys⟩ => ⟨h, hroot, hcolumns, hkeys⟩⟩

variable {names} in
theorem NamesApart.nodup_tables {s : Schema} (h : s.NamesApart names) :
    (s.rootTable :: s.tables.map Table.name).Nodup := by
  refine h.relations.sublist ?_
  refine .trans ?_ (List.sublist_append_left _ _)
  exact (List.sublist_append_left _ _).cons_cons _

/-! ### Objects -/

/-- The root table. -/
def rootObjects (s : Schema) : List Object :=
  Object.ofTable ⟨s.name, s.rootTable⟩ s.rootKey [(s.rootKey, .uuid), (legacyIdColumn, .text)]

/-- A table with its key, its link and the columns for values, and its foreign keys. -/
def Table.objects (schema : String) (t : Table) : List Object :=
  Object.ofTable ⟨schema, t.name⟩ t.key [(t.key, .uuid), (t.parent.column, .uuid)] ++
    t.columns.map (fun c => .column ⟨schema, t.name⟩ c.name c.type) ++
    (t.foreignKeyNames names).map (.constraint ⟨schema, t.name⟩)

/-- A lookup table. -/
def Lookup.objects (schema : String) (l : Lookup) : List Object :=
  Object.ofTable ⟨schema, l.name⟩ lookupKey [(lookupKey, .uuid), (lookupLabel, .text)]

/-- The relations of a schema by their names, each with what goes with it. -/
def relations (s : Schema) : List (String × List Object) :=
  (s.rootTable, s.rootObjects) ::
    (s.tables.map (fun t => (t.name, t.objects names s.name)) ++
      s.lookups.map fun (_, _, l) => (l.name, l.objects s.name)) ++
    s.tables.flatMap fun t => (t.indexNames names).map fun index =>
      (index, [.index ⟨s.name, index⟩ t.name])

/-- The schema with all its relations. -/
def objects (s : Schema) : List Object :=
  .schema s.name :: (s.relations names).flatMap Prod.snd

theorem map_fst_relations (s : Schema) :
    (s.relations names).map Prod.fst = s.relationNames names := by
  simp [relations, relationNames, tableNames, List.map_flatMap, Function.comp_def]

/-! ### The statements of the phases -/

/-- The statements of the first phase after the schema was removed. -/
def creation (s : Schema) : List Statement :=
  [.createSchema s.name, keyedTable ⟨s.name, s.rootTable⟩ s.rootKey legacyIdColumn .text,
    .commentOnTable ⟨s.name, s.rootTable⟩ s.graph.toString] ++
  s.tables.flatMap (fun t => [keyedTable ⟨s.name, t.name⟩ t.key t.parent.column .uuid,
    .commentOnTable ⟨s.name, t.name⟩ t.nodegroup.toString]) ++
  s.lookups.flatMap fun (_, _, l) => [keyedTable ⟨s.name, l.name⟩ lookupKey lookupLabel .text]

theorem statements_tables (s : Schema) :
    (s.script names).statements .tables = .dropSchema s.name :: s.creation := by
  have hcolumns (t : Table) :
      (t.columns.flatMap fun c => (columnScript names ⟨s.name, t.name⟩ c).statements .tables) =
        [] := by
    simp [columnScript, Script.statements]
  simp only [script, Script.statements_append, Script.statements_concat, List.flatMap_map,
    tableScript, hcolumns]
  simp [creation, Script.statements, rootScript, lookupScript]

theorem statements_columns (s : Schema) :
    (s.script names).statements .columns = s.tables.flatMap fun t => t.columns.flatMap fun c =>
      (columnScript names ⟨s.name, t.name⟩ c).statements .columns := by
  simp only [script, Script.statements_append, Script.statements_concat, List.flatMap_map,
    tableScript]
  simp [Script.statements, rootScript, lookupScript]

theorem statements_data (s : Schema) :
    (s.script names).statements .data = s.lookups.flatMap fun (_, _, l) => l.entries.map fun e =>
      .insert ⟨s.name, l.name⟩ [(lookupKey, .uuid e.id), (lookupLabel, .text e.label)] := by
  simp only [script, Script.statements_append, Script.statements_concat, List.flatMap_map,
    tableScript]
  simp [Script.statements, rootScript, lookupScript, columnScript]

theorem statements_constraints (s : Schema) :
    (s.script names).statements .constraints = s.tables.flatMap fun t =>
      (t.columns.flatMap fun c =>
        (columnScript names ⟨s.name, t.name⟩ c).statements .constraints) ++
      [.addForeignKey ⟨s.name, t.name⟩ (names.foreignKey t.parent.column) t.parent.column
        ⟨s.name, t.parent.table⟩ t.parent.column] := by
  simp only [script, Script.statements_append, Script.statements_concat, List.flatMap_map,
    tableScript]
  simp [Script.statements, rootScript, lookupScript]

/-- The foreign keys are those of lookup columns and that of each link column. -/
theorem exists_of_mem_constraints {s : Schema} {st : Statement}
    (h : st ∈ (s.script names).statements .constraints) :
    ∃ t ∈ s.tables,
      (∃ c ∈ t.columns, ∃ l, c.lookup = some l ∧ c.type = .uuid ∧
        st = .addForeignKey ⟨s.name, t.name⟩ (names.foreignKey c.name) c.name ⟨s.name, l.name⟩
          lookupKey) ∨
      st = .addForeignKey ⟨s.name, t.name⟩ (names.foreignKey t.parent.column) t.parent.column
        ⟨s.name, t.parent.table⟩ t.parent.column := by
  rw [statements_constraints] at h
  obtain ⟨t, ht, h⟩ := List.mem_flatMap.1 h
  refine ⟨t, ht, ?_⟩
  rcases List.mem_append.1 h with h | h
  · obtain ⟨c, hc, h⟩ := List.mem_flatMap.1 h
    cases hl : c.lookup with
    | none => simp [columnScript, Script.statements, hl] at h
    | some l =>
      by_cases huuid : c.type = .uuid
      · simp only [columnScript, Script.statements, hl, huuid, ↓reduceIte,
          List.mem_singleton] at h
        exact .inl ⟨c, hc, l, hl, huuid, h⟩
      · simp [columnScript, Script.statements, hl, huuid] at h
  · exact .inr (List.mem_singleton.1 h)

/-! ### What the statements create -/

theorem created_creation (s : Schema) :
    created s.creation = .schema s.name :: s.rootObjects ++
      (s.tables.flatMap fun t =>
        Object.ofTable ⟨s.name, t.name⟩ t.key [(t.key, .uuid), (t.parent.column, .uuid)]) ++
      s.lookups.flatMap fun (_, _, l) => l.objects s.name := by
  simp only [creation, Sql.Statement.created_append, created_flatMap]
  rfl

theorem created_columns (s : Schema) :
    created ((s.script names).statements .columns) = s.tables.flatMap fun t =>
      t.columns.flatMap fun c => .column ⟨s.name, t.name⟩ c.name c.type ::
        if c.type = .geometry then [.index ⟨s.name, names.spatialIndex t.name c.name⟩ t.name]
        else [] := by
  rw [statements_columns, created_flatMap]
  simp only [created_flatMap]
  congr 1
  funext t
  congr 1
  funext c
  by_cases hc : c.type = .geometry <;>
    simp [columnScript, Script.statements, hc, Sql.Statement.creates]

theorem created_constraints (s : Schema) :
    created ((s.script names).statements .constraints) = s.tables.flatMap fun t =>
      (t.foreignKeyNames names).map (.constraint ⟨s.name, t.name⟩) := by
  rw [statements_constraints, created_flatMap]
  congr 1
  funext t
  simp only [Sql.Statement.created_append, created_flatMap, Table.foreignKeyNames, List.map_append]
  congr 1
  induction t.columns with
  | nil => rfl
  | cons c columns ih =>
    rw [List.flatMap_cons, ih]
    cases hl : c.lookup <;> by_cases hc : c.type = .uuid <;>
      simp [columnScript, Script.statements, Column.isReference, hl, hc, Sql.Statement.creates]

/-- What the statements of the phases after the first one create. -/
def laterObjects (s : Schema) : List Object :=
  created ((s.script names).statements .columns) ++
    created ((s.script names).statements .constraints)

/-- What the statements of a schema create, in the order in which they are run. -/
def createdObjects (s : Schema) : List Object := created s.creation ++ s.laterObjects names

/-- The columns of a table and their indexes come one after the other, so the objects of a table
are spread over the whole script. -/
theorem createdObjects_perm_objects (s : Schema) :
    (s.createdObjects names).Perm (s.objects names) := by
  have hindexes (t : Table) : (t.columns.flatMap fun c =>
      if c.type = .geometry then [Object.index ⟨s.name, names.spatialIndex t.name c.name⟩ t.name]
      else []) = (t.indexNames names).map fun index => .index ⟨s.name, index⟩ t.name := by
    rw [Table.indexNames, List.map_map]
    induction t.columns with
    | nil => rfl
    | cons c columns ih => by_cases hc : c.type = .geometry <;> simp [hc, ih]
  have hcolumns : (created ((s.script names).statements .columns)).Perm
      ((s.tables.flatMap fun t => t.columns.map fun c =>
          Object.column ⟨s.name, t.name⟩ c.name c.type) ++
        s.tables.flatMap fun t => (t.indexNames names).map fun index =>
          .index ⟨s.name, index⟩ t.name) := by
    rw [created_columns]
    refine .trans (.flatMap_left _ fun t _ => (List.map_append_flatMap_perm t.columns _ _).symm) ?_
    refine .trans (List.flatMap_append_perm s.tables _ _).symm ?_
    simp only [hindexes, List.Perm.refl]
  have hobjects : s.objects names = .schema s.name :: (s.rootObjects ++
      (s.tables.flatMap (Table.objects names s.name) ++
        s.lookups.flatMap fun (_, _, l) => l.objects s.name) ++
      s.tables.flatMap fun t => (t.indexNames names).map fun index =>
        .index ⟨s.name, index⟩ t.name) := by
    simp [objects, relations, List.flatMap_assoc, List.map_eq_flatMap]
  have htables : (s.tables.flatMap (Table.objects names s.name)).Perm
      ((s.tables.flatMap fun t =>
          Object.ofTable ⟨s.name, t.name⟩ t.key [(t.key, .uuid), (t.parent.column, .uuid)]) ++
        (s.tables.flatMap fun t => t.columns.map fun c =>
          Object.column ⟨s.name, t.name⟩ c.name c.type) ++
        s.tables.flatMap fun t => (t.foreignKeyNames names).map (.constraint ⟨s.name, t.name⟩)) :=
    (List.flatMap_append_perm s.tables _ _).symm.trans
      ((List.flatMap_append_perm s.tables _ _).symm.append_right _)
  rw [createdObjects, laterObjects, hobjects, created_creation, created_constraints]
  -- Only the order differs from here on, which multisets do not have.
  rw [← Multiset.coe_eq_coe] at *
  simp only [List.cons_append, ← Multiset.cons_coe, ← Multiset.coe_add] at *
  rw [hcolumns, htables]
  refine congrArg (Multiset.cons _) ?_
  abel

/-! ### Slots -/

/-- Elements that tell which group they come from occur once if the groups and the elements of each
group do. -/
theorem nodup_flatMap_of_owner {α β γ : Type} {l : List α} {f : α → List β} (owner : β → γ)
    (name : α → γ) (hf : ∀ a ∈ l, (f a).Nodup) (howner : ∀ a ∈ l, ∀ b ∈ f a, owner b = name a)
    (hl : (l.map name).Nodup) : (l.flatMap f).Nodup := by
  refine List.nodup_flatMap.2 ⟨hf, ?_⟩
  refine (List.pairwise_map.1 hl).imp_of_mem ?_
  intro a a' ha ha' hne b hb hb'
  exact hne ((howner a ha b hb).symm.trans (howner a' ha' b hb'))

theorem relation?_of_mem_relations {s : Schema} {r : String × List Object}
    (hr : r ∈ s.relations names) :
    ∀ x ∈ r.2, x.slot.relation? = some ⟨s.name, r.1⟩ := by
  simp only [relations, List.mem_append, List.mem_cons, List.mem_map, List.mem_flatMap] at hr
  rcases hr with (rfl | ⟨t, -, rfl⟩ | ⟨l, -, rfl⟩) | ⟨t, -, index, -, rfl⟩
  all_goals
    simp [rootObjects, Table.objects, Lookup.objects, Object.ofTable, Object.slot,
      Slot.relation?, or_imp, forall_and]

theorem home_of_mem_objects {s : Schema} {x : Object} (h : x ∈ s.objects names) :
    x.home = s.name := by
  rw [objects, List.mem_cons, List.mem_flatMap] at h
  rcases h with rfl | ⟨r, hr, hx⟩
  · rfl
  have hrel := relation?_of_mem_relations names hr x hx
  cases x <;> simp_all [Object.slot, Object.home, Slot.home, Slot.relation?]

theorem home_of_mem_creation {s : Schema} {x : Object} (h : x ∈ created s.creation) :
    x.home = s.name := by
  refine home_of_mem_objects {} ((s.createdObjects_perm_objects {}).mem_iff.1 ?_)
  exact List.mem_append_left _ h

theorem home_of_mem_laterObjects {s : Schema} {x : Object} (h : x ∈ s.laterObjects names) :
    x.home = s.name := by
  refine home_of_mem_objects names ((s.createdObjects_perm_objects names).mem_iff.1 ?_)
  exact List.mem_append_right _ h

/-- A relation takes no slot twice if the columns and the constraints of the tables have names of
their own. -/
theorem nodup_slots_relation {s : Schema} {r : String × List Object} (hs : s.NamesApart names)
    (hlink : ∀ t ∈ s.tables, t.key ≠ t.parent.column) (hr : r ∈ s.relations names) :
    (r.2.map Object.slot).Nodup := by
  simp only [relations, List.mem_append, List.mem_cons, List.mem_map, List.mem_flatMap] at hr
  rcases hr with (rfl | ⟨t, ht, rfl⟩ | ⟨l, -, rfl⟩) | ⟨t, -, index, -, rfl⟩
  · simpa [rootObjects, Object.ofTable, Object.slot] using hs.rootKey
  · have hcolumns := (hs.columns t ht).nodup
    have hkey := (hs.columns t ht).key_notMem
    have hparent := (hs.columns t ht).link_notMem
    have hforeign := hs.foreignKeys t ht
    have hnames : (t.key :: t.parent.column :: t.columns.map Column.name).Nodup := by
      simp only [List.nodup_cons, List.mem_cons, not_or]
      exact ⟨⟨hlink t ht, hkey⟩, hparent, hcolumns⟩
    -- Besides the slots of the table and its key there are those of its columns and constraints.
    have hslots : (t.objects names s.name).map Object.slot =
        .relation ⟨s.name, t.name⟩ :: .key ⟨s.name, t.name⟩ ::
          ((t.key :: t.parent.column :: t.columns.map Column.name).map
              (Slot.column ⟨s.name, t.name⟩) ++
            (t.foreignKeyNames names).map (Slot.constraint ⟨s.name, t.name⟩)) := by
      simp [Table.objects, Object.ofTable, Object.slot, Function.comp_def]
    rw [hslots, List.nodup_cons, List.nodup_cons, List.nodup_append]
    refine ⟨by simp, by simp, hnames.map ?_, hforeign.map ?_, ?_⟩
    · intro a b h
      injection h
    · intro a b h
      injection h
    · intro x hx y hy
      obtain ⟨_, -, rfl⟩ := List.mem_map.1 hx
      obtain ⟨_, -, rfl⟩ := List.mem_map.1 hy
      simp
  · simp [Lookup.objects, Object.ofTable, Object.slot, lookupKey, lookupLabel]
  · simp

/-- No slot of a schema is taken twice. -/
theorem nodup_slots_objects {s : Schema} (hs : s.NamesApart names)
    (hlink : ∀ t ∈ s.tables, t.key ≠ t.parent.column) :
    ((s.objects names).map Object.slot).Nodup := by
  rw [objects, List.map_cons, List.nodup_cons, List.map_flatMap]
  constructor
  · intro hmem
    obtain ⟨r, hr, hx⟩ := List.mem_flatMap.1 hmem
    obtain ⟨x, hx, hslot⟩ := List.mem_map.1 hx
    have hrel := relation?_of_mem_relations names hr x hx
    rw [hslot] at hrel
    cases hrel
  · refine nodup_flatMap_of_owner Slot.relation? (fun r => some ⟨s.name, r.1⟩)
      (fun r hr => nodup_slots_relation names hs hlink hr) ?_ ?_
    · intro r hr b hb
      obtain ⟨x, hx, rfl⟩ := List.mem_map.1 hb
      exact relation?_of_mem_relations names hr x hx
    · have hnames := hs.relations
      rw [← map_fst_relations] at hnames
      have hinj : Function.Injective fun name => some (TableName.mk s.name name) := by
        intro a b h
        simpa using h
      simpa [List.map_map, Function.comp_def] using hnames.map hinj

/-- The statements of a schema create no slot twice. -/
theorem nodup_slots_createdObjects {s : Schema} (hs : s.NamesApart names)
    (hlink : ∀ t ∈ s.tables, t.key ≠ t.parent.column) :
    ((s.createdObjects names).map Object.slot).Nodup :=
  ((s.createdObjects_perm_objects names).map _).nodup_iff.2 (nodup_slots_objects names hs hlink)

variable {names} in
/-- The first phase and the later ones take slots of their own. -/
theorem nodup_slots_phases {s : Schema} (h : ((s.createdObjects names).map Object.slot).Nodup) :
    ((created s.creation).map Object.slot).Nodup ∧
      ((s.laterObjects names).map Object.slot).Nodup ∧
      ∀ x ∈ created s.creation, ∀ y ∈ s.laterObjects names, x.slot ≠ y.slot := by
  rw [createdObjects, List.map_append, List.nodup_append] at h
  obtain ⟨hfirst, hlater, hapart⟩ := h
  refine ⟨hfirst, hlater, ?_⟩
  intro x hx y hy
  exact hapart _ (List.mem_map_of_mem hx) _ (List.mem_map_of_mem hy)

end ResourceTables.Schema
