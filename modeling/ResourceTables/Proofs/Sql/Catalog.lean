import Mathlib.Data.List.Nodup
import ResourceTables.Sql.Statement

/-!
# ResourceTables.Proofs.Sql.Catalog

What statements do to a database, as far as its **catalog** goes: which schemas, tables, columns,
keys, indexes and constraints there are. Rows are left out.

Design points:

* A catalog is a list of objects, in the order in which they were created. What may exist only once
  is the **slot** of an object: a table and an index of one schema share their slots, and a column
  takes the same slot whatever its type.
* A statement that only creates things is told by what it needs (`Catalog.Requires`) and by what it
  adds (`Statement.creates`). `Builds` is the property of a list of such statements that is proved
  of scripts: run where its base is there and the names it creates are free, it adds exactly what
  its statements create. It composes without side conditions (`Builds.append`, `Builds.flatMap`),
  since the names it creates are only required to be distinct where it is used.
-/

namespace ResourceTables.Sql

/-- What a database may hold, apart from rows. -/
inductive Object
  | schema (name : String)
  | table (name : TableName)
  /-- An index of the table `table`, in the schema of that table. -/
  | index (name : TableName) (table : String)
  | column (table : TableName) (name : String) (type : ColumnType)
  /-- The column that is the primary key of a table. -/
  | key (table : TableName) (column : String)
  | constraint (table : TableName) (name : String)
  deriving DecidableEq

/-- What can be taken only once. -/
inductive Slot
  | schema (name : String)
  /-- The name of a table or of an index. -/
  | relation (name : TableName)
  | column (table : TableName) (name : String)
  | key (table : TableName)
  | constraint (table : TableName) (name : String)
  deriving DecidableEq

/-- The schema a slot belongs to. -/
def Slot.home : Slot → String
  | schema name => name
  | relation name => name.schema
  | column table _ | key table | constraint table _ => table.schema

/-- The table or index that a slot goes with. -/
def Slot.relation? : Slot → Option TableName
  | schema _ => none
  | relation name => some name
  | column t _ | key t | constraint t _ => some t

namespace Object

/-- The slot an object takes. -/
def slot : Object → Slot
  | schema name => .schema name
  | table name | index name _ => .relation name
  | column t name _ => .column t name
  | key t _ => .key t
  | constraint t name => .constraint t name

/-- The schema an object belongs to. -/
def home (x : Object) : String := x.slot.home

/-- Whether an object is a table or goes with it. -/
def isOf (t : TableName) : Object → Bool
  | schema _ => false
  | table name => name = t
  | index name of => name.schema = t.schema && of = t.table
  | column t' _ _ | key t' _ | constraint t' _ => t' = t

/-- A table, its key and its columns. -/
def ofTable (t : TableName) (key : String) (columns : List (String × ColumnType)) : List Object :=
  .table t :: .key t key :: columns.map fun c => .column t c.1 c.2

end Object

namespace Statement

/-- What a statement adds to a catalog. -/
def creates : Statement → List Object
  | createSchema schema => [.schema schema]
  | createTable t columns =>
    .table t :: ((columns.filter (·.isKey)).map fun c => .key t c.name) ++
      columns.map fun c => .column t c.name c.type
  | addColumn t column type => [.column t column type]
  | addForeignKey t name _ _ _ => [.constraint t name]
  | createSpatialIndex t index _ => [.index ⟨t.schema, index⟩ t.table]
  | _ => []

/-- Whether a statement removes nothing and never passes over what it finds. -/
def isAdditive : Statement → Bool
  | dropSchema _ | ensureSchema _ | dropTable _ => false
  | _ => true

/-- Whether a statement writes rows, which a catalog does not show. -/
def writesRow : Statement → Bool
  | insert .. | update .. => true
  | _ => false

theorem isAdditive_of_writesRow {st : Statement} (h : st.writesRow = true) :
    st.isAdditive = true := by
  cases st <;> first | rfl | cases h

/-- What statements add to a catalog. -/
def created (statements : List Statement) : List Object := statements.flatMap creates

@[simp] theorem created_nil : created [] = [] := rfl

@[simp] theorem created_cons (st : Statement) (statements : List Statement) :
    created (st :: statements) = st.creates ++ created statements := rfl

@[simp] theorem created_append (l l' : List Statement) :
    created (l ++ l') = created l ++ created l' := by
  simp [created]

theorem created_flatMap {α : Type} (l : List α) (f : α → List Statement) :
    created (l.flatMap f) = l.flatMap fun a => created (f a) := by
  simp [created, List.flatMap_assoc]

theorem created_of_writesRow {l : List Statement} (h : ∀ st ∈ l, st.writesRow = true) :
    created l = [] := by
  rw [created, List.flatMap_eq_nil_iff]
  intro st hst
  have hrow := h st hst
  cases st <;> first | rfl | cases hrow

end Statement

/-- What a database holds, apart from rows. -/
abbrev Catalog := List Object

namespace Catalog

variable {c c' : Catalog}

/-- Whether a table has a column of a name. -/
def HasColumn (c : Catalog) (t : TableName) (column : String) : Prop :=
  .column t column ∈ c.map Object.slot

/-- The types of the columns of a name. -/
def columnTypes (c : Catalog) (t : TableName) (column : String) : List ColumnType :=
  c.filterMap fun
    | .column t' name type => if t' = t ∧ name = column then some type else none
    | _ => none

theorem mem_columnTypes {t : TableName} {column : String} {type : ColumnType} :
    type ∈ c.columnTypes t column ↔ .column t column type ∈ c := by
  simp only [columnTypes, List.mem_filterMap]
  constructor
  · rintro ⟨x, hx, h⟩
    cases x <;> simp_all
  · intro h
    exact ⟨_, h, by simp⟩

/-- What must be there for a statement to succeed. A foreign key leads to the primary key of a
table, whose type is that of the column itself; `DROP TABLE` does not take an index. -/
def Requires (c : Catalog) : Statement → Prop
  | .dropSchema _ | .createSchema _ | .ensureSchema _ => True
  | .dropTable t => ∀ x ∈ c, x.slot = .relation t → x = .table t
  | .createTable t _ => .schema t.schema ∈ c
  | .addColumn t _ _ => .table t ∈ c
  | .addForeignKey t _ column target targetColumn =>
    .table t ∈ c ∧ .table target ∈ c ∧ .key target targetColumn ∈ c ∧
      ∃ type ∈ c.columnTypes t column, .column target targetColumn type ∈ c
  | .createSpatialIndex t _ column => .table t ∈ c ∧ c.HasColumn t column
  | .commentOnTable t _ => .table t ∈ c
  | .commentOnColumn t column _ => .table t ∈ c ∧ c.HasColumn t column
  | .insert t fields =>
    .table t ∈ c ∧ (∀ field ∈ fields, c.HasColumn t field.1) ∧ (fields.map Prod.fst).Nodup
  | .update t column _ keyColumn _ => .table t ∈ c ∧ c.HasColumn t column ∧ c.HasColumn t keyColumn

/-- Nothing that a statement adds is there already or is added twice. -/
def Admits (c : Catalog) (st : Statement) : Prop :=
  (st.creates.map Object.slot).Nodup ∧ ∀ x ∈ st.creates, x.slot ∉ c.map Object.slot

instance (c : Catalog) (t : TableName) (column : String) : Decidable (c.HasColumn t column) :=
  inferInstanceAs (Decidable (_ ∈ _))

instance (c : Catalog) : DecidablePred c.Requires
  | .dropSchema _ | .createSchema _ | .ensureSchema _ => inferInstanceAs (Decidable True)
  | .dropTable _ => inferInstanceAs (Decidable (∀ x ∈ c, _ → _))
  | .createTable .. | .addColumn .. | .commentOnTable .. => inferInstanceAs (Decidable (_ ∈ c))
  | .addForeignKey .. => inferInstanceAs (Decidable (_ ∧ _ ∧ _ ∧ ∃ type ∈ _, _))
  | .createSpatialIndex .. | .commentOnColumn .. => inferInstanceAs (Decidable (_ ∧ _))
  | .insert .. => inferInstanceAs (Decidable (_ ∧ (∀ field ∈ _, _) ∧ _))
  | .update .. => inferInstanceAs (Decidable (_ ∧ _ ∧ _))

instance (c : Catalog) : DecidablePred c.Admits := fun _ =>
  inferInstanceAs (Decidable (_ ∧ ∀ x ∈ _, _))

/-! ### Running statements -/

/-- The catalog after a statement; nothing if the statement fails. -/
def step (c : Catalog) : Statement → Option Catalog
  | .dropSchema schema => some (c.filter fun x => x.home ≠ schema)
  | .ensureSchema schema => some (if .schema schema ∈ c then c else c ++ [.schema schema])
  | .dropTable t =>
    if c.Requires (.dropTable t) then some (c.filter fun x => !x.isOf t) else none
  | st => if c.Requires st ∧ c.Admits st then some (c ++ st.creates) else none

/-- The catalog after some statements; nothing if one of them fails. -/
def run (c : Catalog) (statements : List Statement) : Option Catalog := statements.foldlM step c

@[simp] theorem run_nil (c : Catalog) : c.run [] = some c := rfl

theorem run_cons (c : Catalog) (st : Statement) (statements : List Statement) :
    c.run (st :: statements) = (c.step st).bind fun d => run d statements := rfl

theorem run_append {l l' : List Statement} (h : c.run l = some c') :
    c.run (l ++ l') = run c' l' := by
  unfold run at *
  rw [List.foldlM_append, h]
  rfl

theorem step_of_isAdditive {st : Statement} (hst : st.isAdditive = true)
    (hreq : c.Requires st) (hadm : c.Admits st) : c.step st = some (c ++ st.creates) := by
  cases st with
  | dropSchema | ensureSchema | dropTable => cases hst
  | _ => exact if_pos ⟨hreq, hadm⟩

/-- What a statement that only adds needs is still there in a larger catalog. -/
theorem Requires.mono {st : Statement} (hst : st.isAdditive = true) (hsub : c ⊆ c')
    (h : c.Requires st) : c'.Requires st := by
  have hcol {t : TableName} {column : String} (hc : c.HasColumn t column) :
      c'.HasColumn t column :=
    List.map_subset _ hsub hc
  cases st with
  | dropSchema | ensureSchema | dropTable => cases hst
  | createSchema => trivial
  | createTable | addColumn | commentOnTable => exact hsub h
  | addForeignKey =>
    obtain ⟨ht, htarget, hkey, type, htype, htypes⟩ := h
    exact ⟨hsub ht, hsub htarget, hsub hkey, type,
      mem_columnTypes.2 (hsub (mem_columnTypes.1 htype)), hsub htypes⟩
  | createSpatialIndex | commentOnColumn => exact ⟨hsub h.1, hcol h.2⟩
  | insert => exact ⟨hsub h.1, fun field hf => hcol (h.2.1 field hf), h.2.2⟩
  | update => exact ⟨hsub h.1, hcol h.2.1, hcol h.2.2⟩

theorem HasColumn.of_mem {t : TableName} {column : String} (type : ColumnType)
    (h : .column t column type ∈ c) : c.HasColumn t column :=
  List.mem_map.2 ⟨_, h, rfl⟩

end Catalog

/-! ### Statements that build on a catalog -/

open Statement (created)

/-- Run where `base` is there and the names they create are free, the statements succeed and add
what they create, provided they create no name twice. -/
def Builds (base : Catalog) (statements : List Statement) : Prop :=
  ((created statements).map Object.slot).Nodup → ∀ c : Catalog, base ⊆ c →
    (∀ x ∈ created statements, x.slot ∉ c.map Object.slot) →
    c.run statements = some (c ++ created statements)

namespace Builds

variable {base : Catalog}

theorem nil : Builds base [] := by
  intro _ c _ _
  simp

/-- A single statement that finds what it needs. -/
theorem single {st : Statement} (hst : st.isAdditive = true) (hreq : base.Requires st) :
    Builds base [st] := by
  intro hnodup c hbase hfree
  rw [Statement.created_cons, Statement.created_nil, List.append_nil] at hnodup hfree ⊢
  rw [Catalog.run_cons, Catalog.step_of_isAdditive hst (hreq.mono hst hbase) ⟨hnodup, hfree⟩,
    Option.bind_some, Catalog.run_nil]

theorem append {l l' : List Statement} (h : Builds base l) (h' : Builds (base ++ created l) l') :
    Builds base (l ++ l') := by
  intro hnodup c hbase hfree
  rw [Statement.created_append, List.map_append, List.nodup_append] at hnodup
  obtain ⟨hleft, hright, hapart⟩ := hnodup
  rw [Statement.created_append] at hfree
  rw [Catalog.run_append (h hleft c hbase fun x hx => hfree x (List.mem_append_left _ hx)),
    h' hright (c ++ created l), Statement.created_append, List.append_assoc]
  · exact List.append_subset.2 ⟨List.subset_append_of_subset_left _ hbase,
      List.subset_append_right _ _⟩
  · intro x hx hmem
    rw [List.map_append, List.mem_append] at hmem
    rcases hmem with hmem | hmem
    · exact hfree x (List.mem_append_right _ hx) hmem
    · exact hapart _ hmem _ (List.mem_map_of_mem hx) rfl

theorem cons {st : Statement} {statements : List Statement} (hst : st.isAdditive = true)
    (hreq : base.Requires st) (h : Builds (base ++ st.creates) statements) :
    Builds base (st :: statements) := by
  have hcreated : created [st] = st.creates := List.append_nil _
  exact (single hst hreq).append (hcreated ▸ h)

theorem mono {base' : Catalog} {l : List Statement} (hsub : base ⊆ base') (h : Builds base l) :
    Builds base' l := by
  intro hnodup c hbase hfree
  exact h hnodup c (List.Subset.trans hsub hbase) hfree

/-- Pieces that build on one base do so together. -/
theorem flatMap {α : Type} {l : List α} {f : α → List Statement}
    (h : ∀ a ∈ l, Builds base (f a)) : Builds base (l.flatMap f) := by
  induction l with
  | nil => exact nil
  | cons a l ih =>
    rw [List.flatMap_cons]
    refine (h a List.mem_cons_self).append ?_
    exact (ih fun b hb => h b (List.mem_cons_of_mem _ hb)).mono (List.subset_append_left _ _)

/-- Statements that each find what they need. -/
theorem of_forall {l : List Statement} (h : ∀ st ∈ l, st.isAdditive = true ∧ base.Requires st) :
    Builds base l := by
  rw [← List.flatMap_singleton' l]
  refine flatMap ?_
  intro st hst
  exact single (h st hst).1 (h st hst).2

end Builds

end ResourceTables.Sql
