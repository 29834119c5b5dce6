import ResourceTables.Proofs.Review.Issues
import ResourceTables.Proofs.Identifier.Ancestry
import ResourceTables.Proofs.Package
import ResourceTables.Proofs.Schema.Derivation
import ResourceTables.Proofs.Schema.Objects

/-!
# ResourceTables.Proofs.Schema.Coverage

No node of a graph is lost on the way to its schema and none is used twice. Tables come from those
nodes that are collectors, and columns from the members of one collector's nodegroup at a time, so it
takes the checks of a review to know that this reaches every nodegroup (`Covers.tables`) and every
node (`Covers.column`). The definition of the schema then has one statement of each kind for each of
them (`Defines`).
-/

namespace ResourceTables

/-! ### Kinds of statements -/

namespace Sql.Statement

/-- What a statement does, without what it does it to. -/
inductive Kind
  | removal
  | schema
  | table
  | column
  | index
  | foreignKey
  | tableComment
  | columnComment
  | row
  deriving DecidableEq

/-- The kind of a statement. -/
def kind : Statement → Kind
  | dropSchema _ | dropTable _ => .removal
  | createSchema _ | ensureSchema _ => .schema
  | createTable _ _ => .table
  | addColumn _ _ _ => .column
  | createSpatialIndex _ _ _ => .index
  | addForeignKey _ _ _ _ _ => .foreignKey
  | commentOnTable _ _ => .tableComment
  | commentOnColumn _ _ _ => .columnComment
  | insert _ _ | update _ _ _ _ _ => .row

/-- The phase of a script that statements of a kind belong to. -/
def Kind.phase : Kind → Phase
  | removal | schema | table | tableComment => .tables
  | column | index | columnComment => .columns
  | row => .data
  | foreignKey => .constraints

/-- The statements of a kind, in order. -/
def ofKind (k : Kind) (statements : List Statement) : List Statement :=
  statements.filter fun st => st.kind = k

theorem ofKind_append (k : Kind) (l l' : List Statement) :
    ofKind k (l ++ l') = ofKind k l ++ ofKind k l' :=
  List.filter_append l l'

theorem ofKind_flatMap {α : Type} (k : Kind) (l : List α) (f : α → List Statement) :
    ofKind k (l.flatMap f) = l.flatMap fun a => ofKind k (f a) :=
  List.filter_flatMap

end Sql.Statement

namespace Schema

open Sql (Statement TableName Script)
open Sql.Statement (Kind ofKind ofKind_append ofKind_flatMap)

variable {source : Source} {names : Names} {language : String} {g : Graph} {s : Schema}

/-! ### Columns -/

/-- Whether a node has a column. -/
def isMapped (n : Node) : Bool := n.datatype.columnType?.isSome

theorem columnType?_of_deriveColumn? {table : String} {n : Node}
    (h : deriveColumn? source names language table n = .ok none) :
    n.datatype.columnType? = none := by
  unfold deriveColumn? at h
  cases htype : n.datatype.columnType? with
  | none => rfl
  | some type =>
    simp only [htype] at h
    by_cases hl : n.datatype.isLookup = true
    · rw [if_pos hl] at h
      obtain ⟨_, -, hend⟩ := bind_eq_ok_iff.1 h
      cases hend
    · rw [if_neg hl] at h
      cases h

/-- The columns of a table are those of the members that have one, in order. -/
theorem forall₂_of_deriveColumns {table : String} {members : List Node} {columns : List Column}
    (h : deriveColumns source names language table members = .ok columns) :
    List.Forall₂ (fun n c => deriveColumn? source names language table n = .ok (some c))
      (members.filter isMapped) columns := by
  induction members generalizing columns with
  | nil =>
    cases h
    exact .nil
  | cons n rest ih =>
    obtain ⟨column, hcolumn, h⟩ := bind_eq_ok_iff.1 h
    obtain ⟨after, hafter, h⟩ := bind_eq_ok_iff.1 h
    cases h
    cases column with
    | none =>
      rw [List.filter_cons_of_neg (by simp [isMapped, columnType?_of_deriveColumn? hcolumn])]
      exact ih hafter
    | some c =>
      obtain ⟨htype, -⟩ := deriveColumn?_eq_some_iff.1 hcolumn
      rw [List.filter_cons_of_pos (by simp [isMapped, htype])]
      exact .cons hcolumn (ih hafter)

/-- The column of a node keeps its identifier and datatype, and has a lookup table if the datatype
needs one. -/
structure IsColumnOf (names : Names) (t : Table) (n : Node) (c : Column) : Prop where
  node : c.node = n.id
  datatype : c.datatype = n.datatype
  type : c.datatype.columnType? = some c.type
  lookup : c.lookup.map Lookup.name =
    if c.datatype.isLookup then some (names.lookupTable t.name c.name) else none

theorem isColumnOf_of_deriveColumn? {t : Table} {n : Node} {c : Column}
    (h : deriveColumn? source names language t.name n = .ok (some c)) : IsColumnOf names t n c := by
  obtain ⟨htype, hnode, -, hdatatype, -, hlookup⟩ := deriveColumn?_eq_some_iff.1 h
  refine ⟨hnode, hdatatype, by rw [hdatatype, htype], ?_⟩
  rw [hdatatype]
  by_cases hl : n.datatype.isLookup = true
  · rw [if_pos hl] at hlookup ⊢
    obtain ⟨entries, -, heq⟩ := hlookup
    rw [heq]
    rfl
  · rw [if_neg hl] at hlookup ⊢
    rw [hlookup]
    rfl

/-! ### Tables -/

/-- The tables are those of the collectors, in order. -/
theorem map_nodegroup_tables (hs : IsDerived source names language g s) :
    g.collectors.map Node.id = s.tables.map Table.nodegroup := by
  refine map_eq_map_of_forall₂ hs.tables ?_
  intro collector t ht
  obtain ⟨-, -, -, -, -, hgroup, -⟩ := deriveTable_eq_ok_iff.1 ht
  exact hgroup.symm

/-- The columns of a table are those of the members of its nodegroup that have one, in order. -/
theorem forall₂_columns (hs : IsDerived source names language g s) {t : Table}
    (ht : t ∈ s.tables) :
    List.Forall₂ (IsColumnOf names t) ((g.members t.nodegroup).filter isMapped) t.columns := by
  obtain ⟨collector, -, hd⟩ := hs.exists_collector ht
  obtain ⟨-, -, -, -, hcolumns, hgroup, -⟩ := deriveTable_eq_ok_iff.1 hd
  rw [hgroup]
  exact (forall₂_of_deriveColumns hcolumns).imp fun _ _ => isColumnOf_of_deriveColumn?

/-- The node that a column was derived from. -/
theorem exists_node_of_mem_columns (hs : IsDerived source names language g s) {t : Table}
    (ht : t ∈ s.tables) {c : Column} (hc : c ∈ t.columns) :
    ∃ n ∈ g.nodes, n.nodegroup = some t.nodegroup ∧ IsColumnOf names t n c := by
  obtain ⟨n, hn, hcolumn⟩ := exists_left_of_mem (forall₂_columns hs ht) hc
  obtain ⟨hmem, hgroup⟩ := List.mem_filter.1 (List.mem_of_mem_filter hn)
  exact ⟨n, hmem, by simpa using hgroup, hcolumn⟩

end Schema

/-! ### Collectors -/

namespace Graph

variable {g : Graph}

theorem nodup_collectors (hids : (g.nodes.map Node.id).Nodup) :
    (g.collectors.map Node.id).Nodup :=
  hids.sublist (List.filter_sublist.map Node.id)

/-- The only top node collects no nodegroup if it is in none. -/
theorem Flawless.isTop_eq_false (hg : g.Flawless)
    (htop : ∀ top, g.topNode? = some top → top.nodegroup = none) {n : Node} (hn : n ∈ g.nodes)
    {id : Uuid} (hgroup : n.nodegroup = some id) : n.isTop = false := by
  obtain ⟨top, htops⟩ := hg.top
  rw [← Bool.not_eq_true]
  intro hisTop
  have hmem : n ∈ g.nodes.filter (·.isTop) := List.mem_filter.2 ⟨hn, hisTop⟩
  rw [htops, List.mem_singleton] at hmem
  have hfirst : g.topNode? = some top := by
    rw [topNode?, ← List.head?_filter, htops]
    rfl
  rw [hmem, htop top hfirst] at hgroup
  cases hgroup

/-- Where a review finds nothing, the collectors stand for all nodegroups. -/
theorem Flawless.mem_collectors_iff (hg : g.Flawless)
    (htop : ∀ top, g.topNode? = some top → top.nodegroup = none) {id : Uuid} :
    id ∈ g.collectors.map Node.id ↔ id ∈ g.nodegroups.map NodeGroup.id := by
  constructor
  · intro hid
    obtain ⟨n, hn, rfl⟩ := List.mem_map.1 hid
    have hgroup : n.nodegroup = some n.id := by
      simpa [Node.isCollector] using isCollector_of_mem_collectors hn
    exact isSome_nodegroup?_iff.1 (hg.nodegroup n (List.mem_of_mem_filter hn) n.id hgroup)
  · intro hid
    obtain ⟨group, hgroup, rfl⟩ := List.mem_map.1 hid
    obtain ⟨n, hc⟩ := Option.isSome_iff_exists.1 (hg.collector group hgroup)
    obtain ⟨hn, hid, hnodegroup⟩ := collector?_spec hc
    have hnotTop := hg.isTop_eq_false htop hn hnodegroup
    refine List.mem_map.2 ⟨n, List.mem_filter.2 ⟨hn, ?_⟩, hid⟩
    rw [hnotTop, isCollector_of_collector? hc]
    rfl

end Graph

namespace Schema

open Sql (Statement TableName Script)
open Sql.Statement (Kind ofKind ofKind_append ofKind_flatMap)

variable {source : Source} {names : Names} {language : String} {g : Graph} {s : Schema}

/-! ### Nodes and columns -/

/-- Every nodegroup has one table, and every node with a nodegroup and a column type one column. -/
structure Covers (g : Graph) (s : Schema) : Prop where
  tables : (s.tables.map Table.nodegroup).Perm (g.nodegroups.map NodeGroup.id)
  nodup : (s.tables.map Table.nodegroup).Nodup
  /-- The columns of a table follow the order of the graph. -/
  order : ∀ t ∈ s.tables,
    t.columns.map Column.node = ((g.members t.nodegroup).filter isMapped).map Node.id
  /-- A node is counted once over all tables, in the table of its nodegroup. -/
  column : ∀ n ∈ g.nodes, ∀ id, n.nodegroup = some id → isMapped n = true →
    (s.tables.flatMap fun t => t.columns.map Column.node).count n.id = 1 ∧
      ∃ t ∈ s.tables, t.nodegroup = id ∧ n.id ∈ t.columns.map Column.node
  /-- A column comes from a node of the nodegroup that has the column's type. -/
  node : ∀ t ∈ s.tables, ∀ c ∈ t.columns, ∃ n ∈ g.nodes, n.id = c.node ∧
    n.nodegroup = some t.nodegroup ∧ n.datatype.columnType? = some c.type

theorem map_node_columns (hs : IsDerived source names language g s) {t : Table}
    (ht : t ∈ s.tables) :
    t.columns.map Column.node = ((g.members t.nodegroup).filter isMapped).map Node.id :=
  (map_eq_map_of_forall₂ (forall₂_columns hs ht) fun _ _ h => h.node.symm).symm

/-- Where nodes have identifiers of their own, no two columns come from one node. -/
theorem nodup_nodes (hs : IsDerived source names language g s)
    (hids : (g.nodes.map Node.id).Nodup) :
    (s.tables.flatMap fun t => t.columns.map Column.node).Nodup := by
  have hnodup := Graph.nodup_collectors hids
  rw [map_nodegroup_tables hs] at hnodup
  -- A node tells the nodegroup of the table.
  refine nodup_flatMap_of_owner (fun id => (g.node? id).bind Node.nodegroup)
    (fun t => some t.nodegroup) ?_ ?_ ?_
  · intro t ht
    rw [map_node_columns hs ht]
    exact hids.sublist ((List.filter_sublist.trans List.filter_sublist).map Node.id)
  · intro t ht id hid
    obtain ⟨c, hc, rfl⟩ := List.mem_map.1 hid
    obtain ⟨n, hn, hgroup, hcolumn⟩ := exists_node_of_mem_columns hs ht hc
    rw [hcolumn.node, Graph.node?_of_mem hids hn]
    exact hgroup
  · simpa [List.map_map, Function.comp_def] using hnodup.map (Option.some_injective Uuid)

theorem covers_of_isDerived (hids : (g.nodes.map Node.id).Nodup)
    (hgroups : (g.nodegroups.map NodeGroup.id).Nodup)
    (htop : ∀ top, g.topNode? = some top → top.nodegroup = none) (hg : g.Flawless)
    (hs : IsDerived source names language g s) : Covers g s := by
  have hnodup := Graph.nodup_collectors hids
  have hmem {id : Uuid} : id ∈ s.tables.map Table.nodegroup ↔
      id ∈ g.nodegroups.map NodeGroup.id := by
    rw [← map_nodegroup_tables hs]
    exact hg.mem_collectors_iff htop
  rw [map_nodegroup_tables hs] at hnodup
  constructor
  case tables => exact (List.perm_ext_iff_of_nodup hnodup hgroups).2 fun _ => hmem
  case nodup => exact hnodup
  case order => exact fun t ht => map_node_columns hs ht
  case column =>
    intro n hn id hgroup hmapped
    obtain ⟨t, ht, rfl⟩ := List.mem_map.1
      (hmem.2 (Graph.isSome_nodegroup?_iff.1 (hg.nodegroup n hn id hgroup)))
    have hcolumn : n.id ∈ t.columns.map Column.node := by
      rw [map_node_columns hs ht]
      refine List.mem_map_of_mem (List.mem_filter.2 ⟨List.mem_filter.2 ⟨hn, ?_⟩, hmapped⟩)
      simp [hgroup]
    refine ⟨List.count_eq_one_of_mem (nodup_nodes hs hids) ?_, t, ht, rfl, hcolumn⟩
    exact List.mem_flatMap.2 ⟨t, ht, hcolumn⟩
  case node =>
    intro t ht c hc
    obtain ⟨n, hn, hgroup, hcolumn⟩ := exists_node_of_mem_columns hs ht hc
    exact ⟨n, hn, hcolumn.node.symm, hgroup, hcolumn.datatype ▸ hcolumn.type⟩

/-! ### Statements -/

/-- The statements of a kind in the definition of a schema. -/
def definedAs (names : Names) (s : Schema) (k : Kind) : List Statement :=
  ofKind k ((s.script names).toList.map Prod.snd)

/-- Whether a column holds a single value from a list. -/
def Column.isScalarLookup (c : Column) : Bool :=
  c.datatype = .concept || c.datatype = .domainValue

/-- The definition of a schema has one statement of each kind for each thing it is about. -/
structure Defines (names : Names) (s : Schema) : Prop where
  tables : s.definedAs names .table =
    keyedTable ⟨s.name, s.rootTable⟩ s.rootKey legacyIdColumn .text ::
      (s.tables.map fun t => keyedTable ⟨s.name, t.name⟩ t.key t.parent.column .uuid) ++
      s.tables.flatMap fun t => (t.columns.filter (·.datatype.isLookup)).map fun c =>
        keyedTable ⟨s.name, names.lookupTable t.name c.name⟩ lookupKey lookupLabel .text
  tables_length : (s.definedAs names .table).length =
    1 + s.tables.length + (s.tables.flatMap Table.columns).countP (·.datatype.isLookup)
  columns : s.definedAs names .column = s.tables.flatMap fun t => t.columns.map fun c =>
    .addColumn ⟨s.name, t.name⟩ c.name c.type
  comments : s.definedAs names .columnComment = s.tables.flatMap fun t => t.columns.map fun c =>
    .commentOnColumn ⟨s.name, t.name⟩ c.name c.node.toString
  indexes : s.definedAs names .index = s.tables.flatMap fun t =>
    (t.columns.filter fun c => c.type = .geometry).map fun c =>
      .createSpatialIndex ⟨s.name, t.name⟩ (names.spatialIndex t.name c.name) c.name
  /-- The foreign keys of the columns of a table, and that of its link. -/
  foreignKeys : s.definedAs names .foreignKey = s.tables.flatMap fun t =>
    ((t.columns.filter Column.isScalarLookup).map fun c =>
      .addForeignKey ⟨s.name, t.name⟩ (names.foreignKey c.name) c.name
        ⟨s.name, names.lookupTable t.name c.name⟩ lookupKey) ++
    [.addForeignKey ⟨s.name, t.name⟩ (names.foreignKey t.parent.column) t.parent.column
      ⟨s.name, t.parent.table⟩ t.parent.column]

theorem phase_kind_of_mem {p : Sql.Phase} {st : Statement}
    (h : st ∈ (s.script names).statements p) : st.kind.phase = p := by
  cases p with
  | tables =>
    rw [statements_tables] at h
    simp only [creation, keyedTable, List.mem_cons, List.mem_append, List.mem_flatMap,
      List.not_mem_nil, or_false] at h
    rcases h with rfl | ((rfl | rfl | rfl) | ⟨t, -, rfl | rfl⟩) | ⟨l, -, rfl⟩ <;> rfl
  | columns =>
    rw [statements_columns] at h
    obtain ⟨t, -, h⟩ := List.mem_flatMap.1 h
    obtain ⟨c, -, h⟩ := List.mem_flatMap.1 h
    by_cases hc : c.type = .geometry
    · simp only [columnScript, Script.statements, hc, ↓reduceIte, List.mem_cons,
        List.not_mem_nil, or_false] at h
      rcases h with rfl | rfl | rfl <;> rfl
    · simp only [columnScript, Script.statements, hc, ↓reduceIte, List.mem_cons,
        List.not_mem_nil, or_false] at h
      rcases h with rfl | rfl <;> rfl
  | data =>
    rw [statements_data] at h
    obtain ⟨⟨_, _, l⟩, -, h⟩ := List.mem_flatMap.1 h
    obtain ⟨e, -, rfl⟩ := List.mem_map.1 h
    rfl
  | constraints =>
    obtain ⟨t, -, ⟨c, -, l, -, -, rfl⟩ | rfl⟩ := exists_of_mem_constraints names h <;> rfl

/-- The statements of a kind are found in one phase. -/
theorem definedAs_eq (k : Kind) :
    s.definedAs names k = ofKind k ((s.script names).statements k.phase) := by
  have hother (p : Sql.Phase) (hp : p ≠ k.phase) :
      ofKind k ((s.script names).statements p) = [] := by
    refine List.filter_eq_nil_iff.2 ?_
    intro st hst hkind
    exact hp (by rw [← phase_kind_of_mem hst, of_decide_eq_true hkind])
  rw [definedAs, Script.map_snd_toList, Script.flatMap_phases]
  simp only [ofKind_append]
  cases hphase : k.phase with
  | tables =>
    rw [hother .columns (by simp [hphase]), hother .data (by simp [hphase]),
      hother .constraints (by simp [hphase])]
    simp
  | columns =>
    rw [hother .tables (by simp [hphase]), hother .data (by simp [hphase]),
      hother .constraints (by simp [hphase])]
    simp
  | data =>
    rw [hother .tables (by simp [hphase]), hother .columns (by simp [hphase]),
      hother .constraints (by simp [hphase])]
    simp
  | constraints =>
    rw [hother .tables (by simp [hphase]), hother .columns (by simp [hphase]),
      hother .data (by simp [hphase])]
    simp

/-- A column is added and commented on once, and indexed if it holds places. -/
theorem ofKind_columnScript (t : TableName) (c : Column) :
    ofKind .column ((columnScript names t c).statements .columns) =
        [.addColumn t c.name c.type] ∧
      ofKind .columnComment ((columnScript names t c).statements .columns) =
        [.commentOnColumn t c.name c.node.toString] ∧
      ofKind .index ((columnScript names t c).statements .columns) =
        if c.type = .geometry then
          [.createSpatialIndex t (names.spatialIndex t.table c.name) c.name]
        else [] := by
  by_cases hc : c.type = .geometry <;>
    simp [columnScript, Script.statements, hc, ofKind, Statement.kind]

/-- The statements for the columns of all tables, if one column has those of a kind as given. -/
theorem definedAs_columns {k : Kind} {f : Table → Column → List Statement}
    (hk : k.phase = .columns)
    (hf : ∀ t c, ofKind k ((columnScript names ⟨s.name, t.name⟩ c).statements .columns) = f t c) :
    s.definedAs names k = s.tables.flatMap fun t => t.columns.flatMap (f t) := by
  rw [definedAs_eq, hk, statements_columns, ofKind_flatMap]
  simp only [ofKind_flatMap, hf]

theorem flatMap_filter {α β : Type} (p : α → Bool) (f : α → β) (l : List α) :
    (l.flatMap fun a => if p a then [f a] else []) = (l.filter p).map f := by
  induction l with
  | nil => rfl
  | cons a l ih => by_cases ha : p a = true <;> simp [ha, ih]

/-- The lookup tables are those of the columns whose datatype needs one. -/
theorem flatMap_lookups (hs : IsDerived source names language g s) {β : Type} (f : String → β) :
    (s.lookups.flatMap fun (_, _, l) => [f l.name]) =
      s.tables.flatMap fun t => (t.columns.filter (·.datatype.isLookup)).map fun c =>
        f (names.lookupTable t.name c.name) := by
  rw [lookups, List.flatMap_assoc]
  refine List.flatMap_congr ?_
  intro t ht
  rw [List.filterMap_eq_flatMap_toList, List.flatMap_assoc, ← flatMap_filter]
  refine List.flatMap_congr ?_
  intro c hc
  obtain ⟨_, -, -, hcolumn⟩ := exists_node_of_mem_columns hs ht hc
  have hlookup := hcolumn.lookup
  split at hlookup
  case isTrue hl =>
    obtain ⟨l, hsome, hname⟩ := Option.map_eq_some_iff.1 hlookup
    simp [hsome, hname, hl]
  case isFalse hl =>
    rw [Option.map_eq_none_iff] at hlookup
    simp [hlookup, hl]

theorem definedAs_table (hs : IsDerived source names language g s) :
    s.definedAs names .table =
      keyedTable ⟨s.name, s.rootTable⟩ s.rootKey legacyIdColumn .text ::
        (s.tables.map fun t => keyedTable ⟨s.name, t.name⟩ t.key t.parent.column .uuid) ++
        s.tables.flatMap fun t => (t.columns.filter (·.datatype.isLookup)).map fun c =>
          keyedTable ⟨s.name, names.lookupTable t.name c.name⟩ lookupKey lookupLabel .text := by
  have hlookups := flatMap_lookups hs fun name =>
    keyedTable ⟨s.name, name⟩ lookupKey lookupLabel .text
  rw [definedAs_eq, Kind.phase, statements_tables, ← hlookups]
  simp only [creation, ← List.cons_append, ofKind_append, ofKind_flatMap]
  congr 2
  rw [List.map_eq_flatMap]
  rfl

theorem isScalarLookup_iff {c : Column} (h : c.datatype.columnType? = some c.type) :
    c.isScalarLookup = true ↔ c.datatype.isLookup = true ∧ c.type = .uuid := by
  have htype : some c.type = c.datatype.columnType? := h.symm
  unfold Column.isScalarLookup
  cases hd : c.datatype <;> rw [hd] at htype <;>
    simp_all [Datatype.columnType?, Datatype.isLookup]

/-- A column refers to its lookup table if it holds a single value from it. -/
theorem constraints_columnScript {t : Table} {n : Node} {c : Column} (h : IsColumnOf names t n c) :
    (columnScript names ⟨s.name, t.name⟩ c).statements .constraints =
      if c.isScalarLookup then
        [.addForeignKey ⟨s.name, t.name⟩ (names.foreignKey c.name) c.name
          ⟨s.name, names.lookupTable t.name c.name⟩ lookupKey]
      else [] := by
  have hscalar := isScalarLookup_iff h.type
  have hlookup := h.lookup
  split at hlookup
  case isTrue hl =>
    obtain ⟨l, hsome, hname⟩ := Option.map_eq_some_iff.1 hlookup
    simp [columnScript, Script.statements, hsome, hname, hscalar, hl]
  case isFalse hl =>
    rw [Option.map_eq_none_iff] at hlookup
    simp [columnScript, Script.statements, hlookup, hscalar, hl]

theorem definedAs_foreignKey (hs : IsDerived source names language g s) :
    s.definedAs names .foreignKey = s.tables.flatMap fun t =>
      ((t.columns.filter Column.isScalarLookup).map fun c =>
        .addForeignKey ⟨s.name, t.name⟩ (names.foreignKey c.name) c.name
          ⟨s.name, names.lookupTable t.name c.name⟩ lookupKey) ++
      [.addForeignKey ⟨s.name, t.name⟩ (names.foreignKey t.parent.column) t.parent.column
        ⟨s.name, t.parent.table⟩ t.parent.column] := by
  rw [definedAs_eq, Kind.phase, statements_constraints, ofKind_flatMap]
  refine List.flatMap_congr ?_
  intro t ht
  rw [ofKind_append, ofKind_flatMap, ← flatMap_filter]
  refine congrArg₂ (· ++ ·) (List.flatMap_congr ?_) rfl
  intro c hc
  obtain ⟨_, -, -, hcolumn⟩ := exists_node_of_mem_columns hs ht hc
  rw [constraints_columnScript hcolumn]
  split <;> rfl

theorem defines_of_isDerived (hs : IsDerived source names language g s) : Defines names s where
  tables := definedAs_table hs
  tables_length := by
    rw [definedAs_table hs]
    simp [List.length_flatMap, List.countP_eq_length_filter, List.filter_flatMap]
    omega
  columns := by
    simp only [List.map_eq_flatMap]
    exact definedAs_columns rfl fun t c => (ofKind_columnScript ⟨s.name, t.name⟩ c).1
  comments := by
    simp only [List.map_eq_flatMap]
    exact definedAs_columns rfl fun t c => (ofKind_columnScript ⟨s.name, t.name⟩ c).2.1
  indexes := by
    simp only [← flatMap_filter, decide_eq_true_eq]
    exact definedAs_columns rfl fun t c => (ofKind_columnScript ⟨s.name, t.name⟩ c).2.2
  foreignKeys := definedAs_foreignKey hs

/-! ### The schema of a reviewed graph -/

/-- A schema that is derived from a graph in which a review finds nothing leaves no node out and uses
none twice, as long as nodes and nodegroups have identifiers of their own and the top node is in no
nodegroup; and its definition has the statements for just these tables and columns. -/
theorem derive_covers (source : Source) (names : Names) (language : String) (g : Graph) (s : Schema)
    (hids : (g.nodes.map Node.id).Nodup) (hgroups : (g.nodegroups.map NodeGroup.id).Nodup)
    (htop : ∀ top, g.topNode? = some top → top.nodegroup = none) (hissues : g.issues = [])
    (h : derive source names language g = .ok s) : Covers g s ∧ Defines names s := by
  have hs := isDerived_of_derive h
  exact ⟨covers_of_isDerived hids hgroups htop (Graph.issues_eq_nil_iff.1 hissues) hs,
    defines_of_isDerived hs⟩

theorem derive_covers_siteGraph :
    siteGraph.issues = [] ∧ ∃ s, derive (.ofPackage sitePackage) {} "en" siteGraph = .ok s ∧
      s.tables.map (fun t => (t.name, t.columns.map Column.name)) =
        [("phase", ["phase"]), ("phase_part", ["part", "kind", "outline"])] ∧
      Covers siteGraph s ∧ Defines {} s := by
  have hissues : siteGraph.issues = [] := by decide +kernel
  have h : ((derive (.ofPackage sitePackage) {} "en" siteGraph).map
      fun s => s.tables.map fun t => (t.name, t.columns.map Column.name)) =
        .ok [("phase", ["phase"]), ("phase_part", ["part", "kind", "outline"])] := by
    rw [Source.ofPackage_eq]
    decide +kernel
  obtain ⟨s, hs, htables⟩ := map_eq_ok_iff.1 h
  exact ⟨hissues, s, hs, htables,
    derive_covers _ _ _ _ s (by decide) (by decide) (by decide) hissues hs⟩

end Schema

end ResourceTables
