import ResourceTables.Proofs.Package
import ResourceTables.Proofs.Export.Insertions
import ResourceTables.Proofs.Schema.Identifiers
import ResourceTables.Proofs.Sql.Insertion

/-!
# ResourceTables.Proofs.Export.Registry

The registry is a map of the columns that are added to tables. The rows that an export inserts into it
are read back from their texts (`Registry.readEntry`), and there is one for each column, in the order in
which the columns are added, that tells the node it was derived from (`registry_maps_columns`).
-/

namespace ResourceTables

open Schema (keyedTable lookupKey lookupLabel)
open Sql (Expression Phase Script Statement TableName stored)
open Sql.Statement (ofKind)

/-! ### Entries -/

/-- What a row of the registry tells about a column. -/
structure Registry.Entry where
  graph : Uuid
  graphName : String
  nodegroup : Uuid
  nodegroupName : String
  cardinality : String
  node : Uuid
  nodeName : String
  datatype : String
  schema : String
  table : String
  column : String
  type : String
  lookup : Option String

namespace Registry

/-- Reads a row of the registry from the text of its insertion. -/
def readEntry (registry : TableName) (text : String) : Option Entry := do
  let (t, fields) ← Sql.readInsert text
  if t = registry ∧ fields.map Prod.fst = columns.map Prod.fst then
    match fields.map Prod.snd with
    | [some graph, some graphName, some nodegroup, some nodegroupName, some cardinality, some node,
        some nodeName, some datatype, some schema, some table, some column, some type, lookup] =>
      return {
        graph := ← Uuid.parse? graph, graphName
        nodegroup := ← Uuid.parse? nodegroup, nodegroupName, cardinality
        node := ← Uuid.parse? node, nodeName, datatype
        schema, table, column, type, lookup }
    | _ => none
  else none

/-- The entry of a column. -/
def entry (s : Schema) (t : Schema.Table) (c : Schema.Column) : Entry where
  graph := s.graph
  graphName := stored s.graphName
  nodegroup := t.nodegroup
  nodegroupName := stored t.nodegroupName
  cardinality := stored t.cardinality.mark
  node := c.node
  nodeName := stored c.nodeName
  datatype := stored c.datatype.tag
  schema := stored s.name
  table := stored t.name
  column := stored c.name
  type := stored c.type.sql
  lookup := c.lookup.map fun l => stored l.name

/-- What is stored in the fields of the row of a column. -/
def contents (s : Schema) (t : Schema.Table) (c : Schema.Column) : List (Option String) :=
  [some s.graph.toString, some (stored s.graphName), some t.nodegroup.toString,
    some (stored t.nodegroupName), some (stored t.cardinality.mark), some c.node.toString,
    some (stored c.nodeName), some (stored c.datatype.tag), some (stored s.name),
    some (stored t.name), some (stored c.name), some (stored c.type.sql),
    c.lookup.map fun l => stored l.name]

theorem forall₂_contents (s : Schema) (t : Schema.Table) (c : Schema.Column) :
    List.Forall₂ (fun f content => f.2.content? = some content)
      ((columns.map Prod.fst).zip (row s t c)) (contents s t c) := by
  have hlookup : (Expression.textOrNull (c.lookup.map Schema.Lookup.name)).content? =
      some (c.lookup.map fun l => stored l.name) := by
    cases c.lookup <;> rfl
  iterate 12 refine .cons rfl ?_
  exact .cons hlookup .nil

/-- The row of a column is read back as its entry. -/
theorem readEntry_row (registry : TableName) (s : Schema) (t : Schema.Table) (c : Schema.Column) :
    readEntry registry (Insertion.statement registry (.column s t c)).render =
      some (entry s t c) := by
  have hne : (columns.map Prod.fst).zip (row s t c) ≠ [] := List.cons_ne_nil _ _
  have hread := Sql.readInsert_render (t := registry) hne (forall₂_contents s t c)
  have hnames : ((((columns.map Prod.fst).zip (row s t c)).map Prod.fst).zip
      (contents s t c)).map Prod.fst = columns.map Prod.fst := rfl
  have hcontents : ((((columns.map Prod.fst).zip (row s t c)).map Prod.fst).zip
      (contents s t c)).map Prod.snd = contents s t c := rfl
  rw [readEntry, Insertion.statement, hread, Option.bind_eq_bind, Option.bind_some]
  dsimp only
  rw [if_pos ⟨rfl, hnames⟩, hcontents, contents]
  dsimp only
  rw [Uuid.parse?_toString, Uuid.parse?_toString, Uuid.parse?_toString]
  rfl

end Registry

/-- A slug has no characters that a literal cannot hold. -/
theorem IsSlug.stored_eq {s : String} (h : IsSlug s) : stored s = s := by
  refine Sql.stored_eq_self fun hmem => ?_
  rcases h _ hmem with h | h <;> exact absurd h (by decide)

theorem stored_sql (type : ColumnType) : stored type.sql = type.sql := by
  cases type <;> decide

theorem stored_mark (cardinality : Cardinality) : stored cardinality.mark = cardinality.mark := by
  cases cardinality <;> decide

/-! ### Rows and columns -/

/-- Whether a statement inserts a row into a table. -/
def Sql.Statement.insertsInto (t : TableName) : Statement → Bool
  | insert t' _ => t' = t
  | _ => false

variable {source : Source} {o : ExportOptions} {e : Export} {warnings : List Rows.Warning}

/-- Of the insertions for a schema, those for its columns go into the registry. -/
theorem Schema.filter_insertsInto_insertions {s : Schema} (hname : s.name ≠ o.registry.schema) :
    (s.insertions source o).filter (fun i => (i.statement o.registry).insertsInto o.registry) =
      s.columnInsertions := by
  have hother {table : String} : ¬ decide (⟨s.name, table⟩ = o.registry) = true := fun heq =>
    hname (congrArg TableName.schema (of_decide_eq_true heq))
  have hentries : s.entryInsertions.filter
      (fun i => (i.statement o.registry).insertsInto o.registry) = [] := by
    refine List.filter_eq_nil_iff.2 fun i hi => ?_
    obtain ⟨⟨_, _, l⟩, -, hi⟩ := List.mem_flatMap.1 hi
    obtain ⟨entry, -, rfl⟩ := List.mem_map.1 hi
    exact hother
  have hcolumns : s.columnInsertions.filter
      (fun i => (i.statement o.registry).insertsInto o.registry) = s.columnInsertions := by
    refine List.filter_eq_self.2 fun i hi => ?_
    obtain ⟨t, -, hi⟩ := List.mem_flatMap.1 hi
    obtain ⟨c, -, rfl⟩ := List.mem_map.1 hi
    exact decide_eq_true rfl
  have hrecords : (if o.includeRows then s.recordInsertions source else []).filter
      (fun i => (i.statement o.registry).insertsInto o.registry) = [] := by
    refine List.filter_eq_nil_iff.2 fun i hi => ?_
    split at hi
    · rcases List.mem_append.1 hi with hi | hi
      · obtain ⟨r, -, rfl⟩ := List.mem_map.1 hi
        exact hother
      · obtain ⟨table, -, hi⟩ := List.mem_flatMap.1 hi
        obtain ⟨t, -, rfl⟩ := List.mem_map.1 hi
        exact hother
    · cases hi
  rw [insertions, List.filter_append, List.filter_append, hentries, hcolumns, hrecords,
    List.nil_append, List.append_nil]

/-- The rows that an export inserts into the registry. -/
theorem filter_insertsInto_export (h : export? source o = (.ok e, warnings)) :
    (e.script.statements .data).filter (Statement.insertsInto o.registry) =
      e.schemas.flatMap fun s => s.tables.flatMap fun t => t.columns.map fun c =>
        Insertion.statement o.registry (.column s t c) := by
  have hnarrow : (e.script.statements .data).filter (Statement.insertsInto o.registry) =
      ((e.script.statements .data).filter Statement.isInsert).filter
        (Statement.insertsInto o.registry) := by
    rw [List.filter_filter]
    refine List.filter_congr fun st _ => ?_
    cases st <;> simp [Statement.insertsInto, Statement.isInsert]
  have hapart : ∀ s ∈ e.schemas, s.name ≠ o.registry.schema := by
    obtain ⟨parts, -, hparts, hschemas, -⟩ := exists_parts h
    rw [hschemas]
    exact List.forall_mem_map.2 fun p hp => (hparts p hp).apart
  rw [hnarrow, filter_isInsert_export h, List.filter_map, List.filter_flatMap, List.map_flatMap]
  refine List.flatMap_congr fun s hs => ?_
  have hinsertions : (s.insertions source o).filter
      (fun i => (i.statement o.registry).insertsInto o.registry) = s.columnInsertions :=
    Schema.filter_insertsInto_insertions (hapart s hs)
  exact (congrArg (List.map _) hinsertions).trans (by
    rw [Schema.columnInsertions, List.map_flatMap]
    simp only [List.map_map]
    rfl)

/-- The columns that an export adds. -/
theorem ofKind_column_export (h : export? source o = (.ok e, warnings)) :
    ofKind .column (e.script.statements .columns) =
      e.schemas.flatMap fun s => s.tables.flatMap fun t => t.columns.map fun c =>
        .addColumn ⟨s.name, t.name⟩ c.name c.type := by
  obtain ⟨parts, -, hparts, hschemas, hscript, -⟩ := exists_parts h
  have hregistry : (Registry.tableScript o.registry).statements .columns = [] := rfl
  rw [hscript, Script.statements_append, hregistry, List.nil_append, Script.statements_concat,
    List.flatMap_map, Sql.Statement.ofKind_flatMap, hschemas, List.flatMap_map]
  refine List.flatMap_congr fun p hp => ?_
  rw [p.statements_of_ne_data o (by decide)]
  have hs := Schema.isDerived_of_derive (hparts p hp).derived
  exact (Schema.definedAs_eq .column).symm.trans (Schema.defines_of_isDerived hs).columns

/-! ### The registry and the columns -/

/-- An entry of the registry tells of an added column which node of which graph it comes from, and
where its lookup table is. -/
structure Registry.Entry.Describes (entry : Entry) (o : ExportOptions) (e : Export)
    (added : Statement) (g : Graph) (collector : Node) (group : NodeGroup) (node : Node)
    (type : ColumnType) : Prop where
  graph_eq : entry.graph = g.id
  graphName_eq : entry.graphName = stored (g.name.resolve o.language defaultLanguage)
  collector_mem : collector ∈ g.collectors
  nodegroup_eq : entry.nodegroup = collector.id
  nodegroupName_eq : entry.nodegroupName = stored collector.name
  group_eq : g.nodegroup? collector.id = some group
  cardinality_eq : entry.cardinality = group.cardinality.mark
  /-- The node lies in the nodegroup. -/
  node_mem : node ∈ g.members collector.id
  node_eq : entry.node = node.id
  nodeName_eq : entry.nodeName = stored node.name
  datatype_eq : entry.datatype = stored node.datatype.tag
  columnType_eq : node.datatype.columnType? = some type
  type_eq : entry.type = type.sql
  added_eq : added = .addColumn ⟨entry.schema, entry.table⟩ entry.column type
  lookup_eq_none_iff : entry.lookup = none ↔ node.datatype.isLookup = false
  lookup_mem : ∀ name ∈ entry.lookup,
    keyedTable ⟨entry.schema, name⟩ lookupKey lookupLabel .text ∈ e.script.statements .tables

/-- A row of the registry is read as the entry of an added column. -/
def Registry.Maps (source : Source) (o : ExportOptions) (e : Export) (row added : Statement) :
    Prop :=
  ∃ g ∈ selectedGraphs source o, ∃ entry collector group node type,
    readEntry o.registry row.render = some entry ∧
      entry.Describes o e added g collector group node type

theorem Part.IsOf.describes_entry {p : Part} (hp : p.IsOf source o) {t : Schema.Table}
    (ht : t ∈ p.schema.tables) {c : Schema.Column} (hc : c ∈ t.columns)
    (hlookups : ∀ st ∈ (p.script o).statements .tables, st ∈ e.script.statements .tables) :
    ∃ collector group node type, (Registry.entry p.schema t c).Describes o e
      (.addColumn ⟨p.schema.name, t.name⟩ c.name c.type) p.graph collector group node type := by
  have hs := Schema.isDerived_of_derive hp.derived
  have hslugs := Schema.slugged_of_isDerived hs
  have htslugs := hslugs.tables t ht
  obtain ⟨collector, hcollector, hd⟩ := hs.exists_collector ht
  obtain ⟨group, hgroup, -, -, hcolumns, hid, hname, hcardinality, -⟩ :=
    Schema.deriveTable_eq_ok_iff.1 hd
  obtain ⟨node, hnode, hcolumn⟩ := Schema.exists_node_of_mem_deriveColumns hcolumns hc
  obtain ⟨htype, hnodeId, hnodeName, hdatatype, -, hlookup⟩ :=
    Schema.deriveColumn?_eq_some_iff.1 hcolumn
  refine ⟨collector, group, node, c.type, ?_⟩
  constructor
  case graph_eq => exact hs.graph_eq
  case graphName_eq => exact congrArg stored (Schema.graphName_of_derive hp.derived)
  case collector_mem => exact hcollector
  case nodegroup_eq => exact hid
  case nodegroupName_eq => exact congrArg stored hname
  case group_eq => exact hgroup
  case cardinality_eq => exact (stored_mark _).trans (congrArg Cardinality.mark hcardinality)
  case node_mem => exact hnode
  case node_eq => exact hnodeId
  case nodeName_eq => exact congrArg stored hnodeName
  case datatype_eq => exact congrArg (fun d => stored (Datatype.tag d)) hdatatype
  case columnType_eq => exact htype
  case type_eq => exact stored_sql _
  case added_eq =>
    rw [Registry.entry, hslugs.name.stored_eq, htslugs.name.stored_eq,
      (htslugs.columns c hc).stored_eq]
  case lookup_eq_none_iff =>
    rw [Registry.entry, Option.map_eq_none_iff]
    by_cases hl : node.datatype.isLookup = true
    · rw [if_pos hl] at hlookup
      obtain ⟨entries, -, heq⟩ := hlookup
      simp [heq, hl]
    · rw [if_neg hl] at hlookup
      simp [hlookup, hl]
  case lookup_mem =>
    intro name hname
    obtain ⟨l, hl, rfl⟩ := Option.map_eq_some_iff.1 hname
    refine hlookups _ ?_
    rw [p.statements_of_ne_data o (by decide), Schema.statements_tables, Registry.entry,
      hslugs.name.stored_eq, (htslugs.lookups c hc l hl).stored_eq]
    refine List.mem_cons_of_mem _ (List.mem_append_right _ ?_)
    refine List.mem_flatMap.2 ⟨(t, c, l), ?_, List.mem_singleton_self _⟩
    refine List.mem_flatMap.2 ⟨t, ht, List.mem_filterMap.2 ⟨c, hc, ?_⟩⟩
    rw [hl]
    rfl

/-- The rows that an export inserts into the registry are, one by one and in order, those of the
columns that it adds. -/
theorem registry_maps_columns (source : Source) (o : ExportOptions) (e : Export)
    (warnings : List Rows.Warning) (h : export? source o = (.ok e, warnings)) :
    List.Forall₂ (Registry.Maps source o e)
      ((e.script.statements .data).filter (Statement.insertsInto o.registry))
      (ofKind .column (e.script.statements .columns)) := by
  rw [filter_insertsInto_export h, ofKind_column_export h]
  obtain ⟨parts, hgraphs, hparts, hschemas, hscript, -⟩ := exists_parts h
  rw [hschemas, List.flatMap_map, List.flatMap_map]
  refine forall₂_flatMap fun p hp => forall₂_flatMap fun t ht => ?_
  rw [List.forall₂_map_left_iff, List.forall₂_map_right_iff, List.forall₂_same]
  intro c hc
  refine ⟨p.graph, hgraphs ▸ List.mem_map_of_mem hp, Registry.entry p.schema t c, ?_⟩
  have hlookups : ∀ st ∈ (p.script o).statements .tables, st ∈ e.script.statements .tables := by
    intro st hst
    rw [hscript, Script.statements_append, Script.statements_concat, List.flatMap_map]
    exact List.mem_append_right _ (List.mem_flatMap.2 ⟨p, hp, hst⟩)
  obtain ⟨collector, group, node, type, hentry⟩ := (hparts p hp).describes_entry ht hc hlookups
  exact ⟨collector, group, node, type, Registry.readEntry_row o.registry p.schema t c, hentry⟩

theorem registry_maps_columns_sitePackage :
    ∃ e warnings, export? (.ofPackage sitePackage) {} = (.ok e, warnings) ∧
      ofKind .column (e.script.statements .columns) =
        [.addColumn ⟨"site", "phase"⟩ "phase" .timestamp,
          .addColumn ⟨"site", "phase_part"⟩ "part" .text,
          .addColumn ⟨"site", "phase_part"⟩ "kind" .uuid,
          .addColumn ⟨"site", "phase_part"⟩ "outline" .geometry] ∧
      List.Forall₂ (Registry.Maps (.ofPackage sitePackage) {} e)
        ((e.script.statements .data).filter
          (Statement.insertsInto ⟨"public", "__arches_relational_registry"⟩))
        (ofKind .column (e.script.statements .columns)) := by
  have h : ∃ e ∈ (export? (.ofPackage sitePackage) {}).1.toOption,
      ofKind .column (e.script.statements .columns) =
        [.addColumn ⟨"site", "phase"⟩ "phase" .timestamp,
          .addColumn ⟨"site", "phase_part"⟩ "part" .text,
          .addColumn ⟨"site", "phase_part"⟩ "kind" .uuid,
          .addColumn ⟨"site", "phase_part"⟩ "outline" .geometry] := by
    rw [Source.ofPackage_eq]
    decide +kernel
  obtain ⟨e, warnings, hexport, hcolumns⟩ := exists_export_of_toOption h
  exact ⟨e, warnings, hexport, hcolumns, registry_maps_columns _ {} e warnings hexport⟩

end ResourceTables
