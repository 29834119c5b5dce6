import ResourceTables.Proofs.Package
import ResourceTables.Proofs.Export.Insertions
import ResourceTables.Proofs.Rows.Counts

/-!
# ResourceTables.Proofs.Export.Records

No record is lost on the way and none is inserted twice. What is written for one schema is counted
exactly (`Rows.Accounts`). In a whole export a resource is inserted with the schema of its graph, and a
tile with the table of its nodegroup, so as long as no two graphs and no two tables share an identifier
each of them is inserted just once (`InsertsRecords`).
-/

namespace ResourceTables

open Sql (Script Statement TableName)

variable {source : Source} {o : ExportOptions}

/-! ### Inserted records -/

/-- The resources that an export inserts, each with its schema. -/
def Export.insertedResources (source : Source) (o : ExportOptions) (e : Export) :
    List (Schema × Resource) :=
  (e.schemas.flatMap (Schema.insertions source o)).filterMap Insertion.resource?

/-- The tiles that an export inserts, each with its schema and table. -/
def Export.insertedTiles (source : Source) (o : ExportOptions) (e : Export) :
    List (Schema × Schema.Table × Tile) :=
  (e.schemas.flatMap (Schema.insertions source o)).filterMap Insertion.tile?

/-- The tables of all schemas. -/
def Export.tables (e : Export) : List (Schema × Schema.Table) :=
  e.schemas.flatMap fun s => s.tables.map (s, ·)

/-- Of the insertions for a schema, those of resources are told by the graph and those of tiles by the
tables. -/
theorem Schema.filterMap_insertions (hrows : o.includeRows = true) (s : Schema) :
    (s.insertions source o).filterMap Insertion.resource? = (source.resources s.graph).map (s, ·) ∧
      (s.insertions source o).filterMap Insertion.tile? = s.tables.flatMap fun table =>
        (source.tiles table.nodegroup).map (s, table, ·) := by
  have hnil {α β : Type} (l : List α) : (l.flatMap fun _ => ([] : List β)) = [] :=
    List.flatMap_eq_nil_iff.2 fun _ _ => rfl
  rw [insertions, if_pos hrows, entryInsertions, columnInsertions, recordInsertions]
  constructor
  · simp [List.filterMap_flatMap, List.filterMap_map, Function.comp_def, Insertion.resource?, hnil]
  · simp [List.filterMap_flatMap, List.filterMap_map, Function.comp_def, Insertion.tile?, hnil]

theorem Export.insertedResources_eq (hrows : o.includeRows = true) (e : Export) :
    e.insertedResources source o =
      e.schemas.flatMap fun s => (source.resources s.graph).map (s, ·) := by
  rw [insertedResources, List.filterMap_flatMap]
  exact List.flatMap_congr fun s _ => (s.filterMap_insertions hrows).1

theorem Export.insertedTiles_eq (hrows : o.includeRows = true) (e : Export) :
    e.insertedTiles source o = e.tables.flatMap fun p =>
      (source.tiles p.2.nodegroup).map (p.1, p.2, ·) := by
  rw [insertedTiles, List.filterMap_flatMap, tables, List.flatMap_assoc]
  refine List.flatMap_congr fun s _ => ?_
  rw [(s.filterMap_insertions hrows).2, List.flatMap_map]

/-! ### The whole export -/

/-- An export inserts each record of its graphs once and no others, and counts them. -/
structure InsertsRecords (source : Source) (o : ExportOptions) (e : Export) : Prop where
  /-- All rows that are inserted, each with what it is about. -/
  inserts : (e.script.statements .data).filter Statement.isInsert =
    (e.schemas.flatMap (Schema.insertions source o)).map (Insertion.statement o.registry)
  /-- The resources of a graph go into the root table of one schema, each as often as it is there. -/
  resources : ∀ g ∈ selectedGraphs source o, ∃ s ∈ e.schemas,
    (e.insertedResources source o).filter (fun x => x.1.graph = g.id) =
      (source.resources g.id).map (s, ·)
  /-- The tiles of a nodegroup go into its one table, each as often as it is there. -/
  tiles : ∀ s ∈ e.schemas, ∀ table ∈ s.tables,
    (e.insertedTiles source o).filter (fun x => x.2.1.nodegroup = table.nodegroup) =
      (source.tiles table.nodegroup).map (s, table, ·)
  /-- Nothing else is inserted as a resource or as a tile. -/
  mem_resources : ∀ x ∈ e.insertedResources source o, x.1 ∈ e.schemas ∧
    x.1.graph ∈ (selectedGraphs source o).map Graph.id ∧ x.2 ∈ source.resources x.1.graph
  mem_tiles : ∀ x ∈ e.insertedTiles source o, x.1 ∈ e.schemas ∧ x.2.1 ∈ x.1.tables ∧
    x.2.2 ∈ source.tiles x.2.1.nodegroup
  stats_resources : e.stats.resources = (e.insertedResources source o).length
  stats_tiles : e.stats.tiles = (e.insertedTiles source o).length
  stats_values : e.stats.updates + e.stats.skipped =
    (e.schemas.flatMap (Rows.storedValues source)).length
  stats_skipped : e.stats.skipped = (e.schemas.flatMap (Rows.storedValues source)).countP
    (Rows.StoredValue.isSkipped o.srid o.language)
  /-- Of a package, the inserted records are those of the exported graphs and of the nodegroups that
  have tables. -/
  package : ∀ p, source = .ofPackage p →
    ((e.insertedResources source o).map Prod.snd).Perm
        (p.resources.filter fun r => r.graph ∈ (selectedGraphs source o).map Graph.id) ∧
      ((e.insertedTiles source o).map fun x => x.2.2).Perm
        (p.tiles.filter fun t => t.nodegroup ∈ e.tables.map fun x => x.2.nodegroup)

theorem insertsRecords_of_export {e : Export} {warnings : List Rows.Warning}
    (h : export? source o = (.ok e, warnings)) (hrows : o.includeRows = true)
    (hgraphs : ((selectedGraphs source o).map Graph.id).Nodup)
    (hgroups : (e.tables.map fun x => x.2.nodegroup).Nodup) : InsertsRecords source o e := by
  obtain ⟨parts, hselected, hparts, hschemas, -, hstats⟩ := exists_parts h
  have hids : e.schemas.map Schema.graph = (selectedGraphs source o).map Graph.id := by
    rw [hschemas, ← hselected, List.map_map, List.map_map]
    refine List.map_congr_left fun p hp => ?_
    exact (Schema.isDerived_of_derive (hparts p hp).derived).graph_eq
  have hyields : ∀ p ∈ parts,
      Rows.Accounts source o.srid o.language p.schema p.rows := by
    intro p hp
    have hp := (hparts p hp).rows
    rw [if_pos hrows] at hp
    exact Rows.accounts_of_materialize hp
  rw [Rows.Stats.sum_map] at hstats
  constructor
  case inserts => exact filter_isInsert_export h
  case resources =>
    intro g hg
    obtain ⟨s, hs, hid⟩ := List.mem_map.1 (hids ▸ List.mem_map_of_mem (f := Graph.id) hg)
    refine ⟨s, hs, ?_⟩
    rw [e.insertedResources_eq hrows, ← hid]
    refine filter_flatMap_of_owner (fun x : Schema × Resource => x.1.graph) Schema.graph ?_ ?_ hs
    · intro s' _ x hx
      obtain ⟨r, -, rfl⟩ := List.mem_map.1 hx
      rfl
    · rwa [hids]
  case tiles =>
    intro s hs table htable
    have hmem : (s, table) ∈ e.tables :=
      List.mem_flatMap.2 ⟨s, hs, List.mem_map_of_mem htable⟩
    rw [e.insertedTiles_eq hrows]
    refine filter_flatMap_of_owner (fun x : Schema × Schema.Table × Tile => x.2.1.nodegroup)
      (fun x : Schema × Schema.Table => x.2.nodegroup) ?_ hgroups hmem
    intro p _ x hx
    obtain ⟨t, -, rfl⟩ := List.mem_map.1 hx
    rfl
  case mem_resources =>
    intro x hx
    rw [e.insertedResources_eq hrows] at hx
    obtain ⟨s, hs, hx⟩ := List.mem_flatMap.1 hx
    obtain ⟨r, hr, rfl⟩ := List.mem_map.1 hx
    exact ⟨hs, hids ▸ List.mem_map_of_mem hs, hr⟩
  case mem_tiles =>
    intro x hx
    rw [e.insertedTiles_eq hrows] at hx
    obtain ⟨⟨s, table⟩, hmem, hx⟩ := List.mem_flatMap.1 hx
    obtain ⟨t, ht, rfl⟩ := List.mem_map.1 hx
    obtain ⟨s', hs, hmem⟩ := List.mem_flatMap.1 hmem
    obtain ⟨table', htable, heq⟩ := List.mem_map.1 hmem
    cases heq
    exact ⟨hs, htable, ht⟩
  case stats_resources =>
    refine (congrArg Rows.Stats.resources hstats).trans ?_
    rw [e.insertedResources_eq hrows, hschemas, List.length_flatMap, List.map_map]
    refine congrArg List.sum (List.map_congr_left fun p hp => ?_)
    exact (hyields p hp).resources.trans (List.length_map _).symm
  case stats_tiles =>
    refine (congrArg Rows.Stats.tiles hstats).trans ?_
    rw [e.insertedTiles_eq hrows, Export.tables, hschemas, List.flatMap_assoc,
      List.length_flatMap, List.map_map]
    refine congrArg List.sum (List.map_congr_left fun p hp => ?_)
    refine (hyields p hp).tiles.trans ?_
    simp [List.length_flatMap, Function.comp_def]
  case stats_values =>
    refine (congrArg (fun stats => stats.updates + stats.skipped) hstats).trans ?_
    rw [← List.sum_map_add, hschemas, List.flatMap_map, List.length_flatMap]
    exact congrArg List.sum (List.map_congr_left fun p hp => (hyields p hp).values)
  case stats_skipped =>
    refine (congrArg Rows.Stats.skipped hstats).trans ?_
    rw [hschemas, List.flatMap_map, List.countP_flatMap]
    exact congrArg List.sum (List.map_congr_left fun p hp => (hyields p hp).skipped)
  case package =>
    rintro p rfl
    constructor
    · have hflat : (e.insertedResources (.ofPackage p) o).map Prod.snd =
          ((selectedGraphs (.ofPackage p) o).map Graph.id).flatMap fun id =>
            p.resources.filter fun r => r.graph = id := by
        rw [e.insertedResources_eq hrows, List.map_flatMap, ← hids, List.flatMap_map]
        refine List.flatMap_congr fun s _ => ?_
        rw [List.map_map, Source.resources_ofPackage]
        exact List.map_id _
      rw [hflat]
      exact flatMap_filter_key_perm Resource.graph p.resources hgraphs
    · have hflat : ((e.insertedTiles (.ofPackage p) o).map fun x => x.2.2) =
          (e.tables.map fun x => x.2.nodegroup).flatMap fun id =>
            p.tiles.filter fun t => t.nodegroup = id := by
        rw [e.insertedTiles_eq hrows, List.map_flatMap, List.flatMap_map]
        refine List.flatMap_congr fun x _ => ?_
        rw [List.map_map, Source.tiles_ofPackage]
        exact List.map_id _
      rw [hflat]
      exact flatMap_filter_key_perm Tile.nodegroup p.tiles hgroups

/-- What is written for a schema is counted exactly; and an export of graphs and tables that have
identifiers of their own inserts each of their records once, into the table of its graph or nodegroup,
and counts them all. -/
theorem records_accounted (source : Source) :
    (∀ srid language s y, Rows.materialize source srid language s = .ok y →
      Rows.Accounts source srid language s y) ∧
    ∀ o e warnings, export? source o = (.ok e, warnings) → o.includeRows = true →
      ((selectedGraphs source o).map Graph.id).Nodup →
      (e.tables.map fun x => x.2.nodegroup).Nodup → InsertsRecords source o e := by
  refine ⟨fun _ _ _ _ => Rows.accounts_of_materialize, ?_⟩
  intro o e warnings h hrows hgraphs hgroups
  exact insertsRecords_of_export h hrows hgraphs hgroups

theorem records_accounted_sitePackage :
    (∃ s y, Schema.derive (.ofPackage sitePackage) {} "en" siteGraph = .ok s ∧
      Rows.materialize (.ofPackage sitePackage) 4326 "en" s = .ok y ∧
      Rows.Accounts (.ofPackage sitePackage) 4326 "en" s y ∧
      y.stats = { resources := 1, tiles := 2, updates := 2 }) ∧
    ∃ e warnings, export? (.ofPackage sitePackage) {} = (.ok e, warnings) ∧
      InsertsRecords (.ofPackage sitePackage) {} e ∧ e.tables.length = 2 := by
  obtain ⟨haccounts, hinserts⟩ := records_accounted (.ofPackage sitePackage)
  have hrows : ∃ s ∈ (Schema.derive (.ofPackage sitePackage) {} "en" siteGraph).toOption,
      ∃ y ∈ (Rows.materialize (.ofPackage sitePackage) 4326 "en" s).toOption,
        y.stats = { resources := 1, tiles := 2, updates := 2 } := by
    rw [Source.ofPackage_eq]
    decide +kernel
  have hgood : ∃ e ∈ (export? (.ofPackage sitePackage) {}).1.toOption,
      ((selectedGraphs (.ofPackage sitePackage) {}).map Graph.id).Nodup ∧
        (e.tables.map fun x => x.2.nodegroup).Nodup ∧ e.tables.length = 2 := by
    rw [Source.ofPackage_eq]
    decide +kernel
  obtain ⟨s, hs, y, hy, hstats⟩ := hrows
  obtain ⟨e, warnings, hexport, hgraphs, hgroups, hlength⟩ := exists_export_of_toOption hgood
  rw [mem_toOption_iff] at hs hy
  refine ⟨⟨s, y, hs, hy, haccounts _ _ _ _ hy, hstats⟩, e, warnings, hexport, ?_, hlength⟩
  exact hinserts {} e warnings hexport rfl hgraphs hgroups

end ResourceTables
