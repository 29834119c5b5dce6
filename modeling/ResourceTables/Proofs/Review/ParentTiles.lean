import ResourceTables.Proofs.Review.Issues
import ResourceTables.Proofs.Rows.Tiles
import ResourceTables.Proofs.Schema.Coverage

/-!
# ResourceTables.Proofs.Review.ParentTiles

What a review says about the parent tiles of a package against how the tiles are written. A review looks
nodegroups up in an index over all graphs, and rows follow the links that were derived from one graph.
As long as no two nodegroups and no two tiles share an identifier the two agree
(`materialize_mirrors_review`): a tile without a parent tile where one is missing gets no parent key,
and one whose parent tile is not expected is linked to its resource.
-/

namespace ResourceTables

open Rows (run steps)
open Schema (Table)

/-! ### Issues of one tile -/

/-- The tile that an issue is about. -/
def TileIssue.tile : TileIssue → Uuid
  | unknownNodegroup tile _ | unknownResource tile _ | missingParentTile tile
  | unexpectedParentTile tile _ | unknownParentTile tile _ => tile

namespace Package

variable {p : Package} {t : Tile}

/-- What a review finds wrong with one tile. -/
def issuesOf (p : Package) (t : Tile) : List TileIssue :=
  (if (p.resources.map Resource.id).contains t.resource then []
    else [.unknownResource t.id t.resource]) ++
    match p.nodegroup? t.nodegroup with
    | none => [.unknownNodegroup t.id t.nodegroup]
    | some group => parentIssues (.ofList (p.tiles.map Tile.id)) group t

theorem tileIssues_eq (p : Package) : p.tileIssues = p.tiles.flatMap p.issuesOf := by
  unfold tileIssues
  refine List.flatMap_congr ?_
  intro t _
  rw [getElem?_nodegroups, Std.HashSet.contains_ofList]
  rfl

theorem tile_of_mem_parentIssues {tiles : Std.HashSet Uuid} {group : NodeGroup} {i : TileIssue}
    (h : i ∈ parentIssues tiles group t) : i.tile = t.id := by
  unfold parentIssues at h
  split at h
  · rw [List.mem_singleton.1 h]
    rfl
  · rw [List.mem_singleton.1 h]
    rfl
  · split at h
    · cases h
    · rw [List.mem_singleton.1 h]
      rfl
  · cases h

theorem tile_of_mem_issuesOf {i : TileIssue} (h : i ∈ p.issuesOf t) : i.tile = t.id := by
  rcases List.mem_append.1 h with h | h
  · split at h
    · cases h
    · rw [List.mem_singleton.1 h]
      rfl
  · split at h
    · rw [List.mem_singleton.1 h]
      rfl
    · exact tile_of_mem_parentIssues h

/-- An issue about a tile is one that a review finds with that very tile. -/
theorem mem_tileIssues_iff (htiles : (p.tiles.map Tile.id).Nodup) (ht : t ∈ p.tiles) {i : TileIssue}
    (hi : i.tile = t.id) : i ∈ p.tileIssues ↔ i ∈ p.issuesOf t := by
  have howner : p.tileIssues.filter (fun i => i.tile = t.id) = p.issuesOf t := by
    rw [tileIssues_eq]
    exact filter_flatMap_of_owner TileIssue.tile Tile.id
      (fun _ _ _ hmem => tile_of_mem_issuesOf hmem) htiles ht
  rw [← howner]
  simp [hi]

/-- An issue that is neither about the resource nor about an unknown nodegroup is one of the parent. -/
theorem mem_issuesOf_iff {i : TileIssue} (hresource : ∀ id, i ≠ .unknownResource t.id id)
    (hgroup : ∀ id, i ≠ .unknownNodegroup t.id id) :
    i ∈ p.issuesOf t ↔ ∃ group ∈ p.nodegroup? t.nodegroup,
      i ∈ parentIssues (.ofList (p.tiles.map Tile.id)) group t := by
  have hnone : i ∉ (if (p.resources.map Resource.id).contains t.resource then []
      else [.unknownResource t.id t.resource]) := by
    split
    · exact List.not_mem_nil
    · exact fun h => hresource _ (List.mem_singleton.1 h)
  rw [issuesOf, List.mem_append, or_iff_right hnone]
  cases p.nodegroup? t.nodegroup with
  | none => simp [hgroup]
  | some group => simp

theorem missingParentTile_mem_iff (htiles : (p.tiles.map Tile.id).Nodup) (ht : t ∈ p.tiles) :
    .missingParentTile t.id ∈ p.tileIssues ↔
      ∃ group ∈ p.nodegroup? t.nodegroup, group.parent.isSome = true ∧ t.parent = none := by
  have hparent (group : NodeGroup) :
      .missingParentTile t.id ∈ parentIssues (.ofList (p.tiles.map Tile.id)) group t ↔
        group.parent.isSome = true ∧ t.parent = none := by
    cases hgroup : group.parent <;> cases hparent : t.parent <;>
      simp [parentIssues, hgroup, hparent]
  rw [mem_tileIssues_iff htiles ht rfl, mem_issuesOf_iff (by simp) (by simp)]
  simp only [hparent]

theorem unexpectedParentTile_mem_iff (htiles : (p.tiles.map Tile.id).Nodup) (ht : t ∈ p.tiles)
    {parent : Uuid} : .unexpectedParentTile t.id parent ∈ p.tileIssues ↔
      ∃ group ∈ p.nodegroup? t.nodegroup, group.parent = none ∧ t.parent = some parent := by
  have hparent (group : NodeGroup) :
      .unexpectedParentTile t.id parent ∈ parentIssues (.ofList (p.tiles.map Tile.id)) group t ↔
        group.parent = none ∧ t.parent = some parent := by
    cases hgroup : group.parent <;> cases hparent : t.parent <;>
      simp [parentIssues, hgroup, hparent, eq_comm]
  rw [mem_tileIssues_iff htiles ht rfl, mem_issuesOf_iff (by simp) (by simp)]
  simp only [hparent]

end Package

/-! ### The nodegroup of a table -/

/-- A table is derived from the nodegroup that counts for its tiles in the whole package. -/
theorem exists_group_of_table {p : Package} {names : Names} {language : String} {g : Graph}
    {s : Schema} (hgroups : ((p.graphs.flatMap Graph.nodegroups).map NodeGroup.id).Nodup)
    (hg : g ∈ p.graphs) (hs : Schema.IsDerived (.ofPackage p) names language g s) {table : Table}
    (htable : table ∈ s.tables) :
    ∃ group ∈ g.nodegroups, p.nodegroup? table.nodegroup = some group ∧
      table.nodegroup = group.id ∧
      Schema.deriveParent names g s.rootTable group = .ok table.parent := by
  obtain ⟨collector, -, hd⟩ := hs.exists_collector htable
  obtain ⟨group, hfound, -, hparent, -, hid, -⟩ := Schema.deriveTable_eq_ok_iff.1 hd
  have hgroup := Graph.mem_of_nodegroup? hfound
  have hgroupId : table.nodegroup = group.id := by rw [hid, Graph.id_of_nodegroup? hfound]
  refine ⟨group, hgroup, ?_, hgroupId, hparent⟩
  rw [hgroupId]
  exact Package.nodegroup?_of_mem hgroups hg hgroup

/-! ### Rows of tiles -/

namespace Rows

/-- A tile is inserted with a parent key or none, its link is then set again to a tile or not, and what
it has for the columns of its table is stored. Nothing else that is written after the resources is about
a row of its key. -/
def WritesTile (source : Source) (srid : Nat) (language : String) (s : Schema) (y : Yield)
    (table : Table) (t : Tile) (link relinked : Option Uuid) : Prop :=
  (y.statements.drop (source.resources s.graph).length).filter (fun st => rowKey? st = some t.id) =
    .insert ⟨s.name, table.name⟩
        [(table.key, .uuid t.id), (table.parent.column, .uuidOrNull link)] ::
      (relinked.toList.map fun parent =>
        .update ⟨s.name, table.name⟩ table.parent.column (.uuid parent) table.key t.id) ++
      table.columns.filterMap fun c => (stored? srid language t c).map fun e =>
        .update ⟨s.name, table.name⟩ c.name e table.key t.id

/-- The tile that the link of a tile is set to again: its parent tile if the nodegroup is nested. -/
def relinkedOf (table : Table) (t : Tile) : Option Uuid :=
  if table.parent.nodegroup.isSome then t.parent else none

theorem writesTile_of_materialize {source : Source} {srid : Nat} {language : String} {s : Schema}
    {y : Yield} (h : materialize source srid language s = .ok y)
    (hids : ((placedTiles source s).map fun x => x.2.id).Nodup) {table : Table} {t : Tile}
    (ht : (table, t) ∈ placedTiles source s) :
    WritesTile source srid language s y table t (linkOf table t) (relinkedOf table t) := by
  unfold WritesTile
  rw [filter_rowKey?_of_materialize h hids ht, tileStatements, changes, List.map_append,
    List.map_filterMap, List.cons_append]
  simp only [Option.map_map]
  cases hgroup : table.parent.nodegroup <;> cases hparent : t.parent <;>
    simp [relinkedOf, hgroup, hparent, Function.comp_def]

end Rows

/-! ### A review and the rows -/

/-- Rows of a package against its review. Of the tiles that are written for a graph, those without a
parent key are the ones that a review reports for a missing parent tile, and a warning is issued for
each of them and for no other. Those that it reports for a parent tile which is not expected are linked
to their resources, and their links are not set again. -/
theorem materialize_mirrors_review (p : Package) (names : Names) (spoken language : String)
    (srid : Nat) (g : Graph) (s : Schema) (y : Rows.Yield)
    (hgroups : ((p.graphs.flatMap Graph.nodegroups).map NodeGroup.id).Nodup)
    (hnodes : ∀ g ∈ p.graphs, (g.nodes.map Node.id).Nodup) (htiles : (p.tiles.map Tile.id).Nodup)
    (hg : g ∈ p.graphs) (hs : Schema.derive (.ofPackage p) names spoken g = .ok s)
    (hy : Rows.materialize (.ofPackage p) srid language s = .ok y) :
    ∀ table ∈ s.tables, ∀ t ∈ p.tiles, t.nodegroup = table.nodegroup →
      ∃ link relinked,
        Rows.WritesTile (.ofPackage p) srid language s y table t link relinked ∧
        (link = none ↔ .missingParentTile t.id ∈ (Report.of p).tiles) ∧
        y.warnings.filter (fun w => w.tile = t.id) =
          (if link = none then [.noParentTile t.id t.nodegroup] else []) ∧
        ∀ parent, .unexpectedParentTile t.id parent ∈ (Report.of p).tiles →
          link = some t.resource ∧ relinked = none := by
  intro table htable t ht hgroup
  have hderived := Schema.isDerived_of_derive hs
  obtain ⟨group, -, hfound, -, hlink⟩ := exists_group_of_table hgroups hg hderived htable
  obtain ⟨hnested, -⟩ := Schema.deriveParent_eq_ok_iff.1 hlink
  have htables : (s.tables.map Table.nodegroup).Nodup := by
    rw [← Schema.map_nodegroup_tables hderived]
    exact Graph.nodup_collectors (hnodes g hg)
  have hids := Rows.nodup_placedTiles htiles htables
  have hplaced : (table, t) ∈ Rows.placedTiles (.ofPackage p) s := by
    rw [Rows.mem_placedTiles, Source.tiles_ofPackage, List.mem_filter]
    exact ⟨htable, ht, decide_eq_true hgroup⟩
  refine ⟨Rows.linkOf table t, Rows.relinkedOf table t,
    Rows.writesTile_of_materialize hy hids hplaced, ?missing, ?warnings, ?unexpected⟩
  case missing =>
    show _ ↔ TileIssue.missingParentTile t.id ∈ p.tileIssues
    rw [Package.missingParentTile_mem_iff htiles ht, hgroup, hfound]
    cases hparent : group.parent <;> simp [Rows.linkOf, hnested, hparent]
  case warnings =>
    rw [Rows.filter_warnings_of_materialize hy hids hplaced, Rows.tileYield, hgroup]
    cases hparent : table.parent.nodegroup <;> cases ht : t.parent <;>
      simp [Rows.linkOf, hparent, ht]
  case unexpected =>
    intro parent hreported
    have hreported : TileIssue.unexpectedParentTile t.id parent ∈ p.tileIssues := hreported
    rw [Package.unexpectedParentTile_mem_iff htiles ht, hgroup, hfound] at hreported
    obtain ⟨_, hsame, hnone, -⟩ := hreported
    cases hsame
    simp [Rows.linkOf, Rows.relinkedOf, hnested, hnone]

/-- A part that belongs to no phase. -/
def loosePart : Tile :=
  { id := .ofNat 22, resource := .ofNat 20, nodegroup := .ofNat 3
    data := [((Uuid.ofNat 3).toString, .string "North")] }

/-- A phase that belongs to another one. -/
def nestedPhase : Tile :=
  { id := .ofNat 23, resource := .ofNat 20, nodegroup := .ofNat 2, parent := some (.ofNat 21) }

/-- A site with a phase, and both of them. -/
def misnestedPackage : Package where
  graphs := [siteGraph]
  resources := [{ id := .ofNat 20, graph := .ofNat 9 }]
  tiles := [{ id := .ofNat 21, resource := .ofNat 20, nodegroup := .ofNat 2 }, loosePart, nestedPhase]

theorem materialize_mirrors_review_misnestedPackage :
    .missingParentTile (.ofNat 22) ∈ (Report.of misnestedPackage).tiles ∧
      .unexpectedParentTile (.ofNat 23) (.ofNat 21) ∈ (Report.of misnestedPackage).tiles ∧
      ∃ s y, Schema.derive (.ofPackage misnestedPackage) {} "en" siteGraph = .ok s ∧
        Rows.materialize (.ofPackage misnestedPackage) 4326 "en" s = .ok y ∧
        (∃ table ∈ s.tables, ∃ relinked,
          Rows.WritesTile (.ofPackage misnestedPackage) 4326 "en" s y table loosePart none relinked ∧
            y.warnings.filter (fun w => w.tile = .ofNat 22) =
              [.noParentTile (.ofNat 22) (.ofNat 3)]) ∧
        ∃ table ∈ s.tables, Rows.WritesTile (.ofPackage misnestedPackage) 4326 "en" s y table
          nestedPhase (some (.ofNat 20)) none := by
  have htiles : (misnestedPackage.tiles.map Tile.id).Nodup := by decide
  have hmissing : .missingParentTile (.ofNat 22) ∈ (Report.of misnestedPackage).tiles :=
    (Package.missingParentTile_mem_iff (t := loosePart) htiles
      (by simp [misnestedPackage])).2 (by decide +kernel)
  have hunexpected :
      .unexpectedParentTile (.ofNat 23) (.ofNat 21) ∈ (Report.of misnestedPackage).tiles :=
    (Package.unexpectedParentTile_mem_iff (t := nestedPhase) htiles
      (by simp [misnestedPackage])).2 (by decide +kernel)
  have hrun : ∃ s ∈ (Schema.derive (.ofPackage misnestedPackage) {} "en" siteGraph).toOption,
      (run 4326 "en" s (steps (.ofPackage misnestedPackage) s)).2 = none ∧
        (∃ table ∈ s.tables, table.nodegroup = .ofNat 3) ∧
        ∃ table ∈ s.tables, table.nodegroup = .ofNat 2 := by
    rw [Source.ofPackage_eq]
    decide +kernel
  obtain ⟨s, hs, hnone, ⟨parts, hparts, hpart⟩, phases, hphases, hphase⟩ := hrun
  have hs := mem_toOption_iff.1 hs
  have hy := Rows.materialize_eq_ok_iff.2 (Prod.ext rfl hnone)
  have hmirrors := materialize_mirrors_review misnestedPackage {} "en" "en" 4326 siteGraph s _
    (by decide) (by decide) htiles (by simp [misnestedPackage]) hs hy
  refine ⟨hmissing, hunexpected, s, _, hs, hy, ⟨parts, hparts, ?_⟩, phases, hphases, ?_⟩
  · obtain ⟨link, relinked, hwrites, hlink, hwarnings, -⟩ :=
      hmirrors parts hparts loosePart (by simp [misnestedPackage]) hpart.symm
    obtain rfl := hlink.2 hmissing
    exact ⟨relinked, hwrites, hwarnings⟩
  · obtain ⟨link, relinked, hwrites, -, -, hlinked⟩ :=
      hmirrors phases hphases nestedPhase (by simp [misnestedPackage]) hphase.symm
    obtain ⟨rfl, rfl⟩ := hlinked _ hunexpected
    exact hwrites

end ResourceTables
