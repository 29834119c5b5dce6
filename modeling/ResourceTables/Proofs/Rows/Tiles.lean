import ResourceTables.Proofs.Rows.Contents

/-!
# ResourceTables.Proofs.Rows.Tiles

What is written about one tile. The statements that come after the insertions of the resources are told
apart by the row they are about (`rowKey?`), and warnings by the tile they name. If no two tiles share
an identifier, what is found in that way is what the tile's own steps write
(`filter_rowKey?_of_materialize`, `filter_warnings_of_materialize`).
-/

namespace ResourceTables.Rows

open Schema (Table Column)
open Sql (Statement)

variable {source : Source} {srid : Nat} {language : String} {s : Schema}

/-! ### Tiles and their tables -/

/-- The tiles that are written for a schema, each with its table. -/
def placedTiles (source : Source) (s : Schema) : List (Table × Tile) :=
  s.tables.flatMap fun table => (source.tiles table.nodegroup).map (table, ·)

theorem mem_placedTiles {table : Table} {t : Tile} :
    (table, t) ∈ placedTiles source s ↔ table ∈ s.tables ∧ t ∈ source.tiles table.nodegroup := by
  simp [placedTiles]

theorem flatMap_placedTiles {α : Type} (f : Table × Tile → List α) :
    (placedTiles source s).flatMap f =
      s.tables.flatMap fun table => (source.tiles table.nodegroup).flatMap fun t => f (table, t) := by
  simp [placedTiles, List.flatMap_assoc, List.flatMap_map]

/-- The tiles of a package are placed once each if no two tables are for one nodegroup. -/
theorem nodup_placedTiles {p : Package} (htiles : (p.tiles.map Tile.id).Nodup)
    (htables : (s.tables.map Table.nodegroup).Nodup) :
    ((placedTiles (.ofPackage p) s).map fun x => x.2.id).Nodup := by
  have hplaced : (placedTiles (.ofPackage p) s).map Prod.snd =
      (s.tables.map Table.nodegroup).flatMap fun id => p.tiles.filter fun t => t.nodegroup = id := by
    simp [placedTiles, List.map_flatMap, List.flatMap_map, Source.tiles_ofPackage]
  have hperm := flatMap_filter_key_perm Tile.nodegroup p.tiles htables
  rw [← hplaced] at hperm
  have hids := (hperm.map Tile.id).nodup_iff.2 (htiles.sublist (List.filter_sublist.map Tile.id))
  rwa [List.map_map] at hids

/-! ### Statements -/

/-- The key of the row that a statement is about: the one an insertion begins with, or the one by which
an update looks its row up. -/
def rowKey? : Statement → Option Uuid
  | .insert _ ((_, .uuid id) :: _) => some id
  | .update _ _ _ _ key => some key
  | _ => none

theorem rowKey?_of_mem_tileStatements {table : Table} {columns : List Column} {t : Tile}
    {st : Statement} (h : st ∈ tileStatements srid language s table columns t) :
    rowKey? st = some t.id := by
  rcases List.mem_cons.1 h with rfl | h
  · rfl
  · obtain ⟨change, -, rfl⟩ := List.mem_map.1 h
    rfl

/-- The statements about a tile, found by its key among those that follow the resources. -/
theorem filter_rowKey?_of_materialize {y : Yield}
    (h : materialize source srid language s = .ok y)
    (hids : ((placedTiles source s).map fun x => x.2.id).Nodup) {table : Table} {t : Tile}
    (ht : (table, t) ∈ placedTiles source s) :
    (y.statements.drop (source.resources s.graph).length).filter (fun st => rowKey? st = some t.id) =
      tileStatements srid language s table table.columns t := by
  have htables : y.statements.drop (source.resources s.graph).length =
      (placedTiles source s).flatMap fun x =>
        tileStatements srid language s x.1 x.1.columns x.2 := by
    have hlength : (resourceStatements source s).length = (source.resources s.graph).length := by
      simp [resourceStatements]
    rw [statements_eq_append h, ← hlength, List.drop_left, flatMap_placedTiles]
    refine List.flatMap_congr ?_
    intro table _
    rw [tableStatements, List.flatMap_assoc]
    exact List.flatMap_congr fun t _ => statements_tile_valueSteps table t table.columns
  rw [htables]
  refine filter_flatMap_of_owner rowKey? (fun x : Table × Tile => some x.2.id) ?_ ?_ ht
  · intro x _ st hst
    exact rowKey?_of_mem_tileStatements hst
  · have hsome := hids.map (Option.some_injective Uuid)
    rwa [List.map_map] at hsome

/-! ### Warnings -/

/-- The tile that a warning names. -/
def Warning.tile : Warning → Uuid
  | noParentTile tile _ => tile

/-- The warnings a step is done with. -/
def Step.warnings (s : Schema) : Step → List Warning
  | tile table t => (tileYield s table t).warnings
  | _ => []

theorem warnings_of_yield {step : Step} {y : Yield} (h : step.yield srid language s = .ok y) :
    y.warnings = step.warnings s := by
  cases step with
  | resource r =>
    cases h
    rfl
  | tile table t =>
    cases h
    rfl
  | value table t c v =>
    rcases valueYield_eq_ok h with ⟨-, rfl⟩ | ⟨e, -, rfl⟩ <;> rfl

theorem warnings_of_run {steps : List Step} {y : Yield}
    (h : run srid language s steps = (y, none)) : y.warnings = steps.flatMap (Step.warnings s) := by
  obtain ⟨yields, hall, rfl⟩ := run_eq_ok_iff.1 h
  clear h
  induction hall with
  | nil => rfl
  | @cons step y steps yields hstep _ ih =>
    have happend : (Yield.concat (y :: yields)).warnings =
        y.warnings ++ (Yield.concat yields).warnings := rfl
    rw [happend, ih, warnings_of_yield hstep, List.flatMap_cons]

theorem warnings_tileSteps (table : Table) (t : Tile) :
    (tileSteps table t).flatMap (Step.warnings s) = (tileYield s table t).warnings := by
  have hvalues : (table.columns.filterMap fun c =>
      (t.value? c.node).map (Step.value table t c)).flatMap (Step.warnings s) = [] := by
    refine List.flatMap_eq_nil_iff.2 ?_
    intro step hstep
    obtain ⟨c, -, hc⟩ := List.mem_filterMap.1 hstep
    obtain ⟨v, -, rfl⟩ := Option.map_eq_some_iff.1 hc
    rfl
  rw [tileSteps, List.flatMap_cons, hvalues, List.append_nil]
  rfl

/-- The warnings about a tile. -/
theorem filter_warnings_of_materialize {y : Yield}
    (h : materialize source srid language s = .ok y)
    (hids : ((placedTiles source s).map fun x => x.2.id).Nodup) {table : Table} {t : Tile}
    (ht : (table, t) ∈ placedTiles source s) :
    y.warnings.filter (fun w => w.tile = t.id) = (tileYield s table t).warnings := by
  have hall : y.warnings =
      (placedTiles source s).flatMap fun x => (tileYield s x.1 x.2).warnings := by
    have hresources : ((source.resources s.graph).map Step.resource).flatMap (Step.warnings s) = [] :=
      List.flatMap_eq_nil_iff.2 (List.forall_mem_map.2 fun _ _ => rfl)
    rw [warnings_of_run (materialize_eq_ok_iff.1 h), steps, List.flatMap_append, hresources,
      List.nil_append, List.flatMap_assoc, flatMap_placedTiles]
    refine List.flatMap_congr ?_
    intro table _
    rw [List.flatMap_assoc]
    exact List.flatMap_congr fun t _ => warnings_tileSteps table t
  rw [hall]
  refine filter_flatMap_of_owner Warning.tile (fun x : Table × Tile => x.2.id) ?_ hids ht
  intro x _ w hw
  unfold tileYield at hw
  dsimp only at hw
  split at hw
  · rw [List.mem_singleton.1 hw]
    rfl
  · cases hw

end ResourceTables.Rows
