import ResourceTables.Proofs.Rows.Contents

/-!
# ResourceTables.Proofs.Rows.Misfits

Where the work for a schema stops. It stops exactly if some tile has a value that a column of its table
refuses, at the first such value in the order of tables, tiles and columns (`FirstMisfit`). What was
written until then is what the work writes for all that comes before (`materialize_stops_at_misfit`).

The work is one list of steps. A step that fails stands in it between others (`run_eq_error_iff`), and
from where it stands the table, the tile and the column are found, with those before each of them
(`exists_firstMisfit`).
-/

namespace ResourceTables.Rows

open Schema (Table Column)
open Sql (Script Statement)

variable {source : Source} {srid : Nat} {language : String} {s : Schema}

/-! ### Refused values -/

/-- A column refuses the value that a tile has for it. -/
def Refuses (srid : Nat) (language : String) (t : Tile) (c : Column) (misfit : Misfit) : Prop :=
  ∃ v, t.value? c.node = some v ∧ coerce srid language c.datatype c.type v = .error misfit

/-- The first value that is refused: its table, its tile and its column, with the tables, the tiles of
the table and the columns before them. -/
structure FirstMisfit (source : Source) (srid : Nat) (language : String) (s : Schema) where
  tables : List Table
  table : Table
  tiles : List Tile
  tile : Tile
  columns : List Column
  column : Column
  misfit : Misfit
  tables_prefix : tables ++ [table] <+: s.tables
  tiles_prefix : tiles ++ [tile] <+: source.tiles table.nodegroup
  columns_prefix : columns ++ [column] <+: table.columns
  refuses : Refuses srid language tile column misfit
  tables_accept : ∀ table ∈ tables, ∀ t ∈ source.tiles table.nodegroup, ∀ c ∈ table.columns,
    ∀ misfit, ¬ Refuses srid language t c misfit
  tiles_accept : ∀ t ∈ tiles, ∀ c ∈ table.columns, ∀ misfit, ¬ Refuses srid language t c misfit
  columns_accept : ∀ c ∈ columns, ∀ misfit, ¬ Refuses srid language tile c misfit

namespace FirstMisfit

/-- The failure at the value. -/
def error (p : FirstMisfit source srid language s) : ExportError :=
  .invalidValue p.tile.id p.column.node p.misfit.reason

/-- What is written before the value: all resources, all tiles before its own, and of its own tile the
row, the link and the values of the columns before. -/
def statements (p : FirstMisfit source srid language s) : List Statement :=
  resourceStatements source s ++
    (p.tables.flatMap fun table =>
      (source.tiles table.nodegroup).flatMap (tileStatements srid language s table table.columns)) ++
    p.tiles.flatMap (tileStatements srid language s p.table p.table.columns) ++
    tileStatements srid language s p.table p.columns p.tile

end FirstMisfit

/-! ### Steps that fail -/

theorem valueYield_eq_error_iff {table : Table} {t : Tile} {c : Column} {v : Json.Value}
    {e : ExportError} : valueYield srid language s table t c v = .error e ↔
      ∃ misfit, coerce srid language c.datatype c.type v = .error misfit ∧
        e = .invalidValue t.id c.node misfit.reason := by
  unfold valueYield
  rcases coerce srid language c.datatype c.type v with misfit | _ | expression
  · simp [eq_comm]
  · simp
  · simp

/-- Only a value can fail. -/
theorem exists_value_of_yield {step : Step} {e : ExportError}
    (h : step.yield srid language s = .error e) :
    ∃ table t c v, step = .value table t c v ∧ valueYield srid language s table t c v = .error e := by
  cases step with
  | resource r => cases h
  | tile table t => cases h
  | value table t c v => exact ⟨table, t, c, v, rfl, h⟩

/-- Columns whose values have been gone through refuse none of them. -/
theorem not_refuses_of_run {steps : List Step} {y : Yield} {table : Table} {t : Tile}
    {columns : List Column} (h : run srid language s steps = (y, none))
    (hsteps : valueSteps table t columns ⊆ steps) {c : Column} (hc : c ∈ columns) (misfit : Misfit) :
    ¬ Refuses srid language t c misfit := by
  rintro ⟨v, hv, hfail⟩
  have hstep : Step.value table t c v ∈ steps :=
    hsteps (List.mem_filterMap.2 ⟨c, hc, by rw [hv, Option.map_some]⟩)
  obtain ⟨y', hy'⟩ := exists_yield_of_mem h hstep
  have herror : valueYield srid language s table t c v =
      .error (.invalidValue t.id c.node misfit.reason) :=
    valueYield_eq_error_iff.2 ⟨misfit, hfail, rfl⟩
  cases hy'.symm.trans herror

theorem not_refuses_of_tileSteps {steps : List Step} {y : Yield} {table : Table} {t : Tile}
    (h : run srid language s steps = (y, none)) (hsteps : tileSteps table t ⊆ steps) {c : Column}
    (hc : c ∈ table.columns) (misfit : Misfit) : ¬ Refuses srid language t c misfit :=
  not_refuses_of_run h (List.Subset.trans (List.subset_cons_self _ _) hsteps) hc misfit

/-! ### Where the work stops -/

/-- A step for a value is traced back to its table, its tile and its column. -/
theorem exists_place_of_steps {before after : List Step} {table : Table} {t : Tile} {c : Column}
    {v : Json.Value} (h : steps source s = before ++ .value table t c v :: after) :
    ∃ tables tiles columns, tables ++ [table] <+: s.tables ∧
      tiles ++ [t] <+: source.tiles table.nodegroup ∧ columns ++ [c] <+: table.columns ∧
      t.value? c.node = some v ∧
      before = (source.resources s.graph).map .resource ++
        (tables.flatMap fun table => (source.tiles table.nodegroup).flatMap (tileSteps table)) ++
        tiles.flatMap (tileSteps table) ++
        .tile table t :: valueSteps table t columns := by
  obtain ⟨before₁, rfl, h₁⟩ := exists_of_append_eq (by simp) h
  obtain ⟨tables, table', tablesAfter, before₂, _, htables, h₂, rfl⟩ := exists_of_flatMap_eq h₁
  obtain ⟨tiles, t', tilesAfter, before₃, _, htiles, h₃, rfl⟩ := exists_of_flatMap_eq h₂
  rw [tileSteps, ← List.singleton_append] at h₃
  obtain ⟨before₄, rfl, h₄⟩ := exists_of_append_eq (by simp) h₃
  obtain ⟨columns, c', columnsAfter, hcolumns, hc, rfl⟩ := exists_of_filterMap_eq h₄
  obtain ⟨v', hv, heq⟩ := Option.map_eq_some_iff.1 hc
  cases heq
  refine ⟨tables, tiles, columns, ⟨tablesAfter, ?_⟩, ⟨tilesAfter, ?_⟩, ⟨columnsAfter, ?_⟩, hv, ?_⟩
  · rw [htables, List.append_assoc, List.singleton_append]
  · rw [htiles, List.append_assoc, List.singleton_append]
  · rw [hcolumns, List.append_assoc, List.singleton_append]
  · simp only [List.append_assoc, List.singleton_append, valueSteps]

/-- A run that fails does so at the first value that is refused. -/
theorem exists_firstMisfit {y : Yield} {e : ExportError}
    (h : run srid language s (steps source s) = (y, some e)) :
    ∃ p : FirstMisfit source srid language s, e = p.error ∧ y.statements = p.statements := by
  obtain ⟨before, step, after, hsteps, hbefore, hstep⟩ := run_eq_error_iff.1 h
  obtain ⟨table, t, c, v, rfl, hvalue⟩ := exists_value_of_yield hstep
  obtain ⟨misfit, hmisfit, rfl⟩ := valueYield_eq_error_iff.1 hvalue
  obtain ⟨tables, tiles, columns, htables, htiles, hcolumns, hv, rfl⟩ := exists_place_of_steps hsteps
  refine ⟨⟨tables, table, tiles, t, columns, c, misfit, htables, htiles, hcolumns, ⟨v, hv, hmisfit⟩,
    ?tables, ?tiles, ?columns⟩, rfl, ?statements⟩
  -- The values before this one have steps of their own among those that were taken.
  case tables =>
    intro table' htable' t' ht' c' hc'
    refine not_refuses_of_tileSteps hbefore (fun step hmem => ?_) hc'
    simp only [List.mem_append, List.mem_flatMap]
    exact .inl (.inl (.inr ⟨table', htable', t', ht', hmem⟩))
  case tiles =>
    intro t' ht' c' hc'
    refine not_refuses_of_tileSteps hbefore (fun step hmem => ?_) hc'
    simp only [List.mem_append, List.mem_flatMap]
    exact .inl (.inr ⟨t', ht', hmem⟩)
  case columns =>
    intro c' hc'
    have hsub : valueSteps table t columns ⊆ .tile table t :: valueSteps table t columns :=
      List.subset_cons_self _ _
    exact not_refuses_of_run hbefore (List.Subset.trans hsub (List.subset_append_right _ _)) hc'
  case statements =>
    have htile (table : Table) (t : Tile) :
        (tileSteps table t).flatMap (Step.statements srid language s) =
          tileStatements srid language s table table.columns t :=
      statements_tile_valueSteps table t table.columns
    rw [statements_of_run hbefore, FirstMisfit.statements, resourceStatements, List.flatMap_append,
      List.flatMap_append, List.flatMap_append, List.flatMap_map, List.map_eq_flatMap,
      statements_tile_valueSteps]
    simp only [List.flatMap_assoc, htile]
    rfl

/-- A refused value of any tile makes the work fail. -/
theorem exists_error_of_refuses {table : Table} {t : Tile} {c : Column} {misfit : Misfit}
    (htable : table ∈ s.tables) (ht : t ∈ source.tiles table.nodegroup) (hc : c ∈ table.columns)
    (h : Refuses srid language t c misfit) : ∃ e, materialize source srid language s = .error e := by
  cases hm : materialize source srid language s with
  | error e => exact ⟨e, rfl⟩
  | ok y =>
    have hsteps : tileSteps table t ⊆ steps source s := fun step hmem =>
      List.mem_append_right _ (List.mem_flatMap.2 ⟨table, htable, List.mem_flatMap.2 ⟨t, ht, hmem⟩⟩)
    exact absurd h (not_refuses_of_tileSteps (materialize_eq_ok_iff.1 hm) hsteps hc misfit)

/-- The rows of a schema cannot all be written exactly if some tile has a value that a column of its
table refuses. The failure is then that of the first such value. Whatever script the rows are added to,
only its data have changed by then: they go on with what is written before that value. -/
theorem materialize_stops_at_misfit (source : Source) (srid : Nat) (language : String) (s : Schema) :
    ((∃ e, materialize source srid language s = .error e) ↔
      ∃ table ∈ s.tables, ∃ t ∈ source.tiles table.nodegroup, ∃ c ∈ table.columns,
        ∃ misfit, Refuses srid language t c misfit) ∧
    ∀ e, materialize source srid language s = .error e →
      ∃ p : FirstMisfit source srid language s, e = p.error ∧
        ∀ script : Script Statement, script ++ (run srid language s (steps source s)).1.script =
          { script with data := script.data ++ p.statements } := by
  have hfirst {e : ExportError} (h : materialize source srid language s = .error e) :
      ∃ p : FirstMisfit source srid language s, e = p.error ∧
        (run srid language s (steps source s)).1.statements = p.statements := by
    obtain ⟨y, hrun⟩ := materialize_eq_error_iff.1 h
    rw [hrun]
    exact exists_firstMisfit hrun
  refine ⟨⟨?_, ?_⟩, ?_⟩
  · rintro ⟨e, h⟩
    obtain ⟨p, -⟩ := hfirst h
    have htable : p.table ∈ s.tables := p.tables_prefix.subset (by simp)
    have htile : p.tile ∈ source.tiles p.table.nodegroup := p.tiles_prefix.subset (by simp)
    have hcolumn : p.column ∈ p.table.columns := p.columns_prefix.subset (by simp)
    exact ⟨p.table, htable, p.tile, htile, p.column, hcolumn, p.misfit, p.refuses⟩
  · rintro ⟨table, htable, t, ht, c, hc, misfit, hrefuses⟩
    exact exists_error_of_refuses htable ht hc hrefuses
  · intro e h
    obtain ⟨p, he, hstatements⟩ := hfirst h
    refine ⟨p, he, fun script => Script.ext_statements fun phase => ?_⟩
    rw [Script.statements_append]
    cases phase with
    | data => exact congrArg (script.data ++ ·) hstatements
    | tables | columns | constraints => exact List.append_nil _

/-- A site with two parts whose kinds are no identifiers. The first one has a text that is stored
before. -/
def spoiledPackage : Package where
  graphs := [siteGraph]
  resources := [{ id := .ofNat 20, graph := .ofNat 9 }]
  tiles := [
    { id := .ofNat 22, resource := .ofNat 20, nodegroup := .ofNat 3, parent := some (.ofNat 21)
      data := [((Uuid.ofNat 3).toString, .string "North"), ((Uuid.ofNat 4).toString, .string "wall")] },
    { id := .ofNat 23, resource := .ofNat 20, nodegroup := .ofNat 3, parent := some (.ofNat 21)
      data := [((Uuid.ofNat 4).toString, .string "roof")] },
    { id := .ofNat 21, resource := .ofNat 20, nodegroup := .ofNat 2
      data := [((Uuid.ofNat 2).toString, .string "1850-01-01")] }]

theorem materialize_stops_at_misfit_spoiledPackage :
    ∃ s, Schema.derive (.ofPackage spoiledPackage) {} "en" siteGraph = .ok s ∧
      materialize (.ofPackage spoiledPackage) 4326 "en" s =
        .error (.invalidValue (.ofNat 22) (.ofNat 4) "'wall' is not a valid identifier") ∧
      ∃ p : FirstMisfit (.ofPackage spoiledPackage) 4326 "en" s, p.tile.id = .ofNat 22 ∧
        p.column.node = .ofNat 4 ∧ p.statements.length = 6 ∧
        ∀ script : Script Statement,
          script ++ (run 4326 "en" s (steps (.ofPackage spoiledPackage) s)).1.script =
            { script with data := script.data ++ p.statements } := by
  have hrun : ∃ s ∈ (Schema.derive (.ofPackage spoiledPackage) {} "en" siteGraph).toOption,
      (run 4326 "en" s (steps (.ofPackage spoiledPackage) s)).2 =
          some (.invalidValue (.ofNat 22) (.ofNat 4) "'wall' is not a valid identifier") ∧
        (run 4326 "en" s (steps (.ofPackage spoiledPackage) s)).1.statements.length = 6 := by
    rw [Source.ofPackage_eq]
    decide +kernel
  obtain ⟨s, hs, hfailure, hlength⟩ := hrun
  have herror := materialize_eq_error_iff.2 ⟨_, Prod.ext rfl hfailure⟩
  obtain ⟨-, hstops⟩ := materialize_stops_at_misfit (.ofPackage spoiledPackage) 4326 "en" s
  obtain ⟨p, he, hscript⟩ := hstops _ herror
  have hstatements : (run 4326 "en" s (steps (.ofPackage spoiledPackage) s)).1.statements =
      p.statements := congrArg Script.data (hscript {})
  obtain ⟨htile, hcolumn, -⟩ := ExportError.invalidValue.inj he
  refine ⟨s, mem_toOption_iff.1 hs, herror, p, htile.symm, hcolumn.symm, ?_, hscript⟩
  rw [← hstatements, hlength]

end ResourceTables.Rows
