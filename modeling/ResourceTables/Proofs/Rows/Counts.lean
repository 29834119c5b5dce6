import Mathlib.Algebra.BigOperators.Group.List.Basic
import ResourceTables.Proofs.Rows.Run
import ResourceTables.Proofs.Sql.Script

/-!
# ResourceTables.Proofs.Rows.Counts

The counts of what is written for a schema are exact: no step of the work goes uncounted and none
counts twice.

What a step adds to the statements and to the counts is told of the step alone (`Counts.single`), and
runs are put together from steps (`counts_of_run`). What there is to do is counted apart from that, as
resources, tiles and stored values (`countP_steps`).
-/

namespace ResourceTables.Rows

open Schema (Table Column)
open Sql (Script)

variable {source : Source} {srid : Nat} {language : String} {s : Schema}

/-! ### Kinds of steps -/

/-- Whether a value turned out to hold nothing to store. -/
def holdsNothing : Coerced → Bool
  | .ok none => true
  | _ => false

namespace Step

/-- Whether a step inserts a resource. -/
def isResource : Step → Bool
  | resource _ => true
  | _ => false

/-- Whether a step inserts a tile. -/
def isTile : Step → Bool
  | tile _ _ => true
  | _ => false

/-- Whether a step inserts a tile whose link to its parent tile is set again. -/
def isNestedTile : Step → Bool
  | tile table t => table.parent.nodegroup.isSome && t.parent.isSome
  | _ => false

/-- Whether a step stores a value. -/
def isValue : Step → Bool
  | value _ _ _ _ => true
  | _ => false

/-- Whether a step is about a value that holds nothing to store. -/
def isSkipped (srid : Nat) (language : String) : Step → Bool
  | value _ _ c v => holdsNothing (coerce srid language c.datatype c.type v)
  | _ => false

end Step

/-- What was written is counted step by step. -/
structure Counts (srid : Nat) (language : String) (steps : List Step) (y : Yield) : Prop where
  resources : y.stats.resources = steps.countP Step.isResource
  tiles : y.stats.tiles = steps.countP Step.isTile
  values : y.stats.updates + y.stats.skipped = steps.countP Step.isValue
  skipped : y.stats.skipped = steps.countP (Step.isSkipped srid language)
  /-- Nothing else is written but the links that are set again. -/
  statements : y.statements.length =
    y.stats.resources + y.stats.tiles + y.stats.updates + steps.countP Step.isNestedTile

namespace Counts

theorem nil : Counts srid language [] {} := ⟨rfl, rfl, rfl, rfl, rfl⟩

theorem single {step : Step} {y : Yield} (h : step.yield srid language s = .ok y) :
    Counts srid language [step] y := by
  cases step with
  | resource r =>
    cases h
    exact ⟨rfl, rfl, rfl, rfl, rfl⟩
  | tile table t =>
    cases h
    refine ⟨rfl, rfl, rfl, rfl, ?_⟩
    cases hgroup : table.parent.nodegroup <;> cases hparent : t.parent <;>
      simp [tileYield, Step.isNestedTile, hgroup, hparent]
  | value table t c v =>
    rcases valueYield_eq_ok h with ⟨hc, rfl⟩ | ⟨e, hc, rfl⟩
    all_goals
      refine ⟨rfl, rfl, rfl, ?_, rfl⟩
      simp [Step.isSkipped, hc, holdsNothing]

theorem append {steps steps' : List Step} {a b : Yield} (ha : Counts srid language steps a)
    (hb : Counts srid language steps' b) : Counts srid language (steps ++ steps') (a ++ b) := by
  obtain ⟨hresources, htiles, hvalues, hskipped, hstatements⟩ := ha
  obtain ⟨hresources', htiles', hvalues', hskipped', hstatements'⟩ := hb
  have hstats : (a ++ b).stats = a.stats.add b.stats := rfl
  constructor
  all_goals
    simp only [hstats, Stats.add, Yield.statements_append, List.length_append, List.countP_append]
    omega

end Counts

/-- A run that does not fail is counted step by step. -/
theorem counts_of_run {steps : List Step} {y : Yield}
    (h : run srid language s steps = (y, none)) : Counts srid language steps y := by
  obtain ⟨yields, hall, rfl⟩ := run_eq_ok_iff.1 h
  clear h
  induction hall with
  | nil => exact .nil
  | cons hstep _ ih => exact (Counts.single hstep).append ih

/-! ### What there is to do -/

/-- A value that a tile has for a column of its table. -/
structure StoredValue where
  table : Table
  tile : Tile
  column : Column
  value : Json.Value

/-- The step that stores a value. -/
def StoredValue.step (v : StoredValue) : Step := .value v.table v.tile v.column v.value

/-- Whether a value holds nothing to store. -/
def StoredValue.isSkipped (srid : Nat) (language : String) (v : StoredValue) : Bool :=
  holdsNothing (coerce srid language v.column.datatype v.column.type v.value)

/-- The values that a tile has for the columns of its table. -/
def tileValues (table : Table) (t : Tile) : List StoredValue :=
  table.columns.filterMap fun column => (t.value? column.node).map (⟨table, t, column, ·⟩)

/-- The values that tiles have for the columns of a schema. -/
def storedValues (source : Source) (s : Schema) : List StoredValue :=
  s.tables.flatMap fun table => (source.tiles table.nodegroup).flatMap (tileValues table)

theorem tileSteps_eq (table : Table) (t : Tile) :
    tileSteps table t = .tile table t :: (tileValues table t).map StoredValue.step := by
  rw [tileSteps, tileValues, List.map_filterMap]
  simp only [Option.map_map]
  rfl

theorem countP_tileSteps (p : Step → Bool) (table : Table) (tiles : List Tile) :
    (tiles.flatMap (tileSteps table)).countP p =
      tiles.countP (fun t => p (.tile table t)) +
        (tiles.flatMap (tileValues table)).countP fun v => p v.step := by
  induction tiles with
  | nil => rfl
  | cons t tiles ih =>
    have hvalues : ((tileValues table t).map StoredValue.step).countP p =
        (tileValues table t).countP fun v => p v.step := List.countP_map
    rw [List.flatMap_cons, List.countP_append, ih, tileSteps_eq, List.countP_cons, hvalues,
      List.countP_cons, List.flatMap_cons, List.countP_append]
    omega

/-- The steps for a schema, counted as resources, tiles and values. -/
theorem countP_steps (p : Step → Bool) :
    (steps source s).countP p =
      (source.resources s.graph).countP (fun r => p (.resource r)) +
        (s.tables.map fun table =>
          (source.tiles table.nodegroup).countP fun t => p (.tile table t)).sum +
        (storedValues source s).countP fun v => p v.step := by
  have htables : (s.tables.flatMap fun table =>
      (source.tiles table.nodegroup).flatMap (tileSteps table)).countP p =
        (s.tables.map fun table =>
          (source.tiles table.nodegroup).countP fun t => p (.tile table t)).sum +
        (storedValues source s).countP fun v => p v.step := by
    unfold storedValues
    induction s.tables with
    | nil => rfl
    | cons table tables ih =>
      rw [List.flatMap_cons, List.countP_append, ih, countP_tileSteps, List.map_cons,
        List.sum_cons, List.flatMap_cons, List.countP_append]
      omega
  rw [steps, List.countP_append, htables, List.countP_map, ← Nat.add_assoc]
  rfl

/-! ### The rows of a schema -/

/-- What is written for a schema is counted exactly. -/
structure Accounts (source : Source) (srid : Nat) (language : String) (s : Schema) (y : Yield) :
    Prop where
  resources : y.stats.resources = (source.resources s.graph).length
  tiles : y.stats.tiles = (s.tables.map fun table => (source.tiles table.nodegroup).length).sum
  values : y.stats.updates + y.stats.skipped = (storedValues source s).length
  skipped : y.stats.skipped = (storedValues source s).countP (StoredValue.isSkipped srid language)
  /-- How much the rows add to a script. -/
  statements : ∀ (script : Script Sql.Statement) (phase : Sql.Phase),
    ((script ++ y.script).statements phase).length = (script.statements phase).length +
      if phase = .data then
        y.stats.resources + y.stats.tiles + y.stats.updates +
          (s.tables.map fun table =>
            if table.parent.nodegroup.isSome then
              (source.tiles table.nodegroup).countP (·.parent.isSome)
            else 0).sum
      else 0

theorem accounts_of_materialize {y : Yield} (h : materialize source srid language s = .ok y) :
    Accounts source srid language s y := by
  have hcounts := counts_of_run (materialize_eq_ok_iff.1 h)
  have hnested : (steps source s).countP Step.isNestedTile =
      (s.tables.map fun table =>
        if table.parent.nodegroup.isSome then
          (source.tiles table.nodegroup).countP (·.parent.isSome)
        else 0).sum := by
    have htable (table : Table) :
        (source.tiles table.nodegroup).countP (fun t => (Step.tile table t).isNestedTile) =
          if table.parent.nodegroup.isSome then
            (source.tiles table.nodegroup).countP (·.parent.isSome)
          else 0 := by
      cases hgroup : table.parent.nodegroup.isSome <;> simp [Step.isNestedTile, hgroup]
    rw [countP_steps]
    simp only [htable]
    simp [Step.isNestedTile, StoredValue.step]
  constructor
  case resources =>
    rw [hcounts.resources, countP_steps]
    simp [Step.isResource, StoredValue.step]
  case tiles =>
    rw [hcounts.tiles, countP_steps]
    simp [Step.isTile, StoredValue.step]
  case values =>
    rw [hcounts.values, countP_steps]
    simp [Step.isValue, StoredValue.step]
  case skipped =>
    rw [hcounts.skipped, countP_steps]
    simp [Step.isSkipped, StoredValue.step]
    rfl
  case statements =>
    intro script phase
    rw [Script.statements_append, List.length_append]
    cases phase with
    | data => rw [if_pos rfl, ← hnested, ← hcounts.statements]; rfl
    | _ => rfl

end ResourceTables.Rows
