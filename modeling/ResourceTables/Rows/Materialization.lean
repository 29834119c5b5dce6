import ResourceTables.Schema
import ResourceTables.Package
import ResourceTables.ExportError
import ResourceTables.Rows.Coercion
import ResourceTables.Sql.Script
import ResourceTables.Sql.Statement

/-!
# ResourceTables.Rows.Materialization

The rows of a derived schema: one for every resource in the root table, one for every tile in the
table of its nodegroup, and an update for every stored value.

Design points:

* The work is a list of steps (`steps`), each of which reads nothing but itself. What a step yields
  (`Step.yield`) says what statements it is done by.
* Steps are taken in order up to the first one that fails (`run`). What was written before it is
  kept, for those who want to see how far it went.
-/

namespace ResourceTables.Rows

open Json (Decoder Value Fields)
open Sql (Script Statement TableName Expression)

/-! ### Counts -/

/-- What was written. -/
structure Stats where
  resources : Nat := 0
  tiles : Nat := 0
  /-- Values that were stored. -/
  updates : Nat := 0
  /-- Values that held nothing to store. -/
  skipped : Nat := 0
  deriving DecidableEq

namespace Stats

/-- Counts that are taken together. -/
def add (a b : Stats) : Stats :=
  ⟨a.resources + b.resources, a.tiles + b.tiles, a.updates + b.updates, a.skipped + b.skipped⟩

instance : Add Stats := ⟨add⟩

/-- The sum of several counts. -/
def sum (l : List Stats) : Stats := l.foldr add {}

/-- Reads counts. -/
def ofJson : Decoder Stats := fun v => do
  let fields ← Fields.of ["resources", "tiles", "updates", "skipped_values"] v
  let count (name : String) := fields.required name (Decoder.unsigned 64)
  let resources := count "resources"
  let tiles := count "tiles"
  let updates := count "updates"
  let skipped := count "skipped_values"
  fields.settle [resources.failure?, tiles.failure?, updates.failure?, skipped.failure?]
  return ⟨← resources.get, ← tiles.get, ← updates.get, ← skipped.get⟩

/-- The document of counts. -/
def toJson (s : Stats) : Value :=
  .object [("resources", .nat s.resources), ("skipped_values", .nat s.skipped),
    ("tiles", .nat s.tiles), ("updates", .nat s.updates)]

end Stats

/-! ### Steps -/

/-- What is worth a word but no failure. -/
inductive Warning
  /-- A tile of a nested nodegroup belongs to no tile. -/
  | noParentTile (tile nodegroup : Uuid)
  deriving DecidableEq

/-- The wording of a warning. -/
def Warning.message : Warning → String
  | noParentTile tile nodegroup =>
    "Tile " ++ tile.toString ++ " of nodegroup " ++ nodegroup.toString ++ " has no parent tile"

/-- One piece of the work. -/
inductive Step
  | resource (r : Resource)
  | tile (table : Schema.Table) (t : Tile)
  | value (table : Schema.Table) (t : Tile) (column : Schema.Column) (value : Value)

/-- What a step, or several ones, wrote. -/
structure Yield where
  statements : List Statement := []
  stats : Stats := {}
  warnings : List Warning := []

/-- What several steps wrote, in order. -/
def Yield.append (a b : Yield) : Yield :=
  ⟨a.statements ++ b.statements, a.stats + b.stats, a.warnings ++ b.warnings⟩

instance : Append Yield := ⟨Yield.append⟩

variable (source : Source) (srid : Nat) (language : String) (s : Schema)

/-- The row that a tile's link column points to: the parent tile if the nodegroup is nested, and
else the resource. -/
def linkOf (table : Schema.Table) (t : Tile) : Option Uuid :=
  if table.parent.nodegroup.isSome then t.parent else some t.resource

/-- The insertion of a resource. -/
def resourceYield (r : Resource) : Yield where
  statements := [.insert ⟨s.name, s.rootTable⟩
    [(s.rootKey, .uuid r.id), (Schema.legacyIdColumn, .textOrNull r.legacyId)]]
  stats := { resources := 1 }

/-- The insertion of a tile. The link to a parent tile is set again after it. -/
def tileYield (table : Schema.Table) (t : Tile) : Yield where
  statements := .insert ⟨s.name, table.name⟩
      [(table.key, .uuid t.id), (table.parent.column, .uuidOrNull (linkOf table t))] ::
    match table.parent.nodegroup, t.parent with
    | some _, some parent =>
      [.update ⟨s.name, table.name⟩ table.parent.column (.uuid parent) table.key t.id]
    | _, _ => []
  stats := { tiles := 1 }
  warnings := match table.parent.nodegroup, t.parent with
    | some _, none => [.noParentTile t.id table.nodegroup]
    | _, _ => []

/-- The storing of a value. -/
def valueYield (table : Schema.Table) (t : Tile) (column : Schema.Column) (value : Value) :
    Except ExportError Yield :=
  match coerce srid language column.datatype column.type value with
  | .error misfit => .error (.invalidValue t.id column.node misfit.reason)
  | .ok none => .ok { stats := { skipped := 1 } }
  | .ok (some expression) => .ok {
      statements := [.update ⟨s.name, table.name⟩ column.name expression table.key t.id]
      stats := { updates := 1 } }

/-- What a step writes. -/
def Step.yield : Step → Except ExportError Yield
  | resource r => .ok (resourceYield s r)
  | tile table t => .ok (tileYield s table t)
  | value table t column v => valueYield srid language s table t column v

/-- The steps for a tile: its row, and the values it has for the columns of the table. -/
def tileSteps (table : Schema.Table) (t : Tile) : List Step :=
  .tile table t :: table.columns.filterMap fun column =>
    (t.value? column.node).map (.value table t column)

/-- The steps for a schema: all resources first, then the tiles table by table. -/
def steps : List Step :=
  (source.resources s.graph).map .resource ++
    s.tables.flatMap fun table => (source.tiles table.nodegroup).flatMap (tileSteps table)

/-- Takes steps up to the first one that fails: what was written, and the failure. -/
def run : List Step → Yield × Option ExportError
  | [] => ({}, none)
  | step :: rest => match step.yield srid language s with
    | .error e => ({}, some e)
    | .ok yield =>
      let (after, failure) := run rest
      (yield ++ after, failure)

/-- The rows of a schema. -/
def materialize : Except ExportError Yield :=
  match run srid language s (steps source s) with
  | (yield, none) => .ok yield
  | (_, some e) => .error e

/-- What was written as a script. -/
def Yield.script (y : Yield) : Script Statement := { data := y.statements }

end ResourceTables.Rows
