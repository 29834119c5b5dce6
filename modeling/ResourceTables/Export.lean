import ResourceTables.Schema.Derivation
import ResourceTables.Schema.Definition
import ResourceTables.Registry
import ResourceTables.Rows.Materialization
import ResourceTables.Text.Blank

/-!
# ResourceTables.Export

The export of all selected graphs of a source as one script.

Design points:

* What a graph contributes (`contribution`) depends on nothing but the source, the options and the
  graph. The script is the registry's table followed by the contributions, phase by phase.
* A schema is removed with all that it holds before it is created, so none may be the one that holds
  the registry.
-/

namespace ResourceTables

open Json (Decoder Value Fields)
open Sql (Script Statement TableName)

/-! ### Options -/

/-- The model of a system's own settings, which no export includes by itself. -/
def systemSettingsGraph : Uuid := .ofNat 0xff623370fa1211e6b98b6c4008b05c4c

/-- What is exported, and how. -/
structure ExportOptions where
  /-- How long names may be, before the suffix of key columns. -/
  maxLength : Nat := 60
  /-- The spatial reference system of stored geometries. -/
  srid : Nat := 4326
  language : String := defaultLanguage
  registry : TableName := ⟨"public", "__arches_relational_registry"⟩
  /-- Graphs that are never exported. -/
  excluded : List Uuid := [systemSettingsGraph]
  /-- The only graphs to export, if given. -/
  only : Option (List Uuid) := none
  /-- Whether rows are exported as well. -/
  includeRows : Bool := true
  deriving DecidableEq

namespace ExportOptions

/-- The longest name a database keeps. -/
def identifierLimit : Nat := 63

/-- Why options are refused, if they are. A key column's suffix has three characters. -/
def fault? (o : ExportOptions) : Option ExportError :=
  let limit := identifierLimit - 3
  if o.maxLength = 0 || limit < o.maxLength then
    some (.validation ("identifier length must be between 1 and " ++ toString limit ++ ", got " ++
      toString o.maxLength))
  else if (Text.trim o.registry.schema).isEmpty || (Text.trim o.registry.table).isEmpty then
    some (.validation "registry schema and table must not be empty")
  else none

/-- Whether a graph is exported. -/
def selects (o : ExportOptions) (g : Graph) : Bool :=
  g.isResource && !o.excluded.contains g.id &&
    match o.only with
    | some ids => ids.contains g.id
    | none => true

/-- The fields in the order of the declaration. -/
def fieldNames : List String :=
  ["max_identifier_length", "srid", "language", "registry_schema", "registry_table",
    "excluded_graphs", "graphs", "include_data"]

/-- Reads options. -/
def ofJson : Decoder ExportOptions := fun v => do
  let fields ← Fields.of fieldNames v
  let standard : ExportOptions := {}
  let maxLength := fields.optional "max_identifier_length" (Decoder.unsigned 64)
  let srid := fields.optional "srid" (Decoder.unsigned 32)
  let language := fields.optional "language" Decoder.string
  let schema := fields.optional "registry_schema" Decoder.string
  let table := fields.optional "registry_table" Decoder.string
  let excluded := fields.optional "excluded_graphs" (Decoder.list Decoder.uuid)
  let only := fields.optional "graphs" (Decoder.nullable (Decoder.list Decoder.uuid))
  let includeRows := fields.optional "include_data" Decoder.bool
  fields.settle [maxLength.failure?, srid.failure?, language.failure?, schema.failure?,
    table.failure?, excluded.failure?, only.failure?, includeRows.failure?]
  return {
    maxLength := maxLength.getD standard.maxLength
    srid := srid.getD standard.srid
    language := language.getD standard.language
    registry := ⟨schema.getD standard.registry.schema, table.getD standard.registry.table⟩
    excluded := excluded.getD standard.excluded
    only := only.getD none
    includeRows := includeRows.getD true }

/-- Identifiers as a value. -/
def uuids (ids : List Uuid) : Value := .array (ids.map fun id => .string id.toString)

/-- The document of options. -/
def toJson (o : ExportOptions) : Value :=
  .object [("excluded_graphs", uuids o.excluded), ("graphs", Value.orNull uuids o.only),
    ("include_data", .bool o.includeRows), ("language", .string o.language),
    ("max_identifier_length", .nat o.maxLength), ("registry_schema", .string o.registry.schema),
    ("registry_table", .string o.registry.table), ("srid", .nat o.srid)]

end ExportOptions

/-! ### Graphs -/

/-- What one graph, or several ones, add to an export. -/
structure Contribution where
  schemas : List Schema := []
  script : Script Statement := {}
  stats : Rows.Stats := {}
  warnings : List Rows.Warning := []

/-- What several graphs add. -/
def Contribution.append (a b : Contribution) : Contribution :=
  ⟨a.schemas ++ b.schemas, a.script ++ b.script, a.stats + b.stats, a.warnings ++ b.warnings⟩

variable (source : Source) (o : ExportOptions)

/-- The graphs to export, in the order of the source. -/
def selectedGraphs : List Graph := source.graphs.filter o.selects

/-- What a graph adds to an export, and the failure that stops the export there. What was worth a
word up to a failure is kept. -/
def contribution (g : Graph) : Contribution × Option ExportError :=
  let names : Names := ⟨o.maxLength⟩
  match Schema.derive source names o.language g with
  | .error e => ({}, some e)
  | .ok s =>
    if s.name = o.registry.schema then
      ({}, some (.validation ("graph " ++ g.id.toString ++ " derives schema \"" ++ s.name ++
        "\", which holds the registry table")))
    else
      let (yield, failure) :=
        if o.includeRows then Rows.run o.srid o.language s (Rows.steps source s) else ({}, none)
      ({ schemas := [s]
         script := s.script names ++ Registry.rowScript o.registry s ++ yield.script
         stats := yield.stats
         warnings := yield.warnings }, failure)

/-- What graphs add to an export, up to the first one that fails. -/
def contributions : List Graph → Contribution × Option ExportError
  | [] => ({}, none)
  | g :: rest => match contribution source o g with
    | (c, some e) => (c, some e)
    | (c, none) =>
      let (after, failure) := contributions rest
      (c.append after, failure)

/-! ### Export -/

/-- The outcome of an export. -/
structure Export where
  script : Script Statement
  schemas : List Schema
  stats : Rows.Stats

/-- The export of all selected graphs, and what was worth a word on the way. -/
def export? : Except ExportError Export × List Rows.Warning :=
  match o.fault? with
  | some e => (.error e, [])
  | none => match contributions source o (selectedGraphs source o) with
    | (c, some e) => (.error e, c.warnings)
    | (c, none) =>
      (.ok ⟨Registry.tableScript o.registry ++ c.script, c.schemas, c.stats⟩, c.warnings)

namespace Export

/-- The script as text. -/
def render (e : Export) : String := (e.script.map Statement.render).render

/-- The lines in front of a script that was made at a given time. -/
def header (e : Export) (time : String) : String :=
  "-- Generated by arches-relational 0.3.0 at " ++ time ++ "\n-- Graphs: " ++
    toString e.schemas.length ++ "\n\n"

/-- The script as text with its header. -/
def content (e : Export) (time : String) : String := e.header time ++ e.render

end Export

end ResourceTables
