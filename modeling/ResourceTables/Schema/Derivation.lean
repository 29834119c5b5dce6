import ResourceTables.Schema
import ResourceTables.Package
import ResourceTables.Identifier.Names

/-!
# ResourceTables.Schema.Derivation

Derivation of a schema from a graph. Only the graph and the vocabularies are read.

Design points:

* A table is derived for every collector, in the order of the nodes, and a column for every member
  of its nodegroup that has a column type, in the same order.
* The parent's table is not looked up among the derived ones. Its name is derived from the parent's
  collector again, by the same rule as that table's own name.
* The first failure counts, in the order in which tables and columns are derived.
-/

namespace ResourceTables.Schema

open Json (Value)

variable (source : Source) (names : Names) (language : String)

/-! ### Lookup tables -/

/-- The values among the entries, each identifier once: those that only group others are left out,
and of several entries with one identifier the first one is kept. -/
def valuesAfter (seen : List Uuid) : List Entry → List Entry
  | [] => []
  | e :: rest =>
    if e.isGrouping || e.id ∈ seen then valuesAfter seen rest
    else e :: valuesAfter (e.id :: seen) rest

/-- An option as an entry: its identifier and its label; nothing if it has no identifier. -/
def entryOfOption? (option : Value) : Option Entry :=
  (((option.get? "id").bind Value.text?).bind Uuid.parse?).map fun id =>
    let label := (option.get? "text").bind fun text => LocalizedText.ofValue? text language
    { id, label := (label.map fun t => t.resolve language defaultLanguage).getD "", depth := 1 }

/-- The entries a lookup node may draw its values from. -/
def candidates (node : Node) : Except ExportError (List Entry) :=
  let missing : ExportError := .missingConfiguration node.id node.datatype.tag
  if node.datatype.isConcept then
    match node.vocabulary? with
    | none => .error missing
    | some collection => match source.entries? collection with
      | none => .error (.unknownCollection node.id collection)
      | some entries => .ok entries
  else match node.options? with
    | none => .error missing
    | some options => match options.mapM (entryOfOption? language) with
      | none => .error missing
      | some entries => .ok entries

/-- The entries of the lookup table of a node. -/
def lookupEntries (node : Node) : Except ExportError (List Entry) :=
  (candidates source language node).map (valuesAfter [])

/-! ### Tables -/

/-- The column of a node in a table; nothing if the node's datatype has no column type. -/
def deriveColumn? (table : String) (node : Node) : Except ExportError (Option Column) := do
  match node.datatype.columnType? with
  | none => return none
  | some type =>
    let name := names.slug node.name
    let lookup ← if node.datatype.isLookup then
        (lookupEntries source language node).map fun entries =>
          some (Lookup.mk (names.lookupTable table name) entries)
      else pure none
    return some {
      node := node.id, nodeName := node.name, datatype := node.datatype, name, type, lookup }

/-- The link of a nodegroup's table to its parent. -/
def deriveParent (graph : Graph) (rootTable : String) (nodegroup : NodeGroup) :
    Except ExportError ParentLink := do
  match nodegroup.parent with
  | none =>
    return { nodegroup := none, table := rootTable, column := names.keyColumn rootTable }
  | some parent => match graph.collector? parent with
    | none => throw (.missingCollector parent)
    | some collector =>
      let table ← names.qualify graph collector
      return { nodegroup := some parent, table, column := names.keyColumn table }

/-- The columns of some members, in order. -/
def deriveColumns (table : String) : List Node → Except ExportError (List Column)
  | [] => .ok []
  | node :: rest => do
    let column ← deriveColumn? source names language table node
    let columns ← deriveColumns table rest
    return column.toList ++ columns

/-- The table of a collector's nodegroup. -/
def deriveTable (graph : Graph) (rootTable : String) (collector : Node) :
    Except ExportError Table := do
  match graph.nodegroup? collector.id with
  | none => throw (.unknownNodegroup collector.id)
  | some nodegroup =>
    let name ← names.qualify graph collector
    let parent ← deriveParent names graph rootTable nodegroup
    let columns ← deriveColumns source names language name (graph.members collector.id)
    return {
      nodegroup := collector.id, nodegroupName := collector.name,
      cardinality := nodegroup.cardinality, name, key := names.keyColumn name, parent, columns }

/-- The schema of a graph. -/
def derive (graph : Graph) : Except ExportError Schema := do
  match graph.topNode? with
  | none => throw (.missingTopNode graph.id)
  | some top =>
    let rootTable := names.slug top.name
    let tables ← graph.collectors.mapM (deriveTable source names language graph rootTable)
    return {
      graph := graph.id, graphName := graph.name.resolve language defaultLanguage,
      name := rootTable, rootTable, rootKey := names.keyColumn rootTable, tables }

end ResourceTables.Schema
