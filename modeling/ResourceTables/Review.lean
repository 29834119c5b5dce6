import Std.Data.HashMap
import Std.Data.HashSet
import ResourceTables.Package
import ResourceTables.Review.Cycles
import ResourceTables.Review.Issue

/-!
# ResourceTables.Review

The review of a package: structural problems of its graphs, and tiles that do not point where they
should. A tile has a parent tile exactly if its nodegroup has a parent nodegroup.
-/

namespace ResourceTables

open Json (Value)

/-! ### Graphs -/

namespace Graph

/-- There should be one top node. -/
def topIssues (g : Graph) : List GraphIssue :=
  match g.nodes.filter (·.isTop) with
  | [] => [.missingTopNode]
  | [_] => []
  | tops => [.multipleTopNodes (tops.map Node.id)]

/-- A nodegroup should have a collector, and a parent that is known. -/
def nodegroupIssues (g : Graph) (group : NodeGroup) : List GraphIssue :=
  (if (g.collector? group.id).isNone then [.missingCollector group.id] else []) ++
    match group.parent with
    | some parent =>
      if (g.nodegroup? parent).isNone then [.unknownParentNodegroup group.id parent] else []
    | none => []

/-- Whether a node has what its datatype needs. -/
def isConfigured (n : Node) : Bool :=
  if n.datatype.isConcept then n.vocabulary?.isSome
  else if n.datatype.isLookup then n.options?.isSome
  else true

/-- A node should belong to a known nodegroup unless it is a top node, and be configured. -/
def nodeIssues (g : Graph) (n : Node) : List GraphIssue :=
  (match n.nodegroup with
    | some nodegroup =>
      if (g.nodegroup? nodegroup).isNone then [.unknownNodegroup n.id nodegroup] else []
    | none => if n.isTop then [] else [.orphanNode n.id]) ++
    if isConfigured n then [] else [.missingLookupConfiguration n.id n.datatype.tag]

/-- What is wrong with a graph. -/
def issues (g : Graph) : List GraphIssue :=
  g.topIssues ++ g.nodegroups.flatMap g.nodegroupIssues ++ g.nodes.flatMap g.nodeIssues ++
    g.cycles.map .cyclicNodegroups

end Graph

/-! ### Tiles -/

namespace Package

/-- The nodegroups of all graphs; of several with one identifier the last one counts. -/
def nodegroups (p : Package) : Std.HashMap Uuid NodeGroup :=
  (p.graphs.flatMap Graph.nodegroups).foldl (fun index group => index.insert group.id group) ∅

/-- The parent of a tile against the parent of its nodegroup. -/
def parentIssues (tiles : Std.HashSet Uuid) (group : NodeGroup) (t : Tile) : List TileIssue :=
  match group.parent, t.parent with
  | some _, none => [.missingParentTile t.id]
  | none, some parent => [.unexpectedParentTile t.id parent]
  | some _, some parent => if tiles.contains parent then [] else [.unknownParentTile t.id parent]
  | none, none => []

/-- What is wrong with the tiles. -/
def tileIssues (p : Package) : List TileIssue :=
  let nodegroups := p.nodegroups
  let resources := Std.HashSet.ofList (p.resources.map Resource.id)
  let tiles := Std.HashSet.ofList (p.tiles.map Tile.id)
  p.tiles.flatMap fun t =>
    (if resources.contains t.resource then [] else [TileIssue.unknownResource t.id t.resource]) ++
      match nodegroups[t.nodegroup]? with
      | none => [.unknownNodegroup t.id t.nodegroup]
      | some group => parentIssues tiles group t

end Package

/-! ### Reports -/

/-- What a review found. -/
structure Report where
  graphs : List (Graph × List GraphIssue)
  tilesChecked : Nat
  tiles : List TileIssue

namespace Report

/-- The review of a package. -/
def of (p : Package) : Report where
  graphs := p.graphs.map fun g => (g, g.issues)
  tilesChecked := p.tiles.length
  tiles := p.tileIssues

/-- How many issues there are. -/
def size (r : Report) : Nat := (r.graphs.flatMap fun (_, l) => l).length + r.tiles.length

/-- The document of a report. -/
def toJson (r : Report) : Value :=
  .object [("graphs", .array (r.graphs.map fun (g, l) =>
      .object [("graph_id", .string g.id.toString),
        ("issues", .array (l.map GraphIssue.toJson))])),
    ("tiles", .object [("tiles_checked", .nat r.tilesChecked),
      ("issues", .array (r.tiles.map TileIssue.toJson))])]

/-- A line for each of some issues. -/
def issueLines (issues : List String) : List String := issues.map ("   " ++ ·)

/-- The lines of a report for people to read. -/
def lines (r : Report) : List String :=
  r.graphs.flatMap (fun (g, l) =>
    ((if l.isEmpty then "✅ " else "❌ ") ++ g.name.text ++ " (" ++ g.id.toString ++ ")") ::
      issueLines (l.map GraphIssue.text)) ++
  ("Tiles: " ++ toString r.tilesChecked ++ " checked, " ++ toString r.tiles.length ++
    " issue(s)") :: issueLines (r.tiles.map TileIssue.text)

end Report

end ResourceTables
