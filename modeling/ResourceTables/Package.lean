import Std.Data.HashMap
import ResourceTables.Graph
import ResourceTables.Record
import ResourceTables.Vocabulary

/-!
# ResourceTables.Package

The input of an export: a package of graphs, resources, tiles and collections, and the view that the
export has of it.

Design points:

* An export only asks four questions (`Source`), so everything about it can be said for any answers
  to them, whether they come from a package or from elsewhere.
* A package answers them from two indexes, which keep the order of the package.
-/

namespace ResourceTables

open Json (Decoder Value Fields)

/-- Graphs, records and vocabularies. -/
structure Package where
  graphs : List Graph := []
  resources : List Resource := []
  tiles : List Tile := []
  collections : List Collection := []

namespace Package

/-- The package with no content. -/
def empty : Package := {}

instance : Inhabited Package := ⟨empty⟩

/-- The content of two packages, kind by kind. -/
def append (p q : Package) : Package where
  graphs := p.graphs ++ q.graphs
  resources := p.resources ++ q.resources
  tiles := p.tiles ++ q.tiles
  collections := p.collections ++ q.collections

instance : Append Package := ⟨append⟩

/-- The first graph with an identifier. -/
def graph? (p : Package) (id : Uuid) : Option Graph := p.graphs.find? (·.id == id)

/-- The first collection with an identifier. -/
def collection? (p : Package) (id : Uuid) : Option Collection :=
  p.collections.find? (·.id == id)

end Package

/-! ### What an export reads -/

/-- The answers to the questions of an export. -/
structure Source where
  /-- All graphs, in order. -/
  graphs : List Graph
  /-- The resources of a graph, in order. -/
  resources : Uuid → List Resource
  /-- The tiles of a nodegroup, in order. -/
  tiles : Uuid → List Tile
  /-- The entries of a collection; nothing if there is no such collection. -/
  entries? : Uuid → Option (List Entry)

/-- The elements of a list by a key, those of one key in the order of the list. -/
abbrev Index (α : Type) := Std.HashMap Uuid (List α)

/-- Builds an index. Elements are entered from the last to the first, each in front of those of its
key, so that every list is in order. -/
def Index.ofList {α : Type} (key : α → Uuid) (elements : List α) : Index α :=
  elements.foldr (fun a index => index.insert (key a) (a :: index.getD (key a) [])) ∅

/-- A package as a source. -/
def Source.ofPackage (p : Package) : Source :=
  let resources := Index.ofList Resource.graph p.resources
  let tiles := Index.ofList Tile.nodegroup p.tiles
  { graphs := p.graphs
    resources := fun id => resources.getD id []
    tiles := fun id => tiles.getD id []
    entries? := fun id => (p.collection? id).map Collection.entries }

/-! ### Documents -/

/-- Reads a package. -/
def Package.ofJson : Decoder Package := fun v => do
  let fields ← Fields.of ["graphs", "resources", "tiles", "collections"] v
  let graphs := fields.optional "graphs" (Decoder.list Graph.ofJson)
  let resources := fields.optional "resources" (Decoder.list Resource.ofJson)
  let tiles := fields.optional "tiles" (Decoder.list Tile.ofJson)
  let collections := fields.optional "collections" (Decoder.list Collection.ofJson)
  fields.settle [graphs.failure?, resources.failure?, tiles.failure?, collections.failure?]
  return {
    graphs := graphs.getD []
    resources := resources.getD []
    tiles := tiles.getD []
    collections := collections.getD [] }

/-- The document of a package. -/
def Package.toJson (p : Package) : Value :=
  .object [("collections", .array (p.collections.map Collection.toJson)),
    ("graphs", .array (p.graphs.map Graph.toJson)),
    ("resources", .array (p.resources.map Resource.toJson)),
    ("tiles", .array (p.tiles.map Tile.toJson))]

end ResourceTables
