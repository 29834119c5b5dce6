import ResourceTables.Package

/-!
# ResourceTables.Proofs.Package

The indexes of a package answer like a search through its lists: the elements of a key are those of
the list that have it, in the same order.
-/

namespace ResourceTables

theorem Index.getD_ofList {α : Type} (key : α → Uuid) (elements : List α) (id : Uuid) :
    (Index.ofList key elements).getD id [] = elements.filter fun a => key a == id := by
  induction elements with
  | nil => exact Std.HashMap.getD_empty
  | cons a elements ih =>
    unfold ofList at ih ⊢
    rw [List.foldr_cons, Std.HashMap.getD_insert, List.filter_cons]
    by_cases h : (key a == id) = true
    · rw [if_pos h, if_pos h, LawfulBEq.eq_of_beq h, ih]
    · rw [if_neg h, if_neg h, ih]

/-- A package as a source, without its indexes. -/
theorem Source.ofPackage_eq (p : Package) : Source.ofPackage p =
    { graphs := p.graphs
      resources := fun id => p.resources.filter fun r => r.graph == id
      tiles := fun id => p.tiles.filter fun t => t.nodegroup == id
      entries? := fun id => (p.collection? id).map Collection.entries } := by
  simp only [ofPackage, Index.getD_ofList]

theorem Source.resources_ofPackage (p : Package) (id : Uuid) :
    (ofPackage p).resources id = p.resources.filter fun r => r.graph = id := by
  rw [ofPackage_eq]
  rfl

theorem Source.tiles_ofPackage (p : Package) (id : Uuid) :
    (ofPackage p).tiles id = p.tiles.filter fun t => t.nodegroup = id := by
  rw [ofPackage_eq]
  rfl

/-! ### Packages -/

/-- A site whose phases have parts with a kind and an outline. -/
def siteGraph : Graph where
  id := .ofNat 9
  name := .single "en" "Site"
  isResource := true
  nodes := [
    { id := .ofNat 1, name := "Site", datatype := .semantic, isTop := true },
    { id := .ofNat 2, name := "Phase", datatype := .date, nodegroup := some (.ofNat 2) },
    { id := .ofNat 3, name := "Part", datatype := .string, nodegroup := some (.ofNat 3) },
    { id := .ofNat 4, name := "Kind", datatype := .domainValue, nodegroup := some (.ofNat 3)
      config := .object [("options", .array [.object
        [("id", .string (Uuid.ofNat 5).toString), ("text", .string "Wall")]])] },
    { id := .ofNat 6, name := "Outline", datatype := .geojsonFeatureCollection
      nodegroup := some (.ofNat 3) }]
  nodegroups := [{ id := .ofNat 2 }, { id := .ofNat 3, parent := some (.ofNat 2) }]

/-- A site with one phase that has one part. -/
def sitePackage : Package where
  graphs := [siteGraph]
  resources := [{ id := .ofNat 20, graph := .ofNat 9, legacyId := some "S-1" }]
  tiles := [
    { id := .ofNat 21, resource := .ofNat 20, nodegroup := .ofNat 2
      data := [((Uuid.ofNat 2).toString, .string "1850-01-01")] },
    { id := .ofNat 22, resource := .ofNat 20, nodegroup := .ofNat 3, parent := some (.ofNat 21)
      data := [((Uuid.ofNat 4).toString, .string (Uuid.ofNat 5).toString)] }]

/-- A graph of one top node, whose key column has the name of the column for older identifiers. -/
def legacyGraph : Graph where
  id := .ofNat 9
  name := .single "en" "Legacy"
  isResource := true
  nodes := [{ id := .ofNat 1, name := "Legacy", datatype := .semantic, isTop := true }]

end ResourceTables
