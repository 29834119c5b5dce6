import ResourceTables.Proofs.Package
import ResourceTables.Proofs.Identifier.Ancestry
import ResourceTables.Proofs.Export.Parts
import ResourceTables.Proofs.Schema.Derivation

/-!
# ResourceTables.Proofs.Export.Agreement

What an export reads of its source. Two sources with the same graphs and collections, and with the same
records for each graph and each of its nodegroups, are exported alike (`Source.Agrees.export_eq`).

The indexes of a package answer like a scan of its lists, so of a package only the order inside a graph
and inside a nodegroup counts, however the records of different ones are mixed
(`package_read_by_key`).
-/

namespace ResourceTables

variable {source source' : Source} {o : ExportOptions} {g : Graph}

/-- Two sources have the same graphs and collections, and the same records for all that is in the
graphs. -/
structure Source.Agrees (source source' : Source) : Prop where
  graphs : source.graphs = source'.graphs
  entries : source.entries? = source'.entries?
  resources : ∀ g ∈ source.graphs, source.resources g.id = source'.resources g.id
  tiles : ∀ g ∈ source.graphs, ∀ group ∈ g.nodegroups,
    source.tiles group.id = source'.tiles group.id

namespace Source.Agrees

/-- The tables of a graph are for nodegroups of the graph, so the steps for it read nothing else. -/
theorem steps_eq (h : source.Agrees source') (hg : g ∈ source.graphs) {names : Names}
    {language : String} {s : Schema} (hs : Schema.derive source names language g = .ok s) :
    Rows.steps source s = Rows.steps source' s := by
  have hderived := Schema.isDerived_of_derive hs
  rw [Rows.steps, Rows.steps, hderived.graph_eq, h.resources g hg]
  refine congrArg _ (List.flatMap_congr fun table htable => ?_)
  obtain ⟨collector, -, hd⟩ := hderived.exists_collector htable
  obtain ⟨group, hgroup, -, -, -, hid, -⟩ := Schema.deriveTable_eq_ok_iff.1 hd
  rw [hid, ← Graph.id_of_nodegroup? hgroup, h.tiles g hg group (Graph.mem_of_nodegroup? hgroup)]

theorem contribution_eq (h : source.Agrees source') (hg : g ∈ source.graphs) :
    contribution source o g = contribution source' o g := by
  unfold contribution
  dsimp only
  rw [← Schema.derive_congr h.entries]
  cases hs : Schema.derive source ⟨o.maxLength⟩ o.language g with
  | error e => rfl
  | ok s =>
    dsimp only
    rw [h.steps_eq hg hs]

theorem contributions_eq (h : source.Agrees source') {graphs : List Graph}
    (hgraphs : graphs ⊆ source.graphs) :
    contributions source o graphs = contributions source' o graphs := by
  induction graphs with
  | nil => rfl
  | cons g graphs ih =>
    obtain ⟨hg, hgraphs⟩ := List.cons_subset.1 hgraphs
    rw [contributions, contributions, h.contribution_eq hg, ih hgraphs]

/-- Sources that agree are exported alike, or the export fails alike. -/
theorem export_eq (h : source.Agrees source') (o : ExportOptions) :
    export? source o = export? source' o := by
  have hselected : selectedGraphs source' o = selectedGraphs source o := by
    rw [selectedGraphs, selectedGraphs, h.graphs]
  have hsub : selectedGraphs source o ⊆ source.graphs := List.filter_subset_self _
  rw [export?, export?, hselected, h.contributions_eq hsub]

end Source.Agrees

/-! ### Packages -/

/-- A package is read like its lists are scanned: the resources of a graph and the tiles of a nodegroup
are those of the lists, in order, and of two packages taken together they are those of the one and then
of the other. So packages with the same graphs and collections are exported alike if the resources of
each graph and the tiles of each nodegroup are the same, whatever stands between them. -/
theorem package_read_by_key (p : Package) :
    (∀ id, (Source.ofPackage p).resources id = p.resources.filter fun r => r.graph = id) ∧
    (∀ id, (Source.ofPackage p).tiles id = p.tiles.filter fun t => t.nodegroup = id) ∧
    (∀ q id, (Source.ofPackage (p ++ q)).resources id =
      (Source.ofPackage p).resources id ++ (Source.ofPackage q).resources id) ∧
    (∀ q id, (Source.ofPackage (p ++ q)).tiles id =
      (Source.ofPackage p).tiles id ++ (Source.ofPackage q).tiles id) ∧
    ∀ q : Package, p.graphs = q.graphs → p.collections = q.collections →
      (∀ g ∈ p.graphs, (p.resources.filter fun r => r.graph = g.id) =
        q.resources.filter fun r => r.graph = g.id) →
      (∀ g ∈ p.graphs, ∀ group ∈ g.nodegroups, (p.tiles.filter fun t => t.nodegroup = group.id) =
        q.tiles.filter fun t => t.nodegroup = group.id) →
      ∀ o, export? (.ofPackage p) o = export? (.ofPackage q) o := by
  have hresources (p : Package) := Source.resources_ofPackage p
  have htiles (p : Package) := Source.tiles_ofPackage p
  refine ⟨hresources p, htiles p, ?_, ?_, ?_⟩
  · intro q id
    rw [hresources, hresources, hresources, ← List.filter_append]
    rfl
  · intro q id
    rw [htiles, htiles, htiles, ← List.filter_append]
    rfl
  · intro q hgraphs hcollections hsameResources hsameTiles o
    refine Source.Agrees.export_eq ⟨hgraphs, ?_, ?_, ?_⟩ o
    · funext id
      simp only [Source.ofPackage, Package.collection?, hcollections]
    · intro g hg
      rw [hresources, hresources, hsameResources g hg]
    · intro g hg group hgroup
      rw [htiles, htiles, hsameTiles g hg group hgroup]

/-- The site with its tiles the other way round, and with a resource of an unknown graph. -/
def mixedPackage : Package :=
  { sitePackage with
    resources := { id := .ofNat 30, graph := .ofNat 31 } :: sitePackage.resources
    tiles := sitePackage.tiles.reverse }

theorem package_read_by_key_mixedPackage :
    sitePackage.resources ≠ mixedPackage.resources ∧
      sitePackage.tiles.map Tile.id ≠ mixedPackage.tiles.map Tile.id ∧
      (∃ e, (export? (.ofPackage sitePackage) {}).1 = .ok e) ∧
      ∀ o, export? (.ofPackage sitePackage) o = export? (.ofPackage mixedPackage) o := by
  have hexport : ∃ e ∈ (export? (.ofPackage sitePackage) {}).1.toOption, e.schemas.length = 1 := by
    rw [Source.ofPackage_eq]
    decide +kernel
  obtain ⟨e, he, -⟩ := hexport
  refine ⟨by decide, by decide, ⟨e, mem_toOption_iff.1 he⟩, ?_⟩
  obtain ⟨-, -, -, -, h⟩ := package_read_by_key sitePackage
  refine h mixedPackage rfl rfl ?_ ?_
  · intro g hg
    rw [List.mem_singleton.1 hg]
    decide
  · intro g hg group hgroup
    rw [List.mem_singleton.1 hg] at hgroup
    simp only [siteGraph, List.mem_cons, List.not_mem_nil, or_false] at hgroup
    rcases hgroup with rfl | rfl
    · rfl
    · rfl

end ResourceTables
