import ResourceTables.Review
import ResourceTables.Proofs.Review.Cycles
import ResourceTables.Proofs.Steps

/-!
# ResourceTables.Proofs.Review.Issues

What a review that finds nothing has made sure of, check by check: of a graph
(`issues_eq_nil_iff`), and of the tiles of a package (`tileIssues_eq_nil_iff`). Later proofs read
their conditions off these and not off the lists of issues.
-/

namespace ResourceTables

/-! ### Graphs -/

namespace Graph

variable {g : Graph}

/-- Every nodegroup has a collector, and a parent that is known if it has one. -/
structure Complete (g : Graph) : Prop where
  collector : ∀ group ∈ g.nodegroups, (g.collector? group.id).isSome = true
  parent : ∀ group ∈ g.nodegroups, ∀ id, group.parent = some id →
    (g.nodegroup? id).isSome = true

instance (g : Graph) : Decidable g.Complete :=
  decidable_of_iff (∀ group ∈ g.nodegroups, (g.collector? group.id).isSome = true ∧
      ∀ id ∈ group.parent, (g.nodegroup? id).isSome = true)
    ⟨fun h => ⟨fun group hgroup => (h group hgroup).1, fun group hgroup => (h group hgroup).2⟩,
      fun h group hgroup => ⟨h.collector group hgroup, h.parent group hgroup⟩⟩

/-- A graph in which a review finds nothing wrong. -/
structure Flawless (g : Graph) : Prop extends Complete g where
  top : ∃ top, g.nodes.filter (·.isTop) = [top]
  nodegroup : ∀ n ∈ g.nodes, ∀ id, n.nodegroup = some id → (g.nodegroup? id).isSome = true
  isTop : ∀ n ∈ g.nodes, n.nodegroup = none → n.isTop = true
  configured : ∀ n ∈ g.nodes, isConfigured n = true
  cycles : g.cycles = []

theorem topIssues_eq_nil_iff : g.topIssues = [] ↔ ∃ top, g.nodes.filter (·.isTop) = [top] := by
  unfold topIssues
  generalize g.nodes.filter (·.isTop) = tops
  match tops with
  | [] => simp
  | [top] => simp
  | top :: other :: tops => simp

theorem nodegroupIssues_eq_nil_iff {group : NodeGroup} :
    g.nodegroupIssues group = [] ↔ (g.collector? group.id).isSome = true ∧
      ∀ id, group.parent = some id → (g.nodegroup? id).isSome = true := by
  rw [nodegroupIssues, List.append_eq_nil_iff]
  refine and_congr ?_ ?_
  · cases g.collector? group.id <;> simp
  · cases group.parent with
    | none => simp
    | some id => cases hid : g.nodegroup? id <;> simp [hid]

theorem nodeIssues_eq_nil_iff {n : Node} :
    g.nodeIssues n = [] ↔ ((∀ id, n.nodegroup = some id → (g.nodegroup? id).isSome = true) ∧
      (n.nodegroup = none → n.isTop = true)) ∧ isConfigured n = true := by
  rw [nodeIssues, List.append_eq_nil_iff]
  refine and_congr ?_ ?_
  · cases n.nodegroup with
    | none => cases n.isTop <;> simp
    | some id => cases hid : g.nodegroup? id <;> simp [hid]
  · cases isConfigured n <;> simp

theorem issues_eq_nil_iff : g.issues = [] ↔ g.Flawless := by
  simp only [issues, List.append_eq_nil_iff, List.flatMap_eq_nil_iff, List.map_eq_nil_iff,
    topIssues_eq_nil_iff, nodegroupIssues_eq_nil_iff, nodeIssues_eq_nil_iff]
  constructor
  · rintro ⟨⟨⟨htop, hgroups⟩, hnodes⟩, hcycles⟩
    exact {
      collector := fun group hgroup => (hgroups group hgroup).1
      parent := fun group hgroup => (hgroups group hgroup).2
      top := htop
      nodegroup := fun n hn => (hnodes n hn).1.1
      isTop := fun n hn => (hnodes n hn).1.2
      configured := fun n hn => (hnodes n hn).2
      cycles := hcycles }
  · intro h
    refine ⟨⟨⟨h.top, ?_⟩, ?_⟩, h.cycles⟩
    · exact fun group hgroup => ⟨h.collector group hgroup, h.parent group hgroup⟩
    · exact fun n hn => ⟨⟨h.nodegroup n hn, h.isTop n hn⟩, h.configured n hn⟩

end Graph

/-! ### Tiles -/

namespace Package

/-- The nodegroup that counts for an identifier, without the index: the last one that has it. -/
def nodegroup? (p : Package) (id : Uuid) : Option NodeGroup :=
  (p.graphs.flatMap Graph.nodegroups).reverse.find? (·.id == id)

theorem getElem?_nodegroups (p : Package) (id : Uuid) : p.nodegroups[id]? = p.nodegroup? id := by
  have hfoldr (groups : List NodeGroup) :
      (groups.foldr (fun group index => index.insert group.id group)
        (∅ : Std.HashMap Uuid NodeGroup))[id]? = groups.find? (·.id == id) := by
    induction groups with
    | nil => exact Std.HashMap.getElem?_empty
    | cons group groups ih =>
      rw [List.foldr_cons, Std.HashMap.getElem?_insert, ih, List.find?_cons]
      cases group.id == id <;> rfl
  rw [nodegroups, nodegroup?, ← hfoldr, List.foldr_reverse]

/-- A nodegroup whose identifier no other one has is the one that counts. -/
theorem nodegroup?_of_mem {p : Package} {g : Graph} {group : NodeGroup}
    (hids : ((p.graphs.flatMap Graph.nodegroups).map NodeGroup.id).Nodup) (hg : g ∈ p.graphs)
    (hgroup : group ∈ g.nodegroups) : p.nodegroup? group.id = some group := by
  refine find?_key_of_mem ?_ (List.mem_reverse.2 (List.mem_flatMap.2 ⟨g, hg, hgroup⟩))
  rw [List.map_reverse]
  exact List.nodup_reverse.2 hids

/-- What a review makes sure of for a tile: its resource and its nodegroup are there, and it has a
parent tile, which is there as well, exactly if its nodegroup is nested. -/
structure IsSettled (p : Package) (t : Tile) : Prop where
  resource : ∃ r ∈ p.resources, r.id = t.resource
  nodegroup : ∃ group ∈ p.nodegroup? t.nodegroup,
    if group.parent.isSome then ∃ u ∈ p.tiles, t.parent = some u.id else t.parent = none

instance (p : Package) (t : Tile) : Decidable (p.IsSettled t) :=
  decidable_of_iff ((∃ r ∈ p.resources, r.id = t.resource) ∧
      ∃ group ∈ p.nodegroup? t.nodegroup,
        if group.parent.isSome then ∃ u ∈ p.tiles, t.parent = some u.id else t.parent = none)
    ⟨fun ⟨hresource, hgroup⟩ => ⟨hresource, hgroup⟩, fun h => ⟨h.resource, h.nodegroup⟩⟩

theorem parentIssues_eq_nil_iff {tiles : List Tile} {group : NodeGroup} {t : Tile} :
    parentIssues (.ofList (tiles.map Tile.id)) group t = [] ↔
      if group.parent.isSome then ∃ u ∈ tiles, t.parent = some u.id else t.parent = none := by
  unfold parentIssues
  cases group.parent with
  | none => cases t.parent <;> simp
  | some _ =>
    cases t.parent with
    | none => simp
    | some parent =>
      simp only [Std.HashSet.contains_ofList, List.contains_eq_mem, decide_eq_true_eq,
        List.mem_map, ite_eq_left_iff, reduceCtorEq, imp_false, not_not, Option.isSome_some,
        ↓reduceIte, Option.some.injEq]
      exact exists_congr fun u => and_congr_right fun _ => eq_comm

theorem tileIssues_eq_nil_iff {p : Package} :
    p.tileIssues = [] ↔ ∀ t ∈ p.tiles, p.IsSettled t := by
  unfold tileIssues
  rw [List.flatMap_eq_nil_iff]
  refine forall₂_congr fun t _ => ?_
  rw [List.append_eq_nil_iff, getElem?_nodegroups]
  have hresource : ((Std.HashSet.ofList (p.resources.map Resource.id)).contains t.resource) = true ↔
      ∃ r ∈ p.resources, r.id = t.resource := by
    simp
  constructor
  · rintro ⟨hr, hgroup⟩
    constructor
    · by_contra hnone
      rw [if_neg (mt hresource.1 hnone)] at hr
      cases hr
    · cases hfound : p.nodegroup? t.nodegroup with
      | none =>
        rw [hfound] at hgroup
        cases hgroup
      | some group =>
        rw [hfound] at hgroup
        exact ⟨group, rfl, parentIssues_eq_nil_iff.1 hgroup⟩
  · rintro ⟨hr, group, hfound, hparent⟩
    refine ⟨if_pos (hresource.2 hr), ?_⟩
    rw [hfound]
    exact parentIssues_eq_nil_iff.2 hparent

end Package

/-! ### Reports -/

/-- A report without issues has none of any graph and has settled all tiles. -/
theorem Report.size_eq_zero_iff {p : Package} :
    (Report.of p).size = 0 ↔ (∀ g ∈ p.graphs, g.issues = []) ∧ ∀ t ∈ p.tiles, p.IsSettled t := by
  rw [size, Nat.add_eq_zero_iff, List.length_eq_zero_iff, List.length_eq_zero_iff,
    List.flatMap_eq_nil_iff]
  exact and_congr List.forall_mem_map Package.tileIssues_eq_nil_iff

end ResourceTables
