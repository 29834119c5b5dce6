import ResourceTables.Identifier.Names
import ResourceTables.Proofs.Steps

/-!
# ResourceTables.Proofs.Identifier.Ancestry

The walk from a nodegroup upwards as a relation. `Graph.ancestry` keeps the nodegroups it has
visited only to stop; what it returns is the chain of collectors that `Graph.Above` describes
without them, and it succeeds exactly if that chain meets no nodegroup twice
(`ancestry_eq_ok_iff`).
-/

namespace ResourceTables

namespace Graph

variable {g : Graph}

/-! ### First matches -/

theorem mem_of_nodegroup? {id : Uuid} {group : NodeGroup} (h : g.nodegroup? id = some group) :
    group ∈ g.nodegroups :=
  List.mem_of_find?_eq_some h

theorem id_of_nodegroup? {id : Uuid} {group : NodeGroup} (h : g.nodegroup? id = some group) :
    group.id = id := by
  simpa using List.find?_some h

/-- A nodegroup whose identifier no other one has is the one that is found by it. -/
theorem nodegroup?_of_mem {group : NodeGroup} (hids : (g.nodegroups.map NodeGroup.id).Nodup)
    (h : group ∈ g.nodegroups) : g.nodegroup? group.id = some group :=
  find?_key_of_mem hids h

/-- A node whose identifier no other one has is the one that is found by it. -/
theorem node?_of_mem {n : Node} (hids : (g.nodes.map Node.id).Nodup) (h : n ∈ g.nodes) :
    g.node? n.id = some n :=
  find?_key_of_mem hids h

/-- The collector of a nodegroup is a node of the graph that shares the nodegroup's identifier. -/
theorem collector?_spec {id : Uuid} {n : Node} (h : g.collector? id = some n) :
    n ∈ g.nodes ∧ n.id = id ∧ n.nodegroup = some id := by
  have hid : n.id = id ∧ n.nodegroup = some id := by simpa using List.find?_some h
  exact ⟨List.mem_of_find?_eq_some h, hid⟩

theorem isCollector_of_collector? {id : Uuid} {n : Node} (h : g.collector? id = some n) :
    n.isCollector = true := by
  obtain ⟨-, hid, hgroup⟩ := collector?_spec h
  simp [Node.isCollector, hid, hgroup]

theorem isCollector_of_mem_collectors {n : Node} (h : n ∈ g.collectors) :
    n.isCollector = true := by
  have hn := List.of_mem_filter h
  simp only [Bool.and_eq_true] at hn
  exact hn.2

/-! ### The chain above a nodegroup -/

/-- The collectors of the nodegroups from `parent` upwards, nearest first. The chain ends at a
nodegroup without a parent. -/
inductive Above (g : Graph) : (parent : Option Uuid) → List Node → Prop
  | top : Above g none []
  | step {id : Uuid} {group : NodeGroup} {collector : Node} {above : List Node} :
      g.nodegroup? id = some group → g.collector? id = some collector →
      Above g group.parent above → Above g (some id) (collector :: above)

/-- One step of the walk that succeeds. -/
theorem ancestry_some_eq_map {visited : List Uuid} {id : Uuid} {group : NodeGroup}
    {collector : Node} (hv : id ∉ visited) (hg : g.nodegroup? id = some group)
    (hc : g.collector? id = some collector) : g.ancestry visited (some id) =
      (g.ancestry (id :: visited) group.parent).map (collector :: ·) := by
  rw [ancestry, dif_neg hv]
  split
  · rename_i hnone
    rw [hg] at hnone
    cases hnone
  · rename_i group' hg'
    obtain rfl := Option.some.inj (hg.symm.trans hg')
    rw [hc]

/-- One step of the walk, taken apart. -/
theorem ancestry_some_eq_ok_iff {visited : List Uuid} {id : Uuid} {nodes : List Node} :
    g.ancestry visited (some id) = .ok nodes ↔
      id ∉ visited ∧ ∃ group collector above,
        g.nodegroup? id = some group ∧ g.collector? id = some collector ∧
        g.ancestry (id :: visited) group.parent = .ok above ∧ nodes = collector :: above := by
  rw [ancestry]
  by_cases hv : id ∈ visited
  · simp [hv]
  rw [dif_neg hv]
  cases hg : g.nodegroup? id with
  | none => simp
  | some group =>
    cases hc : g.collector? id with
    | none => simp
    | some collector =>
      cases ha : g.ancestry (id :: visited) group.parent with
      | error e => simp [ha, Except.map]
      | ok above => simp [ha, hv, Except.map, eq_comm]

/-- One step of a walk that fails: it stops at the nodegroup, or it fails further up. -/
theorem ancestry_some_eq_error_iff {visited : List Uuid} {id : Uuid} {e : ExportError} :
    g.ancestry visited (some id) = .error e ↔
      id ∈ visited ∧ e = .cyclicNodegroups id ∨
      id ∉ visited ∧ (g.nodegroup? id = none ∧ e = .unknownNodegroup id ∨
        ∃ group, g.nodegroup? id = some group ∧
          (g.collector? id = none ∧ e = .missingCollector id ∨
            (g.collector? id).isSome = true ∧
              g.ancestry (id :: visited) group.parent = .error e)) := by
  rw [ancestry]
  by_cases hv : id ∈ visited
  · rw [dif_pos hv, Except.error.injEq]
    simp only [hv, true_and, not_true_eq_false, false_and, or_false]
    exact eq_comm
  rw [dif_neg hv]
  simp only [hv, false_and, false_or, not_false_eq_true, true_and]
  cases hg : g.nodegroup? id with
  | none =>
    simp only [true_and, reduceCtorEq, false_and, exists_false, or_false, Except.error.injEq]
    exact eq_comm
  | some group =>
    cases hc : g.collector? id with
    | none =>
      simp only [reduceCtorEq, false_and, Option.some.injEq, exists_eq_left', true_and,
        Option.isSome_none, Bool.false_eq_true, or_false, false_or, Except.error.injEq]
      exact eq_comm
    | some collector =>
      cases ha : g.ancestry (id :: visited) group.parent with
      | error e' => simp [ha, Except.map]
      | ok above => simp [ha, Except.map]

theorem above_of_ancestry {visited : List Uuid} {parent : Option Uuid} {nodes : List Node}
    (h : g.ancestry visited parent = .ok nodes) :
    g.Above parent nodes ∧ (∀ n ∈ nodes, n.id ∉ visited) ∧ (nodes.map Node.id).Nodup := by
  induction nodes generalizing visited parent with
  | nil =>
    cases parent with
    | none => exact ⟨.top, by simp, by simp⟩
    | some id => simp [ancestry_some_eq_ok_iff] at h
  | cons n nodes ih =>
    cases parent with
    | none => simp [ancestry] at h
    | some id =>
      obtain ⟨hv, group, collector, above, hg, hc, ha, heq⟩ := ancestry_some_eq_ok_iff.1 h
      obtain ⟨rfl, rfl⟩ := List.cons.inj heq
      obtain ⟨hchain, hfresh, hnodup⟩ := ih ha
      have hid : n.id = id := (collector?_spec hc).2.1
      refine ⟨.step hg hc hchain, ?_, ?_⟩
      · intro m hm
        rcases List.mem_cons.1 hm with rfl | hm
        · rw [hid]
          exact hv
        · exact fun hmv => hfresh m hm (List.mem_cons_of_mem _ hmv)
      · rw [List.map_cons, List.nodup_cons]
        refine ⟨?_, hnodup⟩
        -- The nodegroup was visited before the rest of the walk, which does not come back to it.
        intro hmem
        obtain ⟨m, hm, hmid⟩ := List.mem_map.1 hmem
        exact hfresh m hm (by rw [hmid, hid]; exact List.mem_cons_self)

theorem ancestry_of_above {visited : List Uuid} {parent : Option Uuid} {nodes : List Node}
    (h : g.Above parent nodes) (hfresh : ∀ n ∈ nodes, n.id ∉ visited)
    (hnodup : (nodes.map Node.id).Nodup) : g.ancestry visited parent = .ok nodes := by
  induction h generalizing visited with
  | top => rw [ancestry]
  | @step id group collector above hg hc _ ih =>
    have hid : collector.id = id := (collector?_spec hc).2.1
    obtain ⟨hhead, htail⟩ := List.nodup_cons.1 hnodup
    refine ancestry_some_eq_ok_iff.2
      ⟨hid ▸ hfresh collector List.mem_cons_self, group, collector, above, hg, hc, ih ?_ htail, rfl⟩
    intro n hn hmem
    rcases List.mem_cons.1 hmem with heq | hmem
    · exact hhead (by rw [hid, ← heq]; exact List.mem_map_of_mem hn)
    · exact hfresh n (List.mem_cons_of_mem _ hn) hmem

/-- The walk succeeds exactly along a chain that ends, meets no nodegroup twice and none of those
it started with. -/
theorem ancestry_eq_ok_iff {visited : List Uuid} {parent : Option Uuid} {nodes : List Node} :
    g.ancestry visited parent = .ok nodes ↔
      g.Above parent nodes ∧ (∀ n ∈ nodes, n.id ∉ visited) ∧ (nodes.map Node.id).Nodup :=
  ⟨above_of_ancestry, fun ⟨h, hfresh, hnodup⟩ => ancestry_of_above h hfresh hnodup⟩

/-! ### Qualified names -/

/-- A node in a known nodegroup is qualified as far as the walk upwards from there succeeds. -/
theorem qualify_eq {names : Names} {n : Node} {start : Uuid} {group : NodeGroup}
    (hn : n.nodegroup = some start) (hg : g.nodegroup? start = some group) :
    names.qualify g n = (g.ancestry [start] group.parent).map fun above =>
      names.slug ("-".intercalate ((n :: above).reverse.map Node.name)) := by
  rw [Names.qualify, qualifiedName, hn]
  dsimp only
  rw [hg]
  dsimp only
  cases g.ancestry [start] group.parent <;> rfl

/-- A collector is qualified by the chain above its nodegroup, which does not come back to it. -/
theorem above_of_qualify {names : Names} {collector : Node} {group : NodeGroup} {name : String}
    (hc : collector.isCollector = true) (hg : g.nodegroup? collector.id = some group)
    (h : names.qualify g collector = .ok name) :
    ∃ above, g.Above group.parent above ∧ ((collector :: above).map Node.id).Nodup := by
  have hgroup : collector.nodegroup = some collector.id := by simpa [Node.isCollector] using hc
  rw [qualify_eq hgroup hg] at h
  obtain ⟨above, ha, -⟩ := map_eq_ok_iff.1 h
  obtain ⟨hchain, hfresh, hnodup⟩ := ancestry_eq_ok_iff.1 ha
  refine ⟨above, hchain, ?_⟩
  rw [List.map_cons, List.nodup_cons]
  refine ⟨?_, hnodup⟩
  intro hmem
  obtain ⟨n, hn, hid⟩ := List.mem_map.1 hmem
  exact hfresh n hn (by simp [hid])

end Graph

end ResourceTables
