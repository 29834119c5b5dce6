import ResourceTables.Proofs.Identifier.Ancestry
import ResourceTables.Proofs.Review.Issues

/-!
# ResourceTables.Proofs.Identifier.Circles

The walk that qualifies a name against the circles that a review reports. The walk goes up one chain
and stops at the first nodegroup it comes back to; a review looks for nodegroups that lead up to each
other, along all parents. Where no identifier has two nodegroups, both follow the same parents
(`hasParent_eq_nestsIn`). The chain then comes back exactly if it runs into a circle
(`exists_cyclic_iff`), and the nodegroup where it does is in that circle even if the chain began
outside (`mem_of_runsInto`).
-/

namespace ResourceTables.Graph

open Relation (ReflTransGen TransGen)

variable {g : Graph} {names : Names}

/-! ### The chain of parents -/

/-- The nodegroup that is found first by the one identifier has the other one as its parent. -/
def NestsIn (g : Graph) (id parent : Uuid) : Prop :=
  (g.nodegroup? id).bind NodeGroup.parent = some parent

theorem nestsIn_iff {id parent : Uuid} {group : NodeGroup} (hg : g.nodegroup? id = some group) :
    g.NestsIn id parent ↔ group.parent = some parent := by
  rw [NestsIn, hg, Option.bind_some]

/-- Where all parents are known, what is found first is among what a review follows. -/
theorem NestsIn.hasParent (hg : g.Complete) {id parent : Uuid} (h : g.NestsIn id parent) :
    g.HasParent id parent := by
  obtain ⟨group, hgroup, hparent⟩ := Option.bind_eq_some_iff.1 h
  have hmem := mem_of_nodegroup? hgroup
  exact hasParent_iff.2
    ⟨⟨group, hmem, id_of_nodegroup? hgroup, hparent⟩, hg.parent group hmem parent hparent⟩

/-- Where no identifier has two nodegroups, it is all that a review follows. -/
theorem hasParent_eq_nestsIn (hids : (g.nodegroups.map NodeGroup.id).Nodup) (hg : g.Complete) :
    g.HasParent = g.NestsIn := by
  funext id parent
  refine propext ⟨?_, NestsIn.hasParent hg⟩
  intro h
  obtain ⟨⟨group, hgroup, rfl, hparent⟩, -⟩ := hasParent_iff.1 h
  exact (nestsIn_iff (nodegroup?_of_mem hids hgroup)).2 hparent

theorem nestsIn_rightUnique : Relator.RightUnique g.NestsIn := by
  intro id parent parent' h h'
  exact Option.some.inj (h.symm.trans h')

/-- What a nodegroup in a circle leads up to leads back to it. -/
theorem transGen_of_reflTransGen {id x : Uuid} (hid : TransGen g.NestsIn id id)
    (h : ReflTransGen g.NestsIn id x) : TransGen g.NestsIn x id := by
  induction h with
  | refl => exact hid
  | tail _ hstep ih =>
    -- The way back goes through the only parent there is.
    obtain ⟨parent, hparent, hback⟩ := TransGen.head'_iff.1 ih
    obtain rfl := nestsIn_rightUnique hparent hstep
    exact TransGen.trans_right hback hid

/-- Two nodegroups in circles that one chain leads up to lead up to each other. -/
theorem mutual_of_reflTransGen {start id x : Uuid} (hid : TransGen g.NestsIn id id)
    (hx : TransGen g.NestsIn x x) (h : ReflTransGen g.NestsIn start id)
    (h' : ReflTransGen g.NestsIn start x) :
    TransGen g.NestsIn id x ∧ TransGen g.NestsIn x id := by
  rcases ReflTransGen.total_of_right_unique nestsIn_rightUnique h h' with hup | hup
  · exact ⟨TransGen.trans_right hup hx, transGen_of_reflTransGen hid hup⟩
  · exact ⟨transGen_of_reflTransGen hx hup, TransGen.trans_right hup hid⟩

/-- A chain that ends leads up to no circle. -/
theorem not_transGen_of_above {id x : Uuid} {nodes : List Node} (h : g.Above (some id) nodes)
    (hx : ReflTransGen g.NestsIn id x) : ¬ TransGen g.NestsIn x x := by
  intro hcircle
  generalize hparent : some id = parent at h
  induction h generalizing id x with
  | top => cases hparent
  | @step _ group _ _ hg _ _ ih =>
    obtain rfl := Option.some.inj hparent
    rcases ReflTransGen.cases_head hx with rfl | ⟨above, hstep, hrest⟩
    · obtain ⟨above, hstep, hback⟩ := TransGen.head'_iff.1 hcircle
      exact ih hback hcircle ((nestsIn_iff hg).1 hstep).symm
    · exact ih hrest hcircle ((nestsIn_iff hg).1 hstep).symm

/-! ### Where the walk fails -/

/-- A walk that comes back leads up to where it does, and it began there or comes by twice. -/
theorem reflTransGen_of_ancestry {visited : List Uuid} {parent : Option Uuid} {x : Uuid}
    (h : g.ancestry visited parent = .error (.cyclicNodegroups x)) :
    ∃ id, parent = some id ∧ ReflTransGen g.NestsIn id x ∧
      (x ∈ visited ∨ TransGen g.NestsIn x x) := by
  induction visited, parent using ancestry.induct g with
  | case1 visited => simp [ancestry] at h
  | case2 visited id hv =>
    rcases ancestry_some_eq_error_iff.1 h with ⟨-, heq⟩ | ⟨hv', -⟩
    · obtain rfl := ExportError.cyclicNodegroups.inj heq
      exact ⟨x, rfl, .refl, .inl hv⟩
    · exact absurd hv hv'
  | case3 visited id hv hg => simp [ancestry_some_eq_error_iff, hv, hg] at h
  | case4 visited id hv group hg hc => simp [ancestry_some_eq_error_iff, hv, hg, hc] at h
  | case5 visited id hv group hg collector hc ih =>
    have hrest : g.ancestry (id :: visited) group.parent = .error (.cyclicNodegroups x) := by
      simpa [ancestry_some_eq_error_iff, hv, hg, hc] using h
    obtain ⟨above, hparent, hup, hback⟩ := ih hrest
    have hstep : g.NestsIn id above := (nestsIn_iff hg).2 hparent
    refine ⟨id, rfl, .head hstep hup, ?_⟩
    rcases hback with hmem | hcircle
    · rcases List.mem_cons.1 hmem with rfl | hmem
      · exact .inr (TransGen.head' hstep hup)
      · exact .inl hmem
    · exact .inr hcircle

/-- If all parents are known and have collectors, a walk can only fail by coming back. -/
theorem exists_cyclic_of_ancestry (hg : g.Complete) {visited : List Uuid} {parent : Option Uuid}
    {e : ExportError} (hparent : ∀ id, parent = some id → (g.nodegroup? id).isSome = true)
    (h : g.ancestry visited parent = .error e) : ∃ x, e = .cyclicNodegroups x := by
  induction visited, parent using ancestry.induct g with
  | case1 visited => simp [ancestry] at h
  | case2 visited id hv =>
    rcases ancestry_some_eq_error_iff.1 h with ⟨-, heq⟩ | ⟨hv', -⟩
    · exact ⟨id, heq⟩
    · exact absurd hv hv'
  | case3 visited id _ hnone =>
    have hknown := hparent id rfl
    rw [hnone] at hknown
    cases hknown
  | case4 visited id _ group hsome hnone =>
    have hcollector := hg.collector group (mem_of_nodegroup? hsome)
    rw [id_of_nodegroup? hsome, hnone] at hcollector
    cases hcollector
  | case5 visited id hv group hsome collector hc ih =>
    refine ih (hg.parent group (mem_of_nodegroup? hsome)) ?_
    simpa [ancestry_some_eq_error_iff, hv, hsome, hc] using h

/-! ### The walk against the circles -/

/-- The chain of parents from a nodegroup comes to one of the circle. -/
def RunsInto (g : Graph) (start : Uuid) (cycle : List Uuid) : Prop :=
  ∃ id ∈ cycle, ReflTransGen g.NestsIn start id

/-- The nodegroup that a walk comes back to is above the one it began with, and in a circle. -/
theorem circle_of_qualify {n : Node} {start x : Uuid} {group : NodeGroup}
    (hn : n.nodegroup = some start) (hgroup : g.nodegroup? start = some group)
    (h : names.qualify g n = .error (.cyclicNodegroups x)) :
    ReflTransGen g.NestsIn start x ∧ TransGen g.NestsIn x x := by
  rw [qualify_eq hn hgroup, map_eq_error_iff] at h
  obtain ⟨above, hparent, hup, hback⟩ := reflTransGen_of_ancestry h
  have hstep : g.NestsIn start above := (nestsIn_iff hgroup).2 hparent
  refine ⟨.head hstep hup, ?_⟩
  rcases hback with hmem | hcircle
  · rw [List.mem_singleton.1 hmem]
    rw [List.mem_singleton.1 hmem] at hup
    exact TransGen.head' hstep hup
  · exact hcircle

/-- Where all parents are known and have collectors, a node is qualified unless the walk comes back. -/
theorem qualify_ok_or_cyclic (hg : g.Complete) {n : Node} {start : Uuid} {group : NodeGroup}
    (hn : n.nodegroup = some start) (hgroup : g.nodegroup? start = some group) :
    (∃ name, names.qualify g n = .ok name) ∨
      ∃ x, names.qualify g n = .error (.cyclicNodegroups x) := by
  cases h : names.qualify g n with
  | ok name => exact .inl ⟨name, rfl⟩
  | error e =>
    rw [qualify_eq hn hgroup, map_eq_error_iff] at h
    obtain ⟨x, rfl⟩ := exists_cyclic_of_ancestry hg (hg.parent group (mem_of_nodegroup? hgroup)) h
    exact .inr ⟨x, rfl⟩

/-- The walk comes back exactly if the chain leads up to a circle. -/
theorem exists_cyclic_iff (hg : g.Complete) {n : Node} {start : Uuid} {group : NodeGroup}
    (hn : n.nodegroup = some start) (hgroup : g.nodegroup? start = some group) :
    (∃ x, names.qualify g n = .error (.cyclicNodegroups x)) ↔
      ∃ id, ReflTransGen g.NestsIn start id ∧ TransGen g.NestsIn id id := by
  constructor
  · rintro ⟨x, h⟩
    exact ⟨x, circle_of_qualify hn hgroup h⟩
  · rintro ⟨id, hup, hcircle⟩
    refine (qualify_ok_or_cyclic hg hn hgroup).resolve_left ?_
    rintro ⟨name, h⟩
    rw [qualify_eq hn hgroup] at h
    obtain ⟨above, ha, -⟩ := map_eq_ok_iff.1 h
    obtain ⟨collector, hc⟩ :=
      Option.isSome_iff_exists.1 (hg.collector group (mem_of_nodegroup? hgroup))
    rw [id_of_nodegroup? hgroup] at hc
    exact not_transGen_of_above (.step hgroup hc (ancestry_eq_ok_iff.1 ha).1) hup hcircle

/-- A chain runs into a circle that is told exactly if it leads up to some circle. -/
theorem exists_runsInto_iff (hids : (g.nodegroups.map NodeGroup.id).Nodup) (hg : g.Complete)
    {start : Uuid} :
    (∃ cycle ∈ g.cycles, g.RunsInto start cycle) ↔
      ∃ id, ReflTransGen g.NestsIn start id ∧ TransGen g.NestsIn id id := by
  rw [← hasParent_eq_nestsIn hids hg]
  constructor
  · rintro ⟨cycle, hcycle, id, hid, hup⟩
    rw [← hasParent_eq_nestsIn hids hg] at hup
    exact ⟨id, hup, ((mem_cycle_iff hcycle hid).1 hid).1⟩
  · rintro ⟨id, hup, hcircle⟩
    obtain ⟨cycle, hcycle, hmutual⟩ := exists_mem_cycles hcircle
    refine ⟨cycle, hcycle, id, (hmutual id).2 ⟨hcircle, hcircle⟩, ?_⟩
    rw [← hasParent_eq_nestsIn hids hg]
    exact hup

/-- The circle that a chain runs into holds all nodegroups in circles that the chain leads up to. -/
theorem mem_of_runsInto (hids : (g.nodegroups.map NodeGroup.id).Nodup) (hg : g.Complete)
    {start x : Uuid} {cycle : List Uuid} (hcycle : cycle ∈ g.cycles) (hruns : g.RunsInto start cycle)
    (hup : ReflTransGen g.NestsIn start x) (hx : TransGen g.NestsIn x x) : x ∈ cycle := by
  obtain ⟨id, hid, hup'⟩ := hruns
  have hself := ((mem_cycle_iff hcycle hid).1 hid).1
  rw [mem_cycle_iff hcycle hid]
  rw [hasParent_eq_nestsIn hids hg] at hself ⊢
  exact mutual_of_reflTransGen hself hx hup' hup

/-- Every collector is qualified exactly if no circle is told. -/
theorem forall_qualify_iff (hids : (g.nodegroups.map NodeGroup.id).Nodup) (hg : g.Complete) :
    (∀ group ∈ g.nodegroups, ∃ collector name, g.collector? group.id = some collector ∧
      names.qualify g collector = .ok name) ↔ g.cycles = [] := by
  rw [cycles_eq_nil_iff, hasParent_eq_nestsIn hids hg]
  constructor
  · intro h id hcircle
    -- A nodegroup in a circle has a collector, whose walk comes back.
    obtain ⟨parent, hstep, -⟩ := TransGen.head'_iff.1 hcircle
    obtain ⟨group, hgroup, -⟩ := Option.bind_eq_some_iff.1 hstep
    obtain ⟨collector, name, hc, hname⟩ := h group (mem_of_nodegroup? hgroup)
    rw [id_of_nodegroup? hgroup] at hc
    obtain ⟨-, -, hn⟩ := collector?_spec hc
    obtain ⟨x, hx⟩ : ∃ x, names.qualify g collector = .error (.cyclicNodegroups x) :=
      (exists_cyclic_iff hg hn hgroup).2 ⟨id, .refl, hcircle⟩
    rw [hname] at hx
    cases hx
  · intro hfree group hgroup
    obtain ⟨collector, hc⟩ := Option.isSome_iff_exists.1 (hg.collector group hgroup)
    obtain ⟨-, -, hn⟩ := collector?_spec hc
    have hfound := nodegroup?_of_mem hids hgroup
    have hcases : (∃ name, names.qualify g collector = .ok name) ∨
        ∃ x, names.qualify g collector = .error (.cyclicNodegroups x) :=
      qualify_ok_or_cyclic hg hn hfound
    rcases hcases with ⟨name, hname⟩ | hcyclic
    · exact ⟨collector, name, hc, hname⟩
    · obtain ⟨id, -, hcircle⟩ := (exists_cyclic_iff hg hn hfound).1 hcyclic
      exact absurd hcircle (hfree id)

/-- The walk and the search for circles decide the same. Every collector is qualified exactly if no
circle is told. A node in a known nodegroup fails by coming back exactly if its chain of parents runs
into a circle that is told, and what it fails at is in that circle. -/
theorem qualify_agrees_with_cycles (names : Names) (g : Graph)
    (hids : (g.nodegroups.map NodeGroup.id).Nodup) (hg : g.Complete) :
    ((∀ group ∈ g.nodegroups, ∃ collector name, g.collector? group.id = some collector ∧
      names.qualify g collector = .ok name) ↔ g.cycles = []) ∧
    ∀ (n : Node) (start : Uuid), n.nodegroup = some start → (g.nodegroup? start).isSome = true →
      ((∃ x, names.qualify g n = .error (.cyclicNodegroups x)) ↔
        ∃ cycle ∈ g.cycles, g.RunsInto start cycle) ∧
      ∀ x, names.qualify g n = .error (.cyclicNodegroups x) →
        ∀ cycle ∈ g.cycles, g.RunsInto start cycle → x ∈ cycle := by
  refine ⟨forall_qualify_iff hids hg, ?_⟩
  intro n start hn hknown
  obtain ⟨group, hgroup⟩ := Option.isSome_iff_exists.1 hknown
  refine ⟨(exists_cyclic_iff hg hn hgroup).trans (exists_runsInto_iff hids hg).symm, ?_⟩
  intro x hx cycle hcycle hruns
  obtain ⟨hup, hcircle⟩ := circle_of_qualify hn hgroup hx
  exact mem_of_runsInto hids hg hcycle hruns hup hcircle

/-- A part, in a nodegroup of its own. -/
def partNode : Node where
  id := .ofNat 4
  name := "Part"
  datatype := .string
  nodegroup := some (.ofNat 4)

/-- Two phases that nest in each other, with the part nested in the first one. -/
def circlingGraph : Graph where
  id := .ofNat 9
  name := .single "en" "Site"
  nodes := [
    { id := .ofNat 1, name := "Site", datatype := .semantic, isTop := true },
    { id := .ofNat 2, name := "Phase", datatype := .date, nodegroup := some (.ofNat 2) },
    { id := .ofNat 3, name := "Stage", datatype := .date, nodegroup := some (.ofNat 3) },
    partNode]
  nodegroups := [{ id := .ofNat 4, parent := some (.ofNat 2) },
    { id := .ofNat 2, parent := some (.ofNat 3) }, { id := .ofNat 3, parent := some (.ofNat 2) }]

theorem qualify_agrees_with_cycles_circlingGraph :
    (circlingGraph.nodegroups.map NodeGroup.id).Nodup ∧ circlingGraph.Complete ∧
      circlingGraph.cycles ≠ [] ∧
      ({} : Names).qualify circlingGraph partNode = .error (.cyclicNodegroups (.ofNat 2)) ∧
      ∃ cycle ∈ circlingGraph.cycles, circlingGraph.RunsInto (.ofNat 4) cycle ∧
        .ofNat 2 ∈ cycle ∧ .ofNat 4 ∉ cycle := by
  have hids : (circlingGraph.nodegroups.map NodeGroup.id).Nodup := by decide
  have hcomplete : circlingGraph.Complete := by decide
  have hpart : ({} : Names).qualify circlingGraph partNode =
      .error (.cyclicNodegroups (.ofNat 2)) := by
    decide +kernel
  obtain ⟨-, h⟩ := qualify_agrees_with_cycles {} circlingGraph hids hcomplete
  obtain ⟨hiff, hmem⟩ := h partNode (.ofNat 4) rfl (by decide)
  obtain ⟨cycle, hcycle, hruns⟩ := hiff.1 ⟨_, hpart⟩
  refine ⟨hids, hcomplete, List.ne_nil_of_mem hcycle, hpart, cycle, hcycle, hruns,
    hmem _ hpart cycle hcycle hruns, ?_⟩
  -- Nothing nests in the part, so it is in no circle.
  have hfree : ∀ group ∈ circlingGraph.nodegroups, group.parent ≠ some (.ofNat 4) := by decide
  intro hmemPart
  obtain ⟨x, -, hx⟩ := TransGen.tail'_iff.1 ((mem_cycle_iff hcycle hmemPart).1 hmemPart).1
  obtain ⟨⟨group, hgroup, -, hparent⟩, -⟩ := hasParent_iff.1 hx
  exact hfree group hgroup hparent

end ResourceTables.Graph
