import Mathlib.Data.Finset.Card
import ResourceTables.Proofs.Identifier.Circles
import ResourceTables.Proofs.Package

/-!
# ResourceTables.Proofs.Identifier.Climb

The way from a nodegroup upwards, round by round. A round goes on to the parent or ends the climb
(`Climb.step`); the nodegroups that are not visited yet get fewer with every round, so there are at
most as many rounds as there are identifiers of nodegroups (`run_eq_ancestry`). Where the climb leads
is told by the chain of parents alone: to its end if nothing is in the way, and else to the first
parent that it comes back to, that is unknown or that has no collector (`qualify_follows_parents`).
-/

namespace ResourceTables.Graph

variable {g : Graph} {names : Names}

/-! ### Rounds -/

/-- How far a climb has come: the nodegroups it visited, the names on the way, that of the node
first, and the nodegroup to go on to. -/
structure Climb where
  visited : List Uuid
  segments : List String
  parent : Option Uuid

/-- The climb of a node before the first round. -/
def Climb.start (node : Node) (group : NodeGroup) : Climb where
  visited := [group.id]
  segments := [node.name]
  parent := group.parent

/-- One round: the outcome of the climb, or how far it has come after the round. -/
def Climb.step (g : Graph) (c : Climb) : Except ExportError (List String) ⊕ Climb :=
  match c.parent with
  | none => .inl (.ok c.segments)
  | some id =>
    if id ∈ c.visited then .inl (.error (.cyclicNodegroups id))
    else match g.nodegroup? id with
      | none => .inl (.error (.unknownNodegroup id))
      | some group => match g.collector? id with
        | none => .inl (.error (.missingCollector id))
        | some collector => .inr
          ⟨id :: c.visited, c.segments ++ [collector.name], group.parent⟩

/-- The outcome of a climb within a number of rounds; nothing if it goes on after them. -/
def Climb.run (g : Graph) : (rounds : Nat) → Climb → Option (Except ExportError (List String))
  | 0, _ => none
  | rounds + 1, c => match c.step g with
    | .inl outcome => some outcome
    | .inr next => run g rounds next

/-- The identifiers of nodegroups, each once. -/
def nodegroupIds (g : Graph) : Finset Uuid := (g.nodegroups.map NodeGroup.id).toFinset

theorem mem_nodegroupIds {id : Uuid} {group : NodeGroup} (h : g.nodegroup? id = some group) :
    id ∈ g.nodegroupIds := by
  rw [nodegroupIds, List.mem_toFinset]
  exact List.mem_map.2 ⟨group, mem_of_nodegroup? h, id_of_nodegroup? h⟩

/-- A round that goes on visits one of the nodegroups that were left. -/
theorem card_sdiff_lt {visited : List Uuid} {id : Uuid} (hid : id ∈ g.nodegroupIds)
    (hv : id ∉ visited) : (g.nodegroupIds \ (id :: visited).toFinset).card <
      (g.nodegroupIds \ visited.toFinset).card := by
  refine Finset.card_lt_card (Finset.ssubset_iff_of_subset ?_ |>.2 ⟨id, ?_, ?_⟩)
  · exact Finset.sdiff_subset_sdiff Finset.Subset.rfl (by simp)
  · simpa using ⟨hid, hv⟩
  · simp

/-- A climb ends within more rounds than there are nodegroups left to visit, with the names above in
the order in which they were met. -/
theorem Climb.run_eq_ancestry {visited : List Uuid} {parent : Option Uuid} {rounds : Nat}
    (hrounds : (g.nodegroupIds \ visited.toFinset).card < rounds) (segments : List String) :
    run g rounds ⟨visited, segments, parent⟩ =
      some ((g.ancestry visited parent).map fun above => segments ++ above.map Node.name) := by
  obtain ⟨rounds, rfl⟩ : ∃ n, rounds = n + 1 := ⟨rounds - 1, by omega⟩
  induction visited, parent using ancestry.induct g generalizing rounds segments with
  | case1 visited => simp [run, step, ancestry, Except.map]
  | case2 visited id hv => simp [run, step, ancestry, Except.map, hv]
  | case3 visited id hv hg =>
    have ha : g.ancestry visited (some id) = .error (.unknownNodegroup id) :=
      ancestry_some_eq_error_iff.2 (.inr ⟨hv, .inl ⟨hg, rfl⟩⟩)
    simp [run, step, Except.map, hv, hg, ha]
  | case4 visited id hv group hg hc =>
    have ha : g.ancestry visited (some id) = .error (.missingCollector id) :=
      ancestry_some_eq_error_iff.2 (.inr ⟨hv, .inr ⟨group, hg, .inl ⟨hc, rfl⟩⟩⟩)
    simp [run, step, Except.map, hv, hg, hc, ha]
  | case5 visited id hv group hg collector hc ih =>
    have hleft := card_sdiff_lt (mem_nodegroupIds hg) hv
    obtain ⟨rounds, rfl⟩ : ∃ n, rounds = n + 1 := ⟨rounds - 1, by omega⟩
    have hstep : step g ⟨visited, segments, some id⟩ =
        .inr ⟨id :: visited, segments ++ [collector.name], group.parent⟩ := by
      simp [step, hv, hg, hc]
    rw [run, hstep]
    dsimp only
    rw [ih (segments ++ [collector.name]) rounds (by omega), ancestry_some_eq_map hv hg hc,
      map_map]
    simp

/-! ### What the chain passes -/

/-- The chain of parents from a nodegroup passes these nodegroups with these collectors, nearest
first, and comes to none of them twice or after it was visited. -/
structure Passes (g : Graph) (visited : List Uuid) (start : Uuid) (ids : List Uuid)
    (collectors : List Node) : Prop where
  chain : (start :: ids).IsChain g.NestsIn
  nodup : ids.Nodup
  fresh : ∀ id ∈ ids, id ∉ visited
  known : ∀ id ∈ ids, (g.nodegroup? id).isSome = true
  collectors : List.Forall₂ (fun id collector => g.collector? id = some collector) ids collectors

/-- Why a climb that passed some nodegroups does not pass the next one, looked for in this order. -/
inductive Stops (g : Graph) (passed : List Uuid) (id : Uuid) : ExportError → Prop
  | cyclic : id ∈ passed → Stops g passed id (.cyclicNodegroups id)
  | unknown : id ∉ passed → g.nodegroup? id = none → Stops g passed id (.unknownNodegroup id)
  | missing : id ∉ passed → (g.nodegroup? id).isSome = true → g.collector? id = none →
      Stops g passed id (.missingCollector id)

variable {visited ids : List Uuid} {start id : Uuid} {collectors : List Node}

theorem passes_nil : g.Passes visited start [] [] where
  chain := .singleton start
  nodup := .nil
  fresh := by simp
  known := by simp
  collectors := .nil

theorem passes_cons_iff : g.Passes visited start (id :: ids) collectors ↔
    g.NestsIn start id ∧ id ∉ visited ∧ (g.nodegroup? id).isSome = true ∧
      ∃ collector rest, g.collector? id = some collector ∧ collectors = collector :: rest ∧
        g.Passes (id :: visited) id ids rest := by
  constructor
  · rintro ⟨hchain, hnodup, hfresh, hknown, hcollectors⟩
    obtain ⟨hstep, hchain⟩ := List.isChain_cons_cons.1 hchain
    obtain ⟨hid, hnodup⟩ := List.nodup_cons.1 hnodup
    obtain ⟨hvisited, hfresh⟩ := List.forall_mem_cons.1 hfresh
    obtain ⟨hgroup, hknown⟩ := List.forall_mem_cons.1 hknown
    obtain ⟨collector, rest, hc, hrest, rfl⟩ := List.forall₂_cons_left_iff.1 hcollectors
    refine ⟨hstep, hvisited, hgroup, collector, rest, hc, rfl, hchain, hnodup, ?_, hknown, hrest⟩
    intro x hx hmem
    rcases List.mem_cons.1 hmem with rfl | hmem
    · exact hid hx
    · exact hfresh x hx hmem
  · rintro ⟨hstep, hvisited, hgroup, collector, rest, hc, rfl, hpasses⟩
    have hid : id ∉ ids := fun hmem => hpasses.fresh id hmem List.mem_cons_self
    refine ⟨.cons_cons hstep hpasses.chain, List.nodup_cons.2 ⟨hid, hpasses.nodup⟩,
      List.forall_mem_cons.2 ⟨hvisited, ?_⟩, List.forall_mem_cons.2 ⟨hgroup, hpasses.known⟩,
      .cons hc hpasses.collectors⟩
    exact fun x hx hmem => hpasses.fresh x hx (List.mem_cons_of_mem _ hmem)

/-- Where the chain goes on after what it passed. -/
theorem ancestry_of_passes (h : g.Passes visited start ids collectors) :
    g.ancestry visited ((g.nodegroup? start).bind NodeGroup.parent) =
      (g.ancestry (ids.reverse ++ visited)
        ((g.nodegroup? (ids.getLastD start)).bind NodeGroup.parent)).map (collectors ++ ·) := by
  induction ids generalizing visited start collectors with
  | nil =>
    obtain rfl := List.forall₂_nil_left_iff.1 h.collectors
    cases h : g.ancestry visited ((g.nodegroup? start).bind NodeGroup.parent) <;>
      simp [h, Except.map]
  | cons id ids ih =>
    obtain ⟨hstep, hv, hknown, collector, rest, hc, rfl, hrest⟩ := passes_cons_iff.1 h
    obtain ⟨group, hg⟩ := Option.isSome_iff_exists.1 hknown
    have hup : (g.nodegroup? id).bind NodeGroup.parent = group.parent := by simp [hg]
    rw [hstep, ancestry_some_eq_map hv hg hc, ← hup, ih hrest, map_map, List.getLastD_cons,
      List.reverse_cons, List.append_assoc, List.singleton_append]
    simp

theorem ancestry_of_stops {passed : List Uuid} {e : ExportError} (h : g.Stops passed id e) :
    g.ancestry passed (some id) = .error e := by
  rw [ancestry_some_eq_error_iff]
  cases h with
  | cyclic hmem => exact .inl ⟨hmem, rfl⟩
  | unknown hmem hg => exact .inr ⟨hmem, .inl ⟨hg, rfl⟩⟩
  | missing hmem hknown hc =>
    obtain ⟨group, hg⟩ := Option.isSome_iff_exists.1 hknown
    exact .inr ⟨hmem, .inr ⟨group, hg, .inl ⟨hc, rfl⟩⟩⟩

/-- The chain from a nodegroup passes some nodegroups and then ends, or it stops at the next one. -/
theorem exists_passes (g : Graph) (visited : List Uuid) (start : Uuid) : ∃ ids collectors,
    g.Passes visited start ids collectors ∧ ((∀ id, ¬ g.NestsIn (ids.getLastD start) id) ∨
      ∃ id e, g.NestsIn (ids.getLastD start) id ∧ g.Stops (ids.reverse ++ visited) id e) := by
  generalize hparent : (g.nodegroup? start).bind NodeGroup.parent = parent
  induction visited, parent using ancestry.induct g generalizing start with
  | case1 visited =>
    refine ⟨[], [], passes_nil, .inl ?_⟩
    intro id hstep
    rw [List.getLastD_nil, NestsIn, hparent] at hstep
    cases hstep
  | case2 visited id hv => exact ⟨[], [], passes_nil, .inr ⟨id, _, hparent, .cyclic hv⟩⟩
  | case3 visited id hv hg => exact ⟨[], [], passes_nil, .inr ⟨id, _, hparent, .unknown hv hg⟩⟩
  | case4 visited id hv group hg hc =>
    exact ⟨[], [], passes_nil, .inr ⟨id, _, hparent, .missing hv (by simp [hg]) hc⟩⟩
  | case5 visited id hv group hg collector hc ih =>
    obtain ⟨ids, collectors, hpasses, hend⟩ := ih id (by simp [hg])
    refine ⟨id :: ids, collector :: collectors, ?_, ?_⟩
    · exact passes_cons_iff.2 ⟨hparent, hv, by simp [hg], collector, collectors, hc, rfl, hpasses⟩
    · rw [List.getLastD_cons, List.reverse_cons, List.append_assoc]
      exact hend

/-! ### Qualified names -/

section

variable {n : Node} {group : NodeGroup}

/-- The climb from a known nodegroup has its outcome within as many rounds as there are nodegroups:
it never comes back to the one it starts from. -/
theorem run_start (hg : g.nodegroup? start = some group) (n : Node) :
    (Climb.start n group).run g g.nodegroupIds.card =
      some ((g.ancestry [start] group.parent).map fun above => (n :: above).map Node.name) := by
  have hleft : (g.nodegroupIds \ [start].toFinset).card <
      (g.nodegroupIds \ ([] : List Uuid).toFinset).card :=
    card_sdiff_lt (mem_nodegroupIds hg) (by simp)
  rw [List.toFinset_nil, Finset.sdiff_empty] at hleft
  rw [Climb.start, id_of_nodegroup? hg, Climb.run_eq_ancestry hleft]
  simp

theorem qualify_of_ends (hn : n.nodegroup = some start) (hg : g.nodegroup? start = some group)
    (hpasses : g.Passes [start] start ids collectors)
    (hend : ∀ id, ¬ g.NestsIn (ids.getLastD start) id) : names.qualify g n =
      .ok (names.slug ("-".intercalate ((n :: collectors).reverse.map Node.name))) := by
  have htop : (g.nodegroup? (ids.getLastD start)).bind NodeGroup.parent = none :=
    Option.eq_none_iff_forall_ne_some.2 hend
  have hwalk := ancestry_of_passes hpasses
  rw [htop, hg, Option.bind_some] at hwalk
  rw [qualify_eq hn hg, hwalk, ancestry]
  simp [Except.map]

theorem qualify_of_stops (hn : n.nodegroup = some start) (hg : g.nodegroup? start = some group)
    (hpasses : g.Passes [start] start ids collectors) {e : ExportError}
    (hstep : g.NestsIn (ids.getLastD start) id) (hstops : g.Stops (ids.reverse ++ [start]) id e) :
    names.qualify g n = .error e := by
  have hwalk := ancestry_of_passes hpasses
  rw [hstep, hg, Option.bind_some, ancestry_of_stops hstops] at hwalk
  rw [qualify_eq hn hg, hwalk]
  rfl

end

/-- A node in no nodegroup is named by itself, and one in an unknown nodegroup is not named. From a
known nodegroup the climb ends within as many rounds as there are nodegroups, and the chain of parents
tells how: if it ends, the node is named by the collectors it passed, the highest first, and itself;
else it stops at a nodegroup that it came by before, that is unknown or that has no collector. -/
theorem qualify_follows_parents (names : Names) (g : Graph) (n : Node) :
    (n.nodegroup = none → names.qualify g n = .ok (names.slug n.name)) ∧
    ∀ start, n.nodegroup = some start →
      (g.nodegroup? start = none → names.qualify g n = .error (.unknownNodegroup start)) ∧
      ∀ group, g.nodegroup? start = some group →
        (∃ outcome, (Climb.start n group).run g g.nodegroupIds.card = some outcome ∧
          names.qualify g n =
            outcome.map fun segments => names.slug ("-".intercalate segments.reverse)) ∧
        (∀ name, names.qualify g n = .ok name ↔ ∃ ids collectors,
          g.Passes [start] start ids collectors ∧ (∀ id, ¬ g.NestsIn (ids.getLastD start) id) ∧
          name = names.slug ("-".intercalate ((n :: collectors).reverse.map Node.name))) ∧
        ∀ e, names.qualify g n = .error e ↔ ∃ ids collectors id,
          g.Passes [start] start ids collectors ∧ g.NestsIn (ids.getLastD start) id ∧
          g.Stops (ids.reverse ++ [start]) id e := by
  refine ⟨?_, ?_⟩
  · intro hn
    simp [Names.qualify, qualifiedName, hn, Except.map]
  intro start hn
  refine ⟨?_, ?_⟩
  · intro hg
    simp [Names.qualify, qualifiedName, hn, hg, Except.map]
  intro group hg
  obtain ⟨ids, collectors, hpasses, hend⟩ := exists_passes g [start] start
  refine ⟨⟨_, run_start hg n, ?_⟩, ?_, ?_⟩
  · rw [qualify_eq hn hg, map_map]
    simp
  · intro name
    constructor
    · intro hname
      rcases hend with hend | ⟨id, e, hstep, hstops⟩
      · have hnamed : names.qualify g n = _ := qualify_of_ends hn hg hpasses hend
        exact ⟨ids, collectors, hpasses, hend, Except.ok.inj (hname.symm.trans hnamed)⟩
      · rw [qualify_of_stops hn hg hpasses hstep hstops] at hname
        cases hname
    · rintro ⟨ids, collectors, hpasses, hend, rfl⟩
      exact qualify_of_ends hn hg hpasses hend
  · intro e
    constructor
    · intro herror
      rcases hend with hend | ⟨id, e', hstep, hstops⟩
      · rw [qualify_of_ends hn hg hpasses hend] at herror
        cases herror
      · rw [qualify_of_stops hn hg hpasses hstep hstops] at herror
        obtain rfl := Except.error.inj herror
        exact ⟨ids, collectors, id, hpasses, hstep, hstops⟩
    · rintro ⟨ids, collectors, id, hpasses, hstep, hstops⟩
      exact qualify_of_stops hn hg hpasses hstep hstops

/-- The part of a site's phase is named after the phase, and the one of phases that nest in each other
not at all; the climb comes back to the first of them. -/
theorem qualify_follows_parents_partNode :
    (∃ top, siteGraph.topNode? = some top ∧ ({} : Names).qualify siteGraph top = .ok "site") ∧
    ({} : Names).qualify siteGraph partNode = .error (.unknownNodegroup (.ofNat 4)) ∧
    (∃ part, siteGraph.collector? (.ofNat 3) = some part ∧
      ({} : Names).qualify siteGraph part = .ok "phase_part") ∧
    ({} : Names).qualify circlingGraph partNode = .error (.cyclicNodegroups (.ofNat 2)) := by
  refine ⟨?_, ?_, ?_, ?_⟩
  · have hslug : ({} : Names).slug "Site" = "site" := by decide +kernel
    rw [← hslug]
    exact ⟨_, rfl, (qualify_follows_parents {} siteGraph _).1 rfl⟩
  · exact ((qualify_follows_parents {} siteGraph partNode).2 (.ofNat 4) rfl).1 (by decide)
  · refine ⟨_, rfl, ?_⟩
    obtain ⟨-, h⟩ := qualify_follows_parents {} siteGraph
      { id := .ofNat 3, name := "Part", datatype := .string, nodegroup := some (.ofNat 3) }
    obtain ⟨-, h⟩ := h (.ofNat 3) rfl
    obtain ⟨-, hok, -⟩ := h { id := .ofNat 3, parent := some (.ofNat 2) } rfl
    have hpasses : siteGraph.Passes [.ofNat 3] (.ofNat 3) [.ofNat 2]
        [{ id := .ofNat 2, name := "Phase", datatype := .date, nodegroup := some (.ofNat 2) }] :=
      passes_cons_iff.2 ⟨rfl, by decide, rfl, _, _, rfl, rfl, passes_nil⟩
    refine (hok "phase_part").2 ⟨_, _, hpasses, ?_, by decide +kernel⟩
    intro id hstep
    cases hstep
  · obtain ⟨-, h⟩ := qualify_follows_parents {} circlingGraph partNode
    obtain ⟨-, h⟩ := h (.ofNat 4) rfl
    obtain ⟨-, -, herror⟩ := h { id := .ofNat 4, parent := some (.ofNat 2) } rfl
    have hrest : circlingGraph.Passes [.ofNat 2, .ofNat 4] (.ofNat 2) [.ofNat 3] _ :=
      passes_cons_iff.2 ⟨rfl, by decide, rfl, _, _, rfl, rfl, passes_nil⟩
    have hpasses : circlingGraph.Passes [.ofNat 4] (.ofNat 4) [.ofNat 2, .ofNat 3] _ :=
      passes_cons_iff.2 ⟨rfl, by decide, rfl, _, _, rfl, rfl, hrest⟩
    exact (herror _).2 ⟨_, _, .ofNat 2, hpasses, rfl, .cyclic (by simp)⟩

end ResourceTables.Graph
