import ResourceTables.Proofs.Review.Cycles
import ResourceTables.Proofs.Uuid

/-!
# ResourceTables.Proofs.Review.Components

The circles of a graph are the strongly connected components of the nesting of its nodegroups, without
those that hold one nodegroup and no way back to it (`cycles_are_components`). This is so for any list
of nodegroups: identifiers may repeat, parents may be missing, and a nodegroup may be its own parent.

What is new here is that no nodegroup is told twice. A search never finds a nodegroup again, so it is
told once in a circle (`nodup_circle`). A circle is told where its last nodegroup stands, so no later
nodegroup leads to a circle that shares one with it (`nodup_flatten_cyclesIn`).
-/

namespace ResourceTables.Graph

open Relation (TransGen)

variable {g : Graph}

/-- One of the nodegroups has the first identifier and names the second one as its parent, which one
of them has as well. -/
def LiesUnder (groups : List NodeGroup) (id parent : Uuid) : Prop :=
  (∃ group ∈ groups, group.id = id ∧ group.parent = some parent) ∧
    ∃ group ∈ groups, group.id = parent

theorem hasParent_eq_liesUnder (g : Graph) : g.HasParent = LiesUnder g.nodegroups := by
  funext id parent
  rw [eq_iff_iff, hasParent_iff, isSome_nodegroup?_iff, List.mem_map, LiesUnder]

/-! ### Nothing is told twice -/

theorem nodup_aboveFrom {id : Uuid} {fuel : Nat} {level found : List Uuid}
    (h : g.IsSearch id level found) : (g.aboveFrom fuel level found).Nodup := by
  induction fuel generalizing level found with
  | zero => exact h.nodup
  | succ fuel ih =>
    have hnext := h.next
    rw [aboveFrom, ← nextLevel]
    split
    · exact h.nodup
    · exact ih hnext

theorem nodup_circle (g : Graph) (id : Uuid) : (g.circle id).Nodup :=
  (nodup_aboveFrom (isSearch_start g id)).filter _

/-- What is told is in a circle with one of the nodegroups of the list. -/
theorem exists_mem_of_mem_cyclesIn {ids cycle : List Uuid} {x : Uuid}
    (hcycle : cycle ∈ g.cyclesIn ids) (hx : x ∈ cycle) : ∃ id ∈ ids, x ∈ g.circle id := by
  induction ids with
  | nil => cases hcycle
  | cons id ids ih =>
    rw [cyclesIn] at hcycle
    split at hcycle
    case isTrue =>
      obtain ⟨id', hid', hmem⟩ := ih hcycle
      exact ⟨id', List.mem_cons_of_mem _ hid', hmem⟩
    case isFalse =>
      rcases List.mem_cons.1 hcycle with rfl | hcycle
      · exact ⟨id, List.mem_cons_self, List.mem_mergeSort.1 hx⟩
      · obtain ⟨id', hid', hmem⟩ := ih hcycle
        exact ⟨id', List.mem_cons_of_mem _ hid', hmem⟩

/-- Circles that share a nodegroup hold each other's nodegroups. -/
theorem mem_circle_of_mem {id id' x : Uuid} (hx : x ∈ g.circle id) (hx' : x ∈ g.circle id') :
    id' ∈ g.circle id := by
  obtain ⟨hup, hdown⟩ := mem_circle_iff.1 hx
  obtain ⟨hup', hdown'⟩ := mem_circle_iff.1 hx'
  exact mem_circle_iff.2 ⟨hup.trans hdown', hup'.trans hdown⟩

theorem nodup_flatten_cyclesIn (ids : List Uuid) : (g.cyclesIn ids).flatten.Nodup := by
  induction ids with
  | nil => exact List.nodup_nil
  | cons id ids ih =>
    rw [cyclesIn]
    split
    case isTrue => exact ih
    case isFalse hlast =>
      rw [List.flatten_cons, List.nodup_append]
      refine ⟨(List.mergeSort_perm _ _).nodup_iff.2 (g.nodup_circle id), ih, ?_⟩
      -- A nodegroup that is told again would be in a circle with a later one of the list.
      rintro x hx _ hlater rfl
      obtain ⟨cycle, hcycle, hmem⟩ := List.mem_flatten.1 hlater
      obtain ⟨id', hid', hx'⟩ := exists_mem_of_mem_cyclesIn hcycle hmem
      have hid'' : id' ∈ g.circle id := mem_circle_of_mem (List.mem_mergeSort.1 hx) hx'
      refine hlast ?_
      rw [Bool.or_eq_true, List.any_eq_true]
      exact .inr ⟨id', hid', List.contains_iff_mem.2 hid''⟩

theorem pairwise_of_mem_cycles {cycle : List Uuid} (h : cycle ∈ g.cycles) :
    cycle.Pairwise fun a b => a.le b = true := by
  obtain ⟨id, -, rfl⟩ := circle_eq_of_mem_cyclesIn h
  exact Uuid.pairwise_mergeSort _

/-! ### The components -/

theorem exists_mem_both_iff {id other : Uuid} :
    (∃ cycle ∈ g.cycles, id ∈ cycle ∧ other ∈ cycle) ↔
      TransGen g.HasParent id other ∧ TransGen g.HasParent other id := by
  constructor
  · rintro ⟨cycle, hcycle, hid, hother⟩
    exact (mem_cycle_iff hcycle hid).1 hother
  · rintro ⟨hup, hdown⟩
    have hself := hup.trans hdown
    obtain ⟨cycle, hcycle, hmutual⟩ := exists_mem_cycles hself
    exact ⟨cycle, hcycle, (hmutual id).2 ⟨hself, hself⟩, (hmutual other).2 ⟨hup, hdown⟩⟩

/-- The circles of any list of nodegroups are exact. A nodegroup is in one of them if it leads up to
itself, and two are in the same one if each leads up to the other. None is told twice, each circle is in
ascending order, and there is no circle exactly if the nesting has none. -/
theorem cycles_are_components (g : Graph) :
    (∀ id, (∃ cycle ∈ g.cycles, id ∈ cycle) ↔ TransGen (LiesUnder g.nodegroups) id id) ∧
    (∀ id other, (∃ cycle ∈ g.cycles, id ∈ cycle ∧ other ∈ cycle) ↔
      TransGen (LiesUnder g.nodegroups) id other ∧ TransGen (LiesUnder g.nodegroups) other id) ∧
    g.cycles.flatten.Nodup ∧
    (∀ cycle ∈ g.cycles, cycle ≠ [] ∧ cycle.Pairwise fun a b => a.le b = true) ∧
    (g.cycles = [] ↔ ∀ id, ¬ TransGen (LiesUnder g.nodegroups) id id) := by
  rw [← hasParent_eq_liesUnder]
  refine ⟨?_, fun _ _ => exists_mem_both_iff, nodup_flatten_cyclesIn _, ?_, cycles_eq_nil_iff⟩
  · intro id
    have h : (∃ cycle ∈ g.cycles, id ∈ cycle ∧ id ∈ cycle) ↔ _ := exists_mem_both_iff
    simpa only [and_self] using h
  · intro cycle hcycle
    refine ⟨?_, pairwise_of_mem_cycles hcycle⟩
    rintro rfl
    obtain ⟨id, hne, hempty⟩ := circle_eq_of_mem_cyclesIn hcycle
    have hperm := List.mergeSort_perm (g.circle id) Uuid.le
    rw [← hempty] at hperm
    exact hne hperm.symm.eq_nil

end ResourceTables.Graph
