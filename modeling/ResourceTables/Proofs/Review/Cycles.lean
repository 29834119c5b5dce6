import Mathlib.Data.List.Perm.Subperm
import Mathlib.Logic.Relation
import ResourceTables.Review.Cycles

/-!
# ResourceTables.Proofs.Review.Cycles

The circles of a graph told without the searches that find them. Two nodegroups are in one circle
exactly if each leads up to the other along parents (`mem_cycle_iff`), and a nodegroup that leads up to
itself is in one of them (`exists_mem_cycles`).

The search for what is above a nodegroup stops when a level finds nothing new, or when its fuel is
used up. By then it has found as many nodegroups as there are, so nothing is missing in either case
(`mem_aboveFrom_iff`). Of the walk that orders the circles it only matters that it leaves every
nodegroup in the end (`mem_leavingOrder`).
-/

namespace ResourceTables.Graph

open Relation (TransGen)

variable {g : Graph}

/-- A nodegroup with the one identifier has the other one, which is known, as its parent. -/
def HasParent (g : Graph) (id parent : Uuid) : Prop := parent ∈ g.parents id

theorem hasParent_iff {id parent : Uuid} :
    g.HasParent id parent ↔ (∃ group ∈ g.nodegroups, group.id = id ∧ group.parent = some parent) ∧
      (g.nodegroup? parent).isSome = true := by
  unfold HasParent parents
  rw [List.mem_reverse, List.mem_filterMap]
  constructor
  · rintro ⟨group, hgroup, hparent⟩
    by_cases hid : group.id = id
    · rw [if_pos hid, Option.filter_eq_some_iff] at hparent
      exact ⟨⟨group, hgroup, hid, hparent.1⟩, hparent.2⟩
    · rw [if_neg hid] at hparent
      cases hparent
  · rintro ⟨⟨group, hgroup, hid, hparent⟩, hknown⟩
    refine ⟨group, hgroup, ?_⟩
    rw [if_pos hid, Option.filter_eq_some_iff]
    exact ⟨hparent, hknown⟩

theorem isSome_nodegroup?_iff {id : Uuid} :
    (g.nodegroup? id).isSome = true ↔ id ∈ g.nodegroups.map NodeGroup.id := by
  rw [nodegroup?, List.find?_isSome, List.mem_map]
  simp

theorem mem_ids_of_transGen {id above : Uuid} (h : TransGen g.HasParent id above) :
    id ∈ g.nodegroups.map NodeGroup.id ∧ above ∈ g.nodegroups.map NodeGroup.id := by
  have hfirst {a b : Uuid} (hab : g.HasParent a b) : a ∈ g.nodegroups.map NodeGroup.id := by
    obtain ⟨⟨group, hgroup, rfl, -⟩, -⟩ := hasParent_iff.1 hab
    exact List.mem_map_of_mem hgroup
  have hlast {a b : Uuid} (hab : g.HasParent a b) : b ∈ g.nodegroups.map NodeGroup.id :=
    isSome_nodegroup?_iff.1 (hasParent_iff.1 hab).2
  constructor
  · obtain ⟨b, hab, -⟩ := TransGen.head'_iff.1 h
    exact hfirst hab
  · obtain ⟨b, -, hbc⟩ := TransGen.tail'_iff.1 h
    exact hlast hbc

/-! ### What is above -/

theorem nodup_eraseDups (l : List Uuid) : l.eraseDups.Nodup := by
  induction hn : l.length using Nat.strongRecOn generalizing l with
  | ind n ih =>
    cases l with
    | nil => exact List.nodup_nil
    | cons a l =>
      rw [List.eraseDups_cons, List.nodup_cons, List.mem_eraseDups]
      refine ⟨by simp, ih _ ?_ _ rfl⟩
      have hle := List.length_filter_le (fun b => !b == a) l
      rw [List.length_cons] at hn
      omega

/-- The state of the search above a nodegroup: only the parents of the last level may be missing
among those found. -/
structure IsSearch (g : Graph) (id : Uuid) (level found : List Uuid) : Prop where
  nodup : found.Nodup
  above : ∀ x ∈ found, TransGen g.HasParent id x
  of_level : ∀ x ∈ level, x = id ∨ x ∈ found
  closed : ∀ x, x = id ∨ x ∈ found → x ∉ level → g.parents x ⊆ found

theorem isSearch_start (g : Graph) (id : Uuid) : g.IsSearch id [id] [] where
  nodup := List.nodup_nil
  above := by simp
  of_level := by simp
  closed x hx hlevel := by simp_all

/-- The next level of a search. -/
def nextLevel (g : Graph) (level found : List Uuid) : List Uuid :=
  ((level.flatMap g.parents).filter fun id => id ∉ found).eraseDups

theorem mem_nextLevel {level found : List Uuid} {x : Uuid} :
    x ∈ g.nextLevel level found ↔ (∃ y ∈ level, g.HasParent y x) ∧ x ∉ found := by
  unfold nextLevel HasParent
  simp [List.mem_eraseDups]

theorem IsSearch.next {id : Uuid} {level found : List Uuid} (h : g.IsSearch id level found) :
    g.IsSearch id (g.nextLevel level found) (found ++ g.nextLevel level found) where
  nodup := by
    refine List.nodup_append.2 ⟨h.nodup, nodup_eraseDups _, ?_⟩
    rintro x hfound _ hnext rfl
    exact (mem_nextLevel.1 hnext).2 hfound
  above x hx := by
    rcases List.mem_append.1 hx with hx | hx
    · exact h.above x hx
    · obtain ⟨⟨y, hy, hyx⟩, -⟩ := mem_nextLevel.1 hx
      rcases h.of_level y hy with rfl | hy
      · exact .single hyx
      · exact .tail (h.above y hy) hyx
  of_level x hx := .inr (List.mem_append_right _ hx)
  closed x hx hlevel := by
    intro p hp
    by_cases hfound : p ∈ found
    · exact List.mem_append_left _ hfound
    -- A parent that was not found before belongs to the last level, so the next level has it.
    by_cases hlast : x ∈ level
    · exact List.mem_append_right _ (mem_nextLevel.2 ⟨⟨x, hlast, hp⟩, hfound⟩)
    · have hx : x = id ∨ x ∈ found :=
        hx.imp_right fun hx => (List.mem_append.1 hx).resolve_right hlevel
      exact absurd (h.closed x hx hlast hp) hfound

/-- A search that finds no next level has found everything. -/
theorem IsSearch.mem_of_transGen {id x : Uuid} {level found : List Uuid}
    (h : g.IsSearch id level found) (hlast : g.nextLevel level found = [])
    (hx : TransGen g.HasParent id x) : x ∈ found := by
  have hclosed : ∀ y, y = id ∨ y ∈ found → g.parents y ⊆ found := by
    intro y hy p hp
    by_cases hlevel : y ∈ level
    · by_contra hfound
      have hnext := mem_nextLevel.2 ⟨⟨y, hlevel, hp⟩, hfound⟩
      rw [hlast] at hnext
      cases hnext
    · exact h.closed y hy hlevel hp
  induction hx with
  | single hid => exact hclosed id (.inl rfl) hid
  | tail _ hstep ih => exact hclosed _ (.inr ih) hstep

/-- A search that has found as many nodegroups as there are has found everything. -/
theorem IsSearch.mem_of_length_le {id x : Uuid} {level found : List Uuid}
    (h : g.IsSearch id level found) (hlength : g.nodegroups.length ≤ found.length)
    (hx : TransGen g.HasParent id x) : x ∈ found := by
  have hsub : found ⊆ g.nodegroups.map NodeGroup.id := fun y hy =>
    (mem_ids_of_transGen (h.above y hy)).2
  have hperm := (List.subperm_of_subset h.nodup hsub).perm_of_length_le (by simpa using hlength)
  exact hperm.mem_iff.2 (mem_ids_of_transGen hx).2

theorem mem_aboveFrom_iff {id x : Uuid} {fuel : Nat} {level found : List Uuid}
    (h : g.IsSearch id level found) (hfuel : g.nodegroups.length ≤ fuel + found.length) :
    x ∈ g.aboveFrom fuel level found ↔ TransGen g.HasParent id x := by
  induction fuel generalizing level found with
  | zero =>
    rw [Nat.zero_add] at hfuel
    exact ⟨h.above x, h.mem_of_length_le hfuel⟩
  | succ fuel ih =>
    rw [aboveFrom]
    cases hnext : g.nextLevel level found with
    | nil =>
      rw [nextLevel] at hnext
      rw [hnext]
      exact ⟨h.above x, h.mem_of_transGen hnext⟩
    | cons y next =>
      have hsearch := h.next
      rw [hnext] at hsearch
      rw [nextLevel] at hnext
      rw [hnext]
      refine ih hsearch ?_
      rw [List.length_append, List.length_cons]
      omega

theorem mem_above_iff {id x : Uuid} : x ∈ g.above id ↔ TransGen g.HasParent id x :=
  mem_aboveFrom_iff (isSearch_start g id) (by simp)

theorem mem_circle_iff {id x : Uuid} :
    x ∈ g.circle id ↔ TransGen g.HasParent id x ∧ TransGen g.HasParent x id := by
  rw [circle, List.mem_filter, mem_above_iff, decide_eq_true_iff, mem_above_iff]

/-! ### Order -/

/-- A walk goes on: it has left what it left before, and all that it has come to since. -/
structure Walk.GoesOn (w w' : Walk) : Prop where
  left : w.left ⊆ w'.left
  seen : ∀ id ∈ w'.seen, id ∈ w.seen ∨ id ∈ w'.left

theorem Walk.GoesOn.refl (w : Walk) : w.GoesOn w := ⟨List.Subset.refl _, fun _ => .inl⟩

theorem Walk.GoesOn.trans {w w' w'' : Walk} (h : w.GoesOn w') (h' : w'.GoesOn w'') :
    w.GoesOn w'' where
  left := List.Subset.trans h.left h'.left
  seen id hid := by
    rcases h'.seen id hid with hid | hid
    · exact (h.seen id hid).imp_right fun hleft => h'.left hleft
    · exact .inr hid

theorem Walk.goesOn_foldl {f : Walk → Uuid → Walk} (hf : ∀ (w : Walk) id, w.GoesOn (f w id))
    (w : Walk) (ids : List Uuid) : w.GoesOn (ids.foldl f w) := by
  induction ids generalizing w with
  | nil => exact .refl w
  | cons id ids ih => exact (hf w id).trans (ih (f w id))

theorem goesOn_visit (fuel : Nat) (w : Walk) (id : Uuid) : w.GoesOn (g.visit fuel w id) := by
  induction fuel generalizing w id with
  | zero => exact .refl w
  | succ fuel ih =>
    rw [visit]
    by_cases hseen : id ∈ w.seen
    · rw [if_pos hseen]
      exact .refl w
    rw [if_neg hseen]
    have hrest := Walk.goesOn_foldl ih { w with seen := id :: w.seen } (g.parents id)
    refine ⟨fun x hx => List.mem_cons_of_mem _ (hrest.left hx), ?_⟩
    intro x hx
    rcases hrest.seen x hx with hx | hx
    · -- The nodegroup itself is left last.
      rcases List.mem_cons.1 hx with rfl | hx
      · exact .inr List.mem_cons_self
      · exact .inl hx
    · exact .inr (List.mem_cons_of_mem _ hx)

theorem mem_seen_or_mem_left_visit (fuel : Nat) (w : Walk) (id : Uuid) :
    id ∈ w.seen ∨ id ∈ (g.visit (fuel + 1) w id).left := by
  rw [visit]
  by_cases hseen : id ∈ w.seen
  · exact .inl hseen
  · rw [if_neg hseen]
    exact .inr List.mem_cons_self

/-- A walk that has left all it has seen leaves every nodegroup it is sent to. -/
theorem mem_left_foldl_visit {fuel : Nat} {ids : List Uuid} {w : Walk} {id : Uuid}
    (hw : w.seen ⊆ w.left) (hid : id ∈ ids) :
    id ∈ (ids.foldl (g.visit (fuel + 1)) w).left := by
  induction ids generalizing w with
  | nil => cases hid
  | cons first ids ih =>
    have hstep := goesOn_visit (g := g) (fuel + 1) w first
    rw [List.foldl_cons]
    rcases List.mem_cons.1 hid with rfl | hid
    · have hleft : id ∈ (g.visit (fuel + 1) w id).left :=
        (mem_seen_or_mem_left_visit fuel w id).elim (fun hseen => hstep.left (hw hseen)) fun hleft => hleft
      exact (Walk.goesOn_foldl (goesOn_visit _) _ ids).left hleft
    · refine ih ?_ hid
      intro x hx
      exact (hstep.seen x hx).elim (fun hseen => hstep.left (hw hseen)) fun hleft => hleft

theorem mem_leavingOrder {id : Uuid} (h : id ∈ g.nodegroups.map NodeGroup.id) :
    id ∈ g.leavingOrder :=
  List.mem_reverse.2 (mem_left_foldl_visit (by simp) h)

/-! ### Circles -/

theorem circle_eq_of_mem_cyclesIn {ids cycle : List Uuid} (h : cycle ∈ g.cyclesIn ids) :
    ∃ id, g.circle id ≠ [] ∧ cycle = (g.circle id).mergeSort Uuid.le := by
  induction ids with
  | nil => cases h
  | cons id ids ih =>
    rw [cyclesIn] at h
    split at h
    case isTrue => exact ih h
    case isFalse hlast =>
      rcases List.mem_cons.1 h with rfl | h
      · refine ⟨id, ?_, rfl⟩
        intro hempty
        simp [hempty] at hlast
      · exact ih h

theorem subset_cyclesIn_cons (id : Uuid) (ids : List Uuid) :
    g.cyclesIn ids ⊆ g.cyclesIn (id :: ids) := by
  intro cycle h
  rw [cyclesIn]
  split
  case isTrue => exact h
  case isFalse => exact List.mem_cons_of_mem _ h

/-- A circle that some nodegroup of the list is in is told where its last one stands. -/
theorem exists_mem_cyclesIn {ids : List Uuid} {id : Uuid} (hid : id ∈ ids)
    (h : TransGen g.HasParent id id) :
    ∃ cycle ∈ g.cyclesIn ids, ∀ x, x ∈ cycle ↔
      TransGen g.HasParent id x ∧ TransGen g.HasParent x id := by
  induction ids generalizing id with
  | nil => cases hid
  | cons first ids ih =>
    by_cases hlater : ∃ other ∈ ids, other ∈ g.circle id
    · obtain ⟨other, hother, hmem⟩ := hlater
      obtain ⟨hup, hdown⟩ := mem_circle_iff.1 hmem
      obtain ⟨cycle, hcycle, hmutual⟩ := ih hother (hdown.trans hup)
      refine ⟨cycle, subset_cyclesIn_cons _ _ hcycle, ?_⟩
      intro x
      rw [hmutual]
      constructor
      · rintro ⟨hx, hx'⟩
        exact ⟨hup.trans hx, hx'.trans hdown⟩
      · rintro ⟨hx, hx'⟩
        exact ⟨hdown.trans hx, hx'.trans hup⟩
    · have hself : id ∈ g.circle id := mem_circle_iff.2 ⟨h, h⟩
      -- No later nodegroup is in the circle, so this one is its last and the first of the list.
      obtain rfl : id = first :=
        (List.mem_cons.1 hid).resolve_right fun hrest => hlater ⟨id, hrest, hself⟩
      have hlast : ((g.circle id).isEmpty || ids.any ((g.circle id).contains ·)) = false := by
        rw [Bool.or_eq_false_iff, List.any_eq_false]
        refine ⟨?_, ?_⟩
        · rw [← Bool.not_eq_true, List.isEmpty_iff]
          intro hempty
          rw [hempty] at hself
          cases hself
        · intro other hother hmem
          exact hlater ⟨other, hother, List.contains_iff_mem.1 hmem⟩
      refine ⟨(g.circle id).mergeSort Uuid.le, ?_, ?_⟩
      · rw [cyclesIn]
        rw [hlast]
        exact List.mem_cons_self
      · intro x
        rw [List.mem_mergeSort, mem_circle_iff]

/-- A nodegroup that leads up to itself is in a circle, together with all that it leads up to and
that lead up to it. -/
theorem exists_mem_cycles {id : Uuid} (h : TransGen g.HasParent id id) :
    ∃ cycle ∈ g.cycles, ∀ x, x ∈ cycle ↔
      TransGen g.HasParent id x ∧ TransGen g.HasParent x id :=
  exists_mem_cyclesIn (mem_leavingOrder (mem_ids_of_transGen h).1) h

/-- The nodegroups of a circle are those that lead up to one of them and that it leads up to. -/
theorem mem_cycle_iff {cycle : List Uuid} {id x : Uuid} (hcycle : cycle ∈ g.cycles)
    (hid : id ∈ cycle) :
    x ∈ cycle ↔ TransGen g.HasParent id x ∧ TransGen g.HasParent x id := by
  obtain ⟨first, -, rfl⟩ := circle_eq_of_mem_cyclesIn hcycle
  rw [List.mem_mergeSort, mem_circle_iff] at hid ⊢
  obtain ⟨hup, hdown⟩ := hid
  constructor
  · rintro ⟨hx, hx'⟩
    exact ⟨hdown.trans hx, hx'.trans hup⟩
  · rintro ⟨hx, hx'⟩
    exact ⟨hup.trans hx, hx'.trans hdown⟩

/-- There is no circle exactly if no nodegroup leads up to itself. -/
theorem cycles_eq_nil_iff : g.cycles = [] ↔ ∀ id, ¬ TransGen g.HasParent id id := by
  constructor
  · intro hnil id h
    obtain ⟨cycle, hcycle, -⟩ := exists_mem_cycles h
    rw [hnil] at hcycle
    cases hcycle
  · intro hfree
    refine List.eq_nil_iff_forall_not_mem.2 ?_
    intro cycle hcycle
    obtain ⟨first, hne, -⟩ := circle_eq_of_mem_cyclesIn hcycle
    obtain ⟨x, hx⟩ := List.exists_mem_of_ne_nil _ hne
    obtain ⟨hup, hdown⟩ := mem_circle_iff.1 hx
    exact hfree first (hup.trans hdown)

end ResourceTables.Graph
