import ResourceTables.Proofs.Identifier.Climb
import ResourceTables.Proofs.Review.Components

/-!
# ResourceTables.Proofs.Review.LeavingOrder

The order in which circles are told: one that others lead into comes before those, so no circle leads
up to a later one (`cycles_in_order`).

The walk leaves each nodegroup once. When it leaves the last nodegroup of a circle, it has left all that
the circle leads up to (`IsSettled`). The reason is where the walk still is at that moment: only at
nodegroups that lead up to the one it leaves (`Walk.LeadsTo`), so one of them that the circle leads up to
would belong to the circle.
-/

namespace ResourceTables.Graph

open Relation (TransGen)

variable {g : Graph} {w w' : Walk} {id : Uuid}

/-- The walk once it has come to a nodegroup. -/
def Walk.enter (w : Walk) (id : Uuid) : Walk := { w with seen := id :: w.seen }

/-- The walk once it has left a nodegroup. -/
def Walk.leave (w : Walk) (id : Uuid) : Walk := { w with left := id :: w.left }

theorem visit_of_notMem (fuel : Nat) (h : id ∉ w.seen) : g.visit (fuel + 1) w id =
    ((g.parents id).foldl (g.visit fuel) (w.enter id)).leave id := by
  rw [visit, if_neg h]
  rfl

/-! ### What a walk keeps -/

/-- What a walk has seen stays seen and is not left anew. -/
structure Walk.Keeps (w w' : Walk) : Prop where
  seen : w.seen ⊆ w'.seen
  left : ∀ id ∈ w'.left, id ∈ w.left ∨ id ∉ w.seen

theorem Walk.Keeps.refl (w : Walk) : w.Keeps w := ⟨List.Subset.refl _, fun _ => .inl⟩

theorem Walk.Keeps.trans {w'' : Walk} (h : w.Keeps w') (h' : w'.Keeps w'') : w.Keeps w'' where
  seen := List.Subset.trans h.seen h'.seen
  left id hid := by
    rcases h'.left id hid with hid | hid
    · exact h.left id hid
    · exact .inr fun hseen => hid (h.seen hseen)

theorem keeps_visit (fuel : Nat) (w : Walk) (id : Uuid) : w.Keeps (g.visit fuel w id) := by
  induction fuel generalizing w id with
  | zero => exact .refl w
  | succ fuel ih =>
    by_cases hseen : id ∈ w.seen
    · rw [visit, if_pos hseen]
      exact .refl w
    rw [visit_of_notMem fuel hseen]
    have hrest := List.foldlRecOn (motive := (w.enter id).Keeps) (g.parents id) (g.visit fuel)
      (.refl _) fun w' h id' _ => h.trans (ih w' id')
    refine ⟨fun x hx => hrest.seen (List.mem_cons_of_mem _ hx), ?_⟩
    intro x hx
    rcases List.mem_cons.1 hx with rfl | hx
    · exact .inr hseen
    · exact (hrest.left x hx).imp_right fun hx hmem => hx (List.mem_cons_of_mem _ hmem)

theorem keeps_foldl_visit (g : Graph) (fuel : Nat) (w : Walk) (ids : List Uuid) :
    w.Keeps (ids.foldl (g.visit fuel) w) :=
  List.foldlRecOn ids (g.visit fuel) (.refl w) fun w' h id _ => h.trans (keeps_visit fuel w' id)

theorem mem_seen_visit (g : Graph) (fuel : Nat) (w : Walk) (id : Uuid) :
    id ∈ (g.visit (fuel + 1) w id).seen := by
  by_cases hseen : id ∈ w.seen
  · rw [visit, if_pos hseen]
    exact hseen
  · rw [visit_of_notMem fuel hseen]
    exact (keeps_foldl_visit g fuel (w.enter id) _).seen List.mem_cons_self

theorem subset_seen_foldl_visit (g : Graph) (fuel : Nat) (w : Walk) (ids : List Uuid) :
    ids ⊆ (ids.foldl (g.visit (fuel + 1)) w).seen := by
  induction ids generalizing w with
  | nil => exact List.nil_subset _
  | cons id ids ih =>
    have hfirst := (keeps_foldl_visit g (fuel + 1) _ ids).seen (mem_seen_visit g fuel w id)
    exact List.cons_subset.2 ⟨hfirst, ih _⟩

/-! ### What a walk has left -/

/-- In a list of what was left, last one first, a nodegroup with all of its circle behind it has all
that it leads up to behind it. -/
def IsSettled (g : Graph) (left : List Uuid) : Prop :=
  ∀ id rest, id :: rest <:+ left → g.circle id ⊆ id :: rest → g.above id ⊆ id :: rest

/-- A walk that has seen the parents of all that it left, and left it in a settled order. -/
structure Walk.IsSound (g : Graph) (w : Walk) : Prop where
  nodup : w.left.Nodup
  seen : w.left ⊆ w.seen
  parents : ∀ id ∈ w.left, g.parents id ⊆ w.seen
  settled : g.IsSettled w.left

/-- All nodegroups that a walk is still at lead up to the given one. -/
def Walk.LeadsTo (g : Graph) (w : Walk) (id : Uuid) : Prop :=
  ∀ x ∈ w.seen, x ∉ w.left → TransGen g.HasParent x id

theorem Walk.LeadsTo.of_goesOn (h : w.LeadsTo g id) (hw : w.GoesOn w') : w'.LeadsTo g id := by
  intro x hx hleft
  rcases hw.seen x hx with hx | hx
  · exact h x hx fun hmem => hleft (hw.left hmem)
  · exact absurd hx hleft

theorem Walk.IsSound.enter (h : w.IsSound g) (id : Uuid) : (w.enter id).IsSound g where
  nodup := h.nodup
  seen := List.subset_cons_of_subset _ h.seen
  parents x hx := List.subset_cons_of_subset _ (h.parents x hx)
  settled := h.settled

/-- A nodegroup whose parents were seen is left after all that it leads up to, if all of its circle was
left. -/
theorem Walk.IsSound.above_subset (h : w.IsSound g) (hparents : g.parents id ⊆ w.seen)
    (hopen : ∀ x ∈ w.seen, x ∉ w.left → x = id ∨ TransGen g.HasParent x id)
    (hcircle : g.circle id ⊆ id :: w.left) : g.above id ⊆ id :: w.left := by
  -- A parent that was not left would be in the circle.
  have hstep {y p : Uuid} (hy : y ∈ id :: w.left) (hp : g.HasParent y p)
      (hup : TransGen g.HasParent id p) : p ∈ id :: w.left := by
    by_contra hout
    obtain ⟨hne, hleft⟩ := not_or.1 fun h => hout (List.mem_cons.2 h)
    have hseen : p ∈ w.seen := by
      rcases List.mem_cons.1 hy with rfl | hy
      · exact hparents hp
      · exact h.parents y hy hp
    have hdown : TransGen g.HasParent p id := (hopen p hseen hleft).resolve_left hne
    exact hout (hcircle (mem_circle_iff.2 ⟨hup, hdown⟩))
  intro x hx
  rw [mem_above_iff] at hx
  induction hx with
  | single hid => exact hstep List.mem_cons_self hid (.single hid)
  | tail hup hlast ih => exact hstep ih hlast (hup.tail hlast)

theorem Walk.IsSound.leave (h : w.IsSound g) (hseen : id ∈ w.seen) (hleft : id ∉ w.left)
    (hparents : g.parents id ⊆ w.seen)
    (hopen : ∀ x ∈ w.seen, x ∉ w.left → x = id ∨ TransGen g.HasParent x id) :
    (w.leave id).IsSound g where
  nodup := List.nodup_cons.2 ⟨hleft, h.nodup⟩
  seen := List.cons_subset.2 ⟨hseen, h.seen⟩
  parents := List.forall_mem_cons.2 ⟨hparents, h.parents⟩
  settled other rest hsuffix := by
    rcases List.suffix_cons_iff.1 hsuffix with heq | hsuffix
    · cases heq
      exact h.above_subset hparents hopen
    · exact h.settled other rest hsuffix

/-- Visits one after the other, from where each of them may start. -/
theorem isSound_foldl_visit {fuel : Nat} {ids : List Uuid}
    (hvisit : ∀ {w id}, id ∈ g.nodegroupIds → (g.nodegroupIds \ w.seen.toFinset).card < fuel →
      w.IsSound g → w.LeadsTo g id → (g.visit fuel w id).IsSound g)
    (hids : ∀ id ∈ ids, id ∈ g.nodegroupIds)
    (hfuel : (g.nodegroupIds \ w.seen.toFinset).card < fuel) (hw : w.IsSound g)
    (hopen : ∀ id ∈ ids, w.LeadsTo g id) : (ids.foldl (g.visit fuel) w).IsSound g := by
  induction ids generalizing w with
  | nil => exact hw
  | cons id ids ih =>
    obtain ⟨hid, hids⟩ := List.forall_mem_cons.1 hids
    obtain ⟨hfirst, hopen⟩ := List.forall_mem_cons.1 hopen
    have hseen : w.seen.toFinset ⊆ (g.visit fuel w id).seen.toFinset :=
      fun x hx => List.mem_toFinset.2 ((keeps_visit fuel w id).seen (List.mem_toFinset.1 hx))
    have hcard := Finset.card_le_card (Finset.sdiff_subset_sdiff (le_refl g.nodegroupIds) hseen)
    exact ih hids (lt_of_le_of_lt hcard hfuel) (hvisit hid hfuel hw hfirst)
      fun id' hid' => (hopen id' hid').of_goesOn (goesOn_visit fuel w id)

/-- With fuel for all that it has not seen, a visit keeps a walk sound. -/
theorem isSound_visit {fuel : Nat} (hid : id ∈ g.nodegroupIds)
    (hfuel : (g.nodegroupIds \ w.seen.toFinset).card < fuel) (hw : w.IsSound g)
    (hopen : w.LeadsTo g id) : (g.visit fuel w id).IsSound g := by
  induction fuel generalizing w id with
  | zero => exact absurd hfuel (Nat.not_lt_zero _)
  | succ fuel ih =>
    by_cases hseen : id ∈ w.seen
    · rw [visit, if_pos hseen]
      exact hw
    rw [visit_of_notMem fuel hseen]
    -- The nodegroup is not new any more, so the fuel lasts for its parents.
    have hless : (g.nodegroupIds \ (w.enter id).seen.toFinset).card < fuel :=
      lt_of_lt_of_le (card_sdiff_lt hid hseen) (Nat.lt_succ_iff.1 hfuel)
    obtain ⟨fuel, rfl⟩ : ∃ n, fuel = n + 1 := ⟨fuel - 1, by omega⟩
    have hknown : ∀ p ∈ g.parents id, p ∈ g.nodegroupIds := by
      intro p hp
      rw [nodegroupIds, List.mem_toFinset]
      exact (mem_ids_of_transGen (.single hp)).2
    have hleads : ∀ p ∈ g.parents id, (w.enter id).LeadsTo g p := by
      intro p hp x hx hleft
      rcases List.mem_cons.1 hx with rfl | hx
      · exact .single hp
      · exact .tail (hopen x hx hleft) hp
    have hgoes := Walk.goesOn_foldl (goesOn_visit (g := g) (fuel + 1)) (w.enter id) (g.parents id)
    have hkeeps := keeps_foldl_visit g (fuel + 1) (w.enter id) (g.parents id)
    refine (isSound_foldl_visit ih hknown hless (hw.enter id) hleads).leave ?_ ?_ ?_ ?_
    · exact hkeeps.seen List.mem_cons_self
    · intro hleft
      rcases hkeeps.left id hleft with hmem | hmem
      · exact hseen (hw.seen hmem)
      · exact hmem List.mem_cons_self
    · exact subset_seen_foldl_visit g fuel _ _
    · intro x hx hleft
      rcases hgoes.seen x hx with hx | hx
      · exact (List.mem_cons.1 hx).imp_right fun hx => hopen x hx fun hmem => hleft (hgoes.left hmem)
      · exact absurd hx hleft

/-! ### The order of the circles -/

/-- The walk from every nodegroup. -/
def walk (g : Graph) : Walk :=
  (g.nodegroups.map NodeGroup.id).foldl (g.visit (g.nodegroups.length + 1)) {}

theorem isSound_start (g : Graph) : Walk.IsSound g {} where
  nodup := List.nodup_nil
  seen := List.Subset.refl _
  parents := List.forall_mem_nil _
  settled id rest hsuffix := by
    cases List.suffix_nil.1 hsuffix

theorem isSound_walk (g : Graph) : g.walk.IsSound g := by
  have hcard : (g.nodegroupIds \ (∅ : Finset Uuid)).card < g.nodegroups.length + 1 := by
    rw [Finset.sdiff_empty, Nat.lt_succ_iff]
    exact (List.toFinset_card_le _).trans_eq (List.length_map _)
  refine isSound_foldl_visit isSound_visit (fun id hid => List.mem_toFinset.2 hid) hcard
    (isSound_start g) ?_
  intro id _ x hx
  cases hx

theorem nodup_leavingOrder (g : Graph) : g.leavingOrder.Nodup :=
  List.nodup_reverse.2 g.isSound_walk.nodup

/-- A nodegroup that no later one is in a circle with comes after all that it leads up to. -/
theorem notMem_of_leavingOrder {before after : List Uuid} {x : Uuid}
    (h : g.leavingOrder = before ++ id :: after) (hlast : ∀ y ∈ g.circle id, y ∉ after)
    (hx : TransGen g.HasParent id x) : x ∉ after := by
  have hleft : g.walk.left = after.reverse ++ id :: before.reverse := by
    rw [← List.reverse_reverse g.walk.left]
    exact (congrArg List.reverse h).trans (by simp)
  have hcircle : g.circle id ⊆ id :: before.reverse := by
    intro y hy
    have hmem := mem_leavingOrder (mem_ids_of_transGen (mem_circle_iff.1 hy).1).2
    rw [h, List.mem_append, List.mem_cons] at hmem
    rw [List.mem_cons, List.mem_reverse]
    rcases hmem with hbefore | hid | hafter
    · exact .inr hbefore
    · exact .inl hid
    · exact absurd hafter (hlast y hy)
  have habove := g.isSound_walk.settled id before.reverse ⟨_, hleft.symm⟩ hcircle (mem_above_iff.2 hx)
  have hnodup := g.isSound_walk.nodup
  rw [hleft] at hnodup
  exact fun hafter => (List.nodup_append.1 hnodup).2.2 x (List.mem_reverse.2 hafter) x habove rfl

theorem pairwise_cyclesIn {before ids : List Uuid} (h : g.leavingOrder = before ++ ids) :
    (g.cyclesIn ids).Pairwise fun cycle later =>
      ∀ x ∈ cycle, ∀ y ∈ later, ¬ TransGen g.HasParent x y := by
  induction ids generalizing before with
  | nil => exact .nil
  | cons id ids ih =>
    have hrest := ih (h.trans (List.append_cons before id ids))
    rw [cyclesIn]
    split
    case isTrue => exact hrest
    case isFalse hlast =>
      rw [Bool.or_eq_true, List.any_eq_true, not_or, not_exists] at hlast
      refine List.pairwise_cons.2 ⟨?_, hrest⟩
      intro later hlater x hx y hy hup
      obtain ⟨id', hid', hmem⟩ := exists_mem_of_mem_cyclesIn hlater hy
      have hto : TransGen g.HasParent id id' :=
        ((mem_circle_iff.1 (List.mem_mergeSort.1 hx)).1.trans hup).trans (mem_circle_iff.1 hmem).2
      refine notMem_of_leavingOrder h ?_ hto hid'
      intro z hz hafter
      exact hlast.2 z ⟨hafter, List.contains_iff_mem.2 hz⟩

/-- Circles are told from the top: none of them leads up to a later one. -/
theorem cycles_in_order (g : Graph) : g.cycles.Pairwise fun cycle later =>
    ∀ x ∈ cycle, ∀ y ∈ later, ¬ TransGen g.HasParent x y :=
  pairwise_cyclesIn (List.nil_append _).symm

end ResourceTables.Graph
