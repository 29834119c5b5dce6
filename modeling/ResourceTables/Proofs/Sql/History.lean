import Mathlib.Data.List.Sort
import ResourceTables.Proofs.Sql.Script

/-!
# ResourceTables.Proofs.Sql.History

Scripts and what was added to them. Whatever the order in which statements and whole scripts are added,
a script is a record of it: a phase has its statements in the order in which they were added, and all
statements together are what was added, sorted by phase (`script_records_history`).

Design points:

* A history is a tree, since a script that is taken into another one has a history of its own. What was
  added is the list of its leaves, and the induction over histories is done once, for the script that this
  list makes up (`History.script_eq_pushAll`).
* A stable sort is told by its order and by the elements of each key, so nothing is said here about how it
  sorts (`eq_of_filter_key_eq`, `filter_mergeSort_key`).
-/

namespace ResourceTables

/-! ### Lists in the order of a key -/

section Key

variable {α : Type} (key : α → Nat)

theorem key_head_le {a b : α} {l : List α} (h : (b :: l).Pairwise fun a b => key a ≤ key b)
    (ha : a ∈ b :: l) : key b ≤ key a := by
  rcases List.mem_cons.1 ha with rfl | ha
  · exact le_rfl
  · exact List.rel_of_pairwise_cons h ha

theorem filter_eq_of_filter_cons_eq {p : α → Bool} {a : α} {l l' : List α}
    (h : (a :: l).filter p = (a :: l').filter p) : l.filter p = l'.filter p := by
  by_cases ha : p a = true
  · rw [List.filter_cons_of_pos ha, List.filter_cons_of_pos ha] at h
    exact (List.cons.inj h).2
  · rwa [List.filter_cons_of_neg ha, List.filter_cons_of_neg ha] at h

/-- Lists in the order of a key are the same if they have the same elements of each key, in the same
order. -/
theorem eq_of_filter_key_eq {l l' : List α} (hl : l.Pairwise fun a b => key a ≤ key b)
    (hl' : l'.Pairwise fun a b => key a ≤ key b)
    (h : ∀ c, (l.filter fun a => key a = key c) = l'.filter fun a => key a = key c) : l = l' := by
  induction l generalizing l' with
  | nil =>
    cases l' with
    | nil => rfl
    | cons b l' => exact absurd (h b) (by simp)
  | cons a l ih =>
    cases l' with
    | nil => exact absurd (h a) (by simp)
    | cons b l' =>
      -- Each of the two heads is in the other list, so neither has the greater key.
      have hmem (c : α) : c ∈ a :: l ↔ c ∈ b :: l' := by
        have hc := congrArg (c ∈ ·) (h c)
        simpa using hc
      have hba : key b ≤ key a := key_head_le key hl' ((hmem a).1 List.mem_cons_self)
      have hab : key a ≤ key b := key_head_le key hl ((hmem b).2 List.mem_cons_self)
      have hkey : key b = key a := le_antisymm hba hab
      -- So both come first among the elements of one key, where the lists agree.
      have hhead := h a
      rw [List.filter_cons_of_pos (by simp), List.filter_cons_of_pos (by simpa using hkey)] at hhead
      obtain ⟨rfl, -⟩ := List.cons.inj hhead
      rw [ih hl.of_cons hl'.of_cons fun c => filter_eq_of_filter_cons_eq (h c)]

theorem leKey_trans (a b c : α) (hab : decide (key a ≤ key b) = true)
    (hbc : decide (key b ≤ key c) = true) : decide (key a ≤ key c) = true := by
  rw [decide_eq_true_eq] at hab hbc ⊢
  exact hab.trans hbc

theorem leKey_total (a b : α) : (decide (key a ≤ key b) || decide (key b ≤ key a)) = true := by
  rw [Bool.or_eq_true, decide_eq_true_eq, decide_eq_true_eq]
  exact le_total (key a) (key b)

theorem pairwise_mergeSort_key (l : List α) :
    (l.mergeSort fun a b => key a ≤ key b).Pairwise fun a b => key a ≤ key b :=
  (List.pairwise_mergeSort (leKey_trans key) (leKey_total key) l).imp of_decide_eq_true

/-- Sorting by a key keeps the order among the elements of one key. -/
theorem filter_mergeSort_key (l : List α) (c : α) :
    ((l.mergeSort fun a b => key a ≤ key b).filter fun a => key a = key c) =
      l.filter fun a => key a = key c := by
  have hsame : (l.filter fun a => key a = key c).Pairwise fun a b => decide (key a ≤ key b) = true := by
    refine List.pairwise_of_forall_mem_list fun a ha b hb => ?_
    simp only [List.mem_filter, decide_eq_true_eq] at ha hb ⊢
    exact (ha.2.trans hb.2.symm).le
  have hsub := List.sublist_mergeSort (leKey_trans key) (leKey_total key) hsame List.filter_sublist
  have hfilter := hsub.filter fun a => key a = key c
  rw [List.filter_filter] at hfilter
  simp only [Bool.and_self] at hfilter
  have hlength := ((List.mergeSort_perm l fun a b => key a ≤ key b).filter
    fun a => key a = key c).length_eq
  exact (hfilter.eq_of_length hlength.symm).symm

end Key

namespace Sql

/-- The place of a phase in the order of phases. -/
def Phase.place : Phase → Nat
  | .tables => 0
  | .columns => 1
  | .data => 2
  | .constraints => 3

theorem Phase.place_inj {p q : Phase} : p.place = q.place ↔ p = q := by
  cases p <;> cases q <;> decide

theorem Phase.pairwise_all : Phase.all.Pairwise fun p q => p.place < q.place := by decide

namespace Script

variable {α : Type}

/-! ### The order of statements -/

theorem filter_phase_eq (phase : Phase) (l : List (Phase × α)) :
    (l.filter fun p => p.1 = phase) = (ofPhase phase l).map (phase, ·) := by
  have hphase : ∀ p ∈ l.filter fun p => p.1 = phase, (phase, p.2) = p := by
    intro p hp
    rw [← of_decide_eq_true (List.mem_filter.1 hp).2]
  rw [ofPhase, List.map_map]
  exact (List.map_id _).symm.trans (List.map_congr_left fun p hp => (hphase p hp).symm)

theorem pairwise_toList (s : Script α) : s.toList.Pairwise fun p q => p.1.place ≤ q.1.place := by
  rw [toList, List.pairwise_flatMap]
  constructor
  · intro phase _
    rw [List.pairwise_map]
    exact List.pairwise_of_forall fun _ _ => le_rfl
  · refine Phase.pairwise_all.imp fun hlt p hp q hq => ?_
    obtain ⟨_, -, rfl⟩ := List.mem_map.1 hp
    obtain ⟨_, -, rfl⟩ := List.mem_map.1 hq
    exact hlt.le

/-- A script whose phases have the statements of a list has the statements of the list in the order of
their phases. -/
theorem toList_eq_mergeSort {s : Script α} {l : List (Phase × α)}
    (h : ∀ phase, s.statements phase = ofPhase phase l) :
    s.toList = l.mergeSort fun p q => p.1.place ≤ q.1.place := by
  refine eq_of_filter_key_eq (fun p => p.1.place) (pairwise_toList s)
    (pairwise_mergeSort_key (fun p : Phase × α => p.1.place) l) fun c => ?_
  rw [filter_mergeSort_key (fun p : Phase × α => p.1.place)]
  simp only [Phase.place_inj]
  rw [filter_phase_eq, filter_phase_eq, ofPhase_toList, h]

/-- What can be seen of a script is what was added to it: the statements of each phase in the order in
which they were added, all of them sorted by their phases, and how many they are. -/
structure Records (s : Script α) (added : List (Phase × α)) : Prop where
  statements (phase : Phase) : s.statements phase = ofPhase phase added
  toList : s.toList = added.mergeSort fun p q => p.1.place ≤ q.1.place
  size : s.size = added.length
  isEmpty : s.isEmpty = true ↔ added = []

theorem records_pushAll (added : List (Phase × α)) : (empty.pushAll added).Records added := by
  have hstatements (phase : Phase) :
      (empty.pushAll added).statements phase = ofPhase phase added := by
    rw [statements_pushAll, statements_empty, List.nil_append]
  have htoList := toList_eq_mergeSort hstatements
  have hsize : (empty.pushAll added).size = added.length := by
    rw [← length_toList, htoList, List.length_mergeSort]
  refine ⟨hstatements, htoList, hsize, ?_⟩
  rw [isEmpty_iff, ← List.length_eq_zero_iff, length_toList, hsize, List.length_eq_zero_iff]

end Script

/-! ### Histories -/

/-- How a script came about. -/
inductive History (α : Type)
  /-- The script is a new one. -/
  | empty
  /-- A statement is added at the end of a phase. -/
  | push (before : History α) (phase : Phase) (statement : α)
  /-- The statements of another script are added, which has a history of its own. -/
  | extend (before other : History α)

namespace History

variable {α : Type}

/-- The script that came about. -/
def script : History α → Script α
  | empty => .empty
  | push before phase statement => before.script.push phase statement
  | extend before other => before.script ++ other.script

/-- The statements that were added, in the order in which they were. -/
def added : History α → List (Phase × α)
  | empty => []
  | push before phase statement => before.added ++ [(phase, statement)]
  | extend before other => before.added ++ other.added

/-- Taking in a script comes to the same as adding what was added to it. -/
theorem script_eq_pushAll (h : History α) : h.script = Script.empty.pushAll h.added := by
  induction h with
  | empty => rfl
  | push before phase statement ih =>
    rw [added, Script.pushAll_append, ← ih]
    rfl
  | extend before other ih ih' =>
    rw [added, Script.pushAll_append, Script.pushAll_eq_append, ← ih, ← ih']
    rfl

end History

namespace Script

/-! ### Text -/

/-- The text of statements with their phases: for each phase that has some, a heading and a line for each
of them, with an empty line between two phases. -/
def layout (l : List (Phase × String)) : String :=
  "\n".intercalate ((Phase.all.filter fun phase => phase ∈ l.map Prod.fst).map fun phase =>
    "-- " ++ phase.label ++ "\n" ++ String.join ((ofPhase phase l).map (· ++ "\n")))

theorem mem_map_fst_iff {α : Type} {phase : Phase} {l : List (Phase × α)} :
    phase ∈ l.map Prod.fst ↔ ofPhase phase l ≠ [] := by
  simp [ofPhase, List.filter_eq_nil_iff]

theorem render_eq_layout (s : Script String) : s.render = layout s.toList := by
  rw [render, layout, ← List.filterMap_eq_map, List.filterMap_filter]
  congr 1
  refine List.filterMap_congr fun phase _ => ?_
  simp only [mem_map_fst_iff, ofPhase_toList, section?]
  cases h : s.statements phase <;> simp [h]

end Script

/-- A script is a record of its history. Whatever statements were added to it in whatever order of phases,
one by one or with a script that has a history of its own, each phase has those that were added to it, in
that order, and all of them together are the stable sort by phase of what was added; it is known how many
they are and whether there is none. To take in a script is to add its statements, so it does not matter
how scripts are grouped that are put together, nor do scripts without statements. The text of a script is
made from its statements with their phases. -/
theorem script_records_history {α : Type} :
    (∀ h : History α, h.script.Records h.added) ∧
    (∀ s t : Script α, s ++ t = s.pushAll t.toList) ∧
    (∀ s t u : Script α, s ++ t ++ u = s ++ (t ++ u)) ∧
    (∀ s : Script α, Script.empty ++ s = s ∧ s ++ Script.empty = s) ∧
    ∀ s : Script String, s.render = Script.layout s.toList := by
  refine ⟨fun h => ?_, Script.append_eq_pushAll, Script.append_assoc,
    fun s => ⟨s.empty_append, s.append_empty⟩, Script.render_eq_layout⟩
  rw [h.script_eq_pushAll]
  exact Script.records_pushAll h.added

/-- The statement for tables was added last, and in another script. -/
example : ((History.empty.push .data "D;").extend
      ((History.empty.push .constraints "K;").push .tables "T;")).script.render =
    "-- tables\nT;\n\n-- data\nD;\n\n-- constraints\nK;\n" := by
  cbv

end Sql

end ResourceTables
