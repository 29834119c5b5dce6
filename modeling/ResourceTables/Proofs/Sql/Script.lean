import Mathlib.Data.List.Forall2
import ResourceTables.Sql.Script

/-!
# ResourceTables.Proofs.Sql.Script

Scripts seen phase by phase: the phases of several scripts taken together, and a script as the list
of its statements in the order in which they are run. Statements that are added one at a time, in
whatever order of phases, come to the same as scripts that are put together (`pushAll_flatten`), and
every script is made up of its statements in this way (`pushAll_toList`).
-/

namespace ResourceTables.Sql.Script

variable {α : Type}

@[simp] theorem statements_concat (scripts : List (Script α)) (phase : Phase) :
    (concat scripts).statements phase = scripts.flatMap fun s => s.statements phase := by
  induction scripts with
  | nil => exact statements_empty phase
  | cons s scripts ih =>
    rw [List.flatMap_cons, ← ih]
    exact statements_append s (concat scripts) phase

/-- The statements of a script in the order in which they are run. -/
theorem map_snd_toList (s : Script α) :
    s.toList.map Prod.snd = Phase.all.flatMap s.statements := by
  simp [toList, List.map_flatMap, Function.comp_def]

theorem mem_statements {s : Script α} {p : Phase × α} (h : p ∈ s.toList) :
    p.2 ∈ s.statements p.1 := by
  obtain ⟨phase, -, hmem⟩ := List.mem_flatMap.1 h
  obtain ⟨st, hst, rfl⟩ := List.mem_map.1 hmem
  exact hst

theorem flatMap_phases (f : Phase → List α) :
    Phase.all.flatMap f = f .tables ++ (f .columns ++ (f .data ++ f .constraints)) := by
  simp [Phase.all]

theorem length_toList (s : Script α) : s.toList.length = s.size := by
  rw [← List.length_map Prod.snd, map_snd_toList, flatMap_phases]
  simp only [List.length_append, ← Nat.add_assoc]
  rfl

theorem isEmpty_iff (s : Script α) : s.isEmpty = true ↔ s.toList = [] := by
  rw [← List.map_eq_nil_iff, map_snd_toList, flatMap_phases]
  simp [isEmpty, statements, and_assoc]

/-! ### Statements with their phases -/

/-- The statements of one phase, in the order in which they stand in a list of all. -/
def ofPhase (phase : Phase) (l : List (Phase × α)) : List α :=
  (l.filter fun p => p.1 = phase).map Prod.snd

@[simp] theorem ofPhase_nil (phase : Phase) : ofPhase phase ([] : List (Phase × α)) = [] := rfl

theorem ofPhase_cons (phase : Phase) (p : Phase × α) (l : List (Phase × α)) :
    ofPhase phase (p :: l) = (if phase = p.1 then [p.2] else []) ++ ofPhase phase l := by
  by_cases h : phase = p.1
  · simp [ofPhase, h]
  · simp [ofPhase, h, Ne.symm h]

@[simp] theorem ofPhase_toList (s : Script α) (phase : Phase) :
    ofPhase phase s.toList = s.statements phase := by
  cases phase <;> simp [ofPhase, toList, Phase.all, List.filter_map, Function.comp_def]

/-! ### Scripts put together -/

theorem ext_statements {s t : Script α} (h : ∀ phase, s.statements phase = t.statements phase) :
    s = t :=
  Script.ext (h .tables) (h .columns) (h .data) (h .constraints)

theorem append_assoc (s t u : Script α) : s ++ t ++ u = s ++ (t ++ u) :=
  ext_statements fun phase => by simp only [statements_append, List.append_assoc]

theorem empty_append (s : Script α) : empty ++ s = s :=
  ext_statements fun phase => by rw [statements_append, statements_empty, List.nil_append]

theorem append_empty (s : Script α) : s ++ empty = s :=
  ext_statements fun phase => by rw [statements_append, statements_empty, List.append_nil]

@[simp] theorem concat_singleton (s : Script α) : concat [s] = s := append_empty s

/-! ### Adding statements -/

/-- Adds statements, each at the end of its phase. -/
def pushAll (s : Script α) (l : List (Phase × α)) : Script α :=
  l.foldl (fun s p => s.push p.1 p.2) s

theorem statements_pushAll (s : Script α) (l : List (Phase × α)) (phase : Phase) :
    (s.pushAll l).statements phase = s.statements phase ++ ofPhase phase l := by
  induction l generalizing s with
  | nil => exact (List.append_nil _).symm
  | cons p l ih =>
    rw [pushAll, List.foldl_cons, ← pushAll, ih, statements_push, List.append_assoc, ofPhase_cons]

/-- What is added does not depend on what is there. -/
theorem pushAll_eq_append (s : Script α) (l : List (Phase × α)) :
    s.pushAll l = s ++ empty.pushAll l :=
  ext_statements fun phase => by
    rw [statements_append, statements_pushAll, statements_pushAll, statements_empty,
      List.nil_append]

/-- The statements of a script make it up. -/
theorem pushAll_toList (s : Script α) : empty.pushAll s.toList = s :=
  ext_statements fun phase => by
    rw [statements_pushAll, statements_empty, List.nil_append, ofPhase_toList]

theorem append_eq_pushAll (s t : Script α) : s ++ t = s.pushAll t.toList := by
  rw [pushAll_eq_append, pushAll_toList]

theorem pushAll_append (s : Script α) (l l' : List (Phase × α)) :
    s.pushAll (l ++ l') = (s.pushAll l).pushAll l' :=
  List.foldl_append

/-- Several scripts may be written one after the other into one. -/
theorem pushAll_flatten {pushed : List (List (Phase × α))} {scripts : List (Script α)}
    (s : Script α) (h : List.Forall₂ (fun l t => empty.pushAll l = t) pushed scripts) :
    s.pushAll pushed.flatten = s ++ concat scripts := by
  induction h generalizing s with
  | nil => exact (append_empty s).symm
  | @cons l t pushed scripts hl _ ih =>
    rw [List.flatten_cons, pushAll_append, pushAll_eq_append s l, hl, ih, append_assoc]
    rfl

end ResourceTables.Sql.Script
