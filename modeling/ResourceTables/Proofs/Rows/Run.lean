import Mathlib.Algebra.GroupWithZero.Nat
import ResourceTables.Rows.Materialization
import ResourceTables.Proofs.Steps

/-!
# ResourceTables.Proofs.Rows.Run

A run of steps that does not fail yields what its steps yield one after the other
(`run_eq_ok_iff`), so what is written for a schema can be read off step by step. A run that fails has
taken the steps before one that fails (`run_eq_error_iff`).
-/

namespace ResourceTables.Rows

variable {srid : Nat} {language : String} {s : Schema}

/-! ### Counts -/

/-- Counts are summed one by one. -/
theorem Stats.sum_map {α : Type} (f : α → Stats) (l : List α) : Stats.sum (l.map f) =
    { resources := (l.map fun a => (f a).resources).sum
      tiles := (l.map fun a => (f a).tiles).sum
      updates := (l.map fun a => (f a).updates).sum
      skipped := (l.map fun a => (f a).skipped).sum } := by
  induction l with
  | nil => rfl
  | cons a l ih =>
    rw [List.map_cons, Stats.sum, List.foldr_cons, ← Stats.sum, ih]
    rfl

/-! ### Steps -/

/-- What several steps wrote, in order. -/
def Yield.concat (yields : List Yield) : Yield := yields.foldr (· ++ ·) {}

@[simp] theorem Yield.statements_append (a b : Yield) :
    (a ++ b).statements = a.statements ++ b.statements := rfl

@[simp] theorem Yield.statements_concat (yields : List Yield) :
    (Yield.concat yields).statements = yields.flatMap Yield.statements := by
  induction yields with
  | nil => rfl
  | cons y yields ih =>
    rw [List.flatMap_cons, ← ih]
    rfl

theorem run_eq_ok_iff {steps : List Step} {y : Yield} :
    run srid language s steps = (y, none) ↔
      ∃ yields, List.Forall₂ (fun step y => step.yield srid language s = .ok y) steps yields ∧
        y = Yield.concat yields := by
  induction steps generalizing y with
  | nil =>
    constructor
    · intro h
      cases h
      exact ⟨[], .nil, rfl⟩
    · rintro ⟨_, ⟨⟩, rfl⟩
      rfl
  | cons step steps ih =>
    rw [run]
    cases hstep : step.yield srid language s with
    | error e =>
      constructor
      · intro h
        cases h
      · rintro ⟨_, hall, -⟩
        cases hall with
        | cons h _ => cases hstep.symm.trans h
    | ok first =>
      rcases hrun : run srid language s steps with ⟨after, failure⟩
      constructor
      · intro h
        cases h
        obtain ⟨yields, hall, rfl⟩ := ih.1 hrun
        exact ⟨first :: yields, .cons hstep hall, rfl⟩
      · rintro ⟨_, hall, rfl⟩
        cases hall with
        | cons h hrest =>
          cases hstep.symm.trans h
          cases hrun.symm.trans (ih.2 ⟨_, hrest, rfl⟩)
          rfl

theorem exists_yield_of_mem {steps : List Step} {y : Yield} {step : Step}
    (h : run srid language s steps = (y, none)) (hstep : step ∈ steps) :
    ∃ y', step.yield srid language s = .ok y' := by
  obtain ⟨yields, hall, -⟩ := run_eq_ok_iff.1 h
  obtain ⟨y', -, hy'⟩ := exists_right_of_mem hall hstep
  exact ⟨y', hy'⟩

/-- A run that fails wrote what the run of the steps before its failure writes. -/
theorem run_eq_error_iff {steps : List Step} {y : Yield} {e : ExportError} :
    run srid language s steps = (y, some e) ↔
      ∃ before step after, steps = before ++ step :: after ∧
        run srid language s before = (y, none) ∧ step.yield srid language s = .error e := by
  induction steps generalizing y with
  | nil => simp [run]
  | cons first steps ih =>
    rw [run]
    cases hfirst : first.yield srid language s with
    | error e' =>
      constructor
      · intro h
        cases h
        exact ⟨[], first, steps, rfl, rfl, hfirst⟩
      · rintro ⟨before, step, after, hsteps, hbefore, hstep⟩
        cases before with
        | nil =>
          cases hsteps
          cases hbefore
          cases hfirst.symm.trans hstep
          rfl
        | cons first' before =>
          obtain rfl := (List.cons.inj hsteps).1
          obtain ⟨y', hy'⟩ := exists_yield_of_mem hbefore List.mem_cons_self
          cases hfirst.symm.trans hy'
    | ok y₁ =>
      rcases hrun : run srid language s steps with ⟨y₂, failure⟩
      constructor
      · intro h
        cases h
        obtain ⟨before, step, after, rfl, hbefore, hstep⟩ := ih.1 hrun
        refine ⟨first :: before, step, after, rfl, ?_, hstep⟩
        rw [run, hfirst, hbefore]
      · rintro ⟨before, step, after, hsteps, hbefore, hstep⟩
        cases before with
        | nil =>
          cases hsteps
          cases hfirst.symm.trans hstep
        | cons first' before =>
          cases hsteps
          rw [run, hfirst] at hbefore
          rcases hrest : run srid language s before with ⟨y₃, failure'⟩
          rw [hrest] at hbefore
          cases hbefore
          cases hrun.symm.trans (ih.2 ⟨before, step, after, rfl, hrest, hstep⟩)
          rfl

theorem materialize_eq_ok_iff {source : Source} {y : Yield} :
    materialize source srid language s = .ok y ↔
      run srid language s (steps source s) = (y, none) := by
  unfold materialize
  rcases run srid language s (steps source s) with ⟨y', _ | e⟩ <;> simp

theorem materialize_eq_error_iff {source : Source} {e : ExportError} :
    materialize source srid language s = .error e ↔
      ∃ y, run srid language s (steps source s) = (y, some e) := by
  unfold materialize
  rcases run srid language s (steps source s) with ⟨y', _ | e'⟩ <;> simp

/-- Every statement that was written comes from one of the steps. -/
theorem exists_step_of_mem_statements {steps : List Step} {y : Yield} {st : Sql.Statement}
    (h : run srid language s steps = (y, none)) (hst : st ∈ y.statements) :
    ∃ step ∈ steps, ∃ y', step.yield srid language s = .ok y' ∧ st ∈ y'.statements := by
  obtain ⟨yields, hall, rfl⟩ := run_eq_ok_iff.1 h
  rw [Yield.statements_concat] at hst
  obtain ⟨y', hy', hmem⟩ := List.mem_flatMap.1 hst
  obtain ⟨step, hstep, hyield⟩ := exists_left_of_mem hall hy'
  exact ⟨step, hstep, y', hyield, hmem⟩

/-! ### What is written for a schema -/

/-- The statements that rows of a schema are written by. -/
inductive IsRowStatement (source : Source) (srid : Nat) (language : String) (s : Schema) :
    Sql.Statement → Prop
  | resource {r : Resource} : r ∈ source.resources s.graph →
      IsRowStatement source srid language s (.insert ⟨s.name, s.rootTable⟩
        [(s.rootKey, .uuid r.id), (Schema.legacyIdColumn, .textOrNull r.legacyId)])
  | tile {table : Schema.Table} {t : Tile} : table ∈ s.tables → t ∈ source.tiles table.nodegroup →
      IsRowStatement source srid language s (.insert ⟨s.name, table.name⟩
        [(table.key, .uuid t.id), (table.parent.column, .uuidOrNull (linkOf table t))])
  /-- The link to a parent tile, set again. -/
  | link {table : Schema.Table} {t : Tile} {parent : Uuid} : table ∈ s.tables →
      t ∈ source.tiles table.nodegroup → linkOf table t = some parent →
      IsRowStatement source srid language s
        (.update ⟨s.name, table.name⟩ table.parent.column (.uuid parent) table.key t.id)
  | value {table : Schema.Table} {t : Tile} {column : Schema.Column} {v : Json.Value}
      {e : Sql.Expression} : table ∈ s.tables → t ∈ source.tiles table.nodegroup →
      column ∈ table.columns → t.value? column.node = some v →
      coerce srid language column.datatype column.type v = .ok (some e) →
      IsRowStatement source srid language s
        (.update ⟨s.name, table.name⟩ column.name e table.key t.id)

theorem valueYield_eq_ok {table : Schema.Table} {t : Tile} {column : Schema.Column}
    {v : Json.Value} {y : Yield} (h : valueYield srid language s table t column v = .ok y) :
    (coerce srid language column.datatype column.type v = .ok none ∧
        y = { stats := { skipped := 1 } }) ∨
      ∃ e, coerce srid language column.datatype column.type v = .ok (some e) ∧
        y = { statements := [.update ⟨s.name, table.name⟩ column.name e table.key t.id]
              stats := { updates := 1 } } := by
  unfold valueYield at h
  rcases hc : coerce srid language column.datatype column.type v with misfit | _ | e
  · rw [hc] at h
    cases h
  · rw [hc] at h
    cases h
    exact .inl ⟨rfl, rfl⟩
  · rw [hc] at h
    cases h
    exact .inr ⟨e, rfl, rfl⟩

theorem isRowStatement_of_mem {source : Source} {y : Yield} {st : Sql.Statement}
    (h : materialize source srid language s = .ok y) (hst : st ∈ y.statements) :
    IsRowStatement source srid language s st := by
  obtain ⟨step, hstep, y', hyield, hst⟩ :=
    exists_step_of_mem_statements (materialize_eq_ok_iff.1 h) hst
  rcases List.mem_append.1 hstep with hstep | hstep
  · obtain ⟨r, hr, rfl⟩ := List.mem_map.1 hstep
    cases hyield
    rw [List.mem_singleton.1 hst]
    exact .resource hr
  · obtain ⟨table, htable, hstep⟩ := List.mem_flatMap.1 hstep
    obtain ⟨t, ht, hstep⟩ := List.mem_flatMap.1 hstep
    rcases List.mem_cons.1 hstep with rfl | hstep
    · cases hyield
      rcases List.mem_cons.1 hst with rfl | hst
      · exact .tile htable ht
      · split at hst
        case h_1 _ parent hnested hparent =>
          rw [List.mem_singleton.1 hst]
          exact .link htable ht (by simp [linkOf, hnested, hparent])
        case h_2 => cases hst
    · obtain ⟨column, hcolumn, hvalue⟩ := List.mem_filterMap.1 hstep
      obtain ⟨v, hv, rfl⟩ := Option.map_eq_some_iff.1 hvalue
      rcases valueYield_eq_ok hyield with ⟨-, rfl⟩ | ⟨e, hc, rfl⟩
      · cases hst
      · rw [List.mem_singleton.1 hst]
        exact .value htable ht hcolumn hv hc

end ResourceTables.Rows
