import Mathlib.Logic.Function.Basic
import Mathlib.Data.List.Basic
import ResourceTables.Sql.Statement

/-!
# ResourceTables.Proofs.Sql.Store

What statements do to the rows of a database: `INSERT` adds a row at the end of a table, and `UPDATE`
sets one column of all rows that have a given key.

Design points:

* A row has an expression for every column, `NULL` where nothing was stored. Expressions are
  compared as they are written; what the database makes of them is left out.
* What becomes of a table depends on the statements that name it (`Store.run_apply`), so one table
  can be followed through a script on its own, past everything that is written for others
  (`rowsAfter_flatMap_of_mem`).
-/

namespace ResourceTables.Sql

/-- What is stored in each column of a row. -/
abbrev Row := String → Expression

/-- The row of some fields, with `NULL` in all other columns. -/
def Row.ofFields (fields : List (String × Expression)) : Row := fun column =>
  (fields.lookup column).getD .null

/-- A row after some columns were set, one after the other. -/
def Row.setAll (r : Row) (changes : List (String × Expression)) : Row :=
  changes.foldl (fun r change => Function.update r change.1 change.2) r

/-- The rows of each table. -/
abbrev Store := TableName → List Row

namespace Store

/-- The store in which all tables are empty. -/
def empty : Store := fun _ => []

/-- The store after a statement. -/
def step (σ : Store) : Statement → Store
  | .insert t fields => Function.update σ t (σ t ++ [Row.ofFields fields])
  | .update t column value keyColumn key =>
    Function.update σ t ((σ t).map fun r =>
      if r keyColumn = .uuid key then Function.update r column value else r)
  | _ => σ

/-- The store after some statements. -/
def run (σ : Store) (statements : List Statement) : Store := statements.foldl step σ

end Store

/-! ### One table -/

/-- The table whose rows a statement changes. -/
def Statement.target? : Statement → Option TableName
  | .insert t _ | .update t .. => some t
  | _ => none

/-- The rows of a table after a statement. -/
def rowsStep (t : TableName) (rows : List Row) : Statement → List Row
  | .insert t' fields => if t' = t then rows ++ [Row.ofFields fields] else rows
  | .update t' column value keyColumn key =>
    if t' = t then rows.map fun r =>
      if r keyColumn = .uuid key then Function.update r column value else r
    else rows
  | _ => rows

/-- The rows of a table after some statements. -/
def rowsAfter (t : TableName) (rows : List Row) (statements : List Statement) : List Row :=
  statements.foldl (rowsStep t) rows

variable {t : TableName} {rows : List Row}

@[simp] theorem rowsAfter_nil : rowsAfter t rows [] = rows := rfl

theorem rowsAfter_cons (st : Statement) (l : List Statement) :
    rowsAfter t rows (st :: l) = rowsAfter t (rowsStep t rows st) l := rfl

theorem rowsAfter_append (l l' : List Statement) :
    rowsAfter t rows (l ++ l') = rowsAfter t (rowsAfter t rows l) l' := by
  unfold rowsAfter
  rw [List.foldl_append]

theorem Store.step_apply (σ : Store) (st : Statement) (t : TableName) :
    σ.step st t = rowsStep t (σ t) st := by
  cases st with
  | insert t' fields =>
    by_cases h : t' = t
    · subst h
      simp [step, rowsStep]
    · simp [step, rowsStep, h, Function.update_of_ne (Ne.symm h)]
  | update t' column value keyColumn key =>
    by_cases h : t' = t
    · subst h
      simp [step, rowsStep]
    · simp [step, rowsStep, h, Function.update_of_ne (Ne.symm h)]
  | _ => rfl

/-- The rows of a table after a script are those of the table alone. -/
theorem Store.run_apply (σ : Store) (l : List Statement) (t : TableName) :
    σ.run l t = rowsAfter t (σ t) l := by
  induction l generalizing σ with
  | nil => rfl
  | cons st l ih =>
    rw [rowsAfter_cons, ← step_apply]
    exact ih (σ.step st)

/-! ### Statements for other tables -/

theorem rowsStep_of_ne {st : Statement} (h : st.target? ≠ some t) : rowsStep t rows st = rows := by
  cases st with
  | insert t' _ | update t' _ _ _ _ =>
    have hne : t' ≠ t := fun heq => h (congrArg some heq)
    simp [rowsStep, hne]
  | _ => rfl

theorem rowsAfter_of_forall_ne {l : List Statement} (h : ∀ st ∈ l, st.target? ≠ some t) :
    rowsAfter t rows l = rows := by
  induction l with
  | nil => rfl
  | cons st l ih =>
    rw [rowsAfter_cons, rowsStep_of_ne (h st List.mem_cons_self)]
    exact ih fun st' hst' => h st' (List.mem_cons_of_mem _ hst')

/-- Pieces that each write to one table, and none to this one. -/
theorem rowsAfter_flatMap_of_ne {α : Type} {l : List α} {f : α → List Statement}
    (name : α → TableName) (htarget : ∀ a ∈ l, ∀ st ∈ f a, st.target? = some (name a))
    (hne : ∀ a ∈ l, name a ≠ t) : rowsAfter t rows (l.flatMap f) = rows := by
  refine rowsAfter_of_forall_ne ?_
  intro st hst
  obtain ⟨a, ha, hst⟩ := List.mem_flatMap.1 hst
  rw [htarget a ha st hst]
  exact fun heq => hne a ha (Option.some.inj heq)

/-- Of pieces with owners of their own, only one matters if those of other owners write to other
tables. -/
theorem rowsAfter_flatMap_of_owner {α γ : Type} {l : List α} {f : α → List Statement}
    (owner : α → γ) {a : α} (howner : (l.map owner).Nodup) (ha : a ∈ l)
    (hother : ∀ b ∈ l, owner b ≠ owner a → ∀ st ∈ f b, st.target? ≠ some t) :
    rowsAfter t rows (l.flatMap f) = rowsAfter t rows (f a) := by
  obtain ⟨before, after, rfl⟩ := List.append_of_mem ha
  rw [List.map_append, List.map_cons, List.nodup_append, List.nodup_cons] at howner
  obtain ⟨-, ⟨hnotMem, -⟩, hapart⟩ := howner
  have hbefore : ∀ st ∈ before.flatMap f, st.target? ≠ some t := by
    intro st hst
    obtain ⟨b, hb, hst⟩ := List.mem_flatMap.1 hst
    refine hother b (List.mem_append_left _ hb) ?_ st hst
    exact hapart _ (List.mem_map_of_mem hb) _ List.mem_cons_self
  have hafter : ∀ st ∈ after.flatMap f, st.target? ≠ some t := by
    intro st hst
    obtain ⟨b, hb, hst⟩ := List.mem_flatMap.1 hst
    refine hother b (List.mem_append_right _ (List.mem_cons_of_mem _ hb)) ?_ st hst
    exact fun heq => hnotMem (heq ▸ List.mem_map_of_mem hb)
  rw [List.flatMap_append, List.flatMap_cons, rowsAfter_append, rowsAfter_append,
    rowsAfter_of_forall_ne hbefore, rowsAfter_of_forall_ne hafter]

/-- Of pieces that each write to a table of their own, only those for the table matter. -/
theorem rowsAfter_flatMap_of_mem {α : Type} {l : List α} {f : α → List Statement}
    (name : α → TableName) {a : α} (htarget : ∀ b ∈ l, ∀ st ∈ f b, st.target? = some (name b))
    (hnames : (l.map name).Nodup) (ha : a ∈ l) :
    rowsAfter (name a) rows (l.flatMap f) = rowsAfter (name a) rows (f a) := by
  refine rowsAfter_flatMap_of_owner name hnames ha ?_
  intro b hb hne st hst heq
  exact hne (Option.some.inj ((htarget b hb st hst).symm.trans heq))

/-! ### Statements for one table -/

theorem rowsAfter_inserts {α : Type} (l : List α) (fields : α → List (String × Expression)) :
    rowsAfter t rows (l.map fun a => .insert t (fields a)) =
      rows ++ l.map fun a => Row.ofFields (fields a) := by
  induction l generalizing rows with
  | nil => simp
  | cons a l ih =>
    rw [List.map_cons, rowsAfter_cons, ih]
    simp [rowsStep]

/-- Updates by a key that one row has change that row alone. -/
theorem rowsAfter_updates {keyColumn : String} {key : Uuid} {others : List Row} {r : Row}
    {changes : List (String × Expression)} (hkey : ∀ change ∈ changes, change.1 ≠ keyColumn)
    (hr : r keyColumn = .uuid key) (hothers : ∀ r' ∈ others, r' keyColumn ≠ .uuid key) :
    rowsAfter t (others ++ [r])
      (changes.map fun change => .update t change.1 change.2 keyColumn key) =
        others ++ [r.setAll changes] := by
  induction changes generalizing r with
  | nil => rfl
  | cons change changes ih =>
    have hstep : rowsStep t (others ++ [r]) (.update t change.1 change.2 keyColumn key) =
        others ++ [Function.update r change.1 change.2] := by
      have hmap : others.map (fun r' => if r' keyColumn = .uuid key then
          Function.update r' change.1 change.2 else r') = others :=
        (List.map_congr_left fun r' hr' => if_neg (hothers r' hr')).trans (List.map_id' others)
      simp [rowsStep, hr, hmap]
    rw [List.map_cons, rowsAfter_cons, hstep, ih]
    · rfl
    -- No change sets the key, so the next one finds the row again.
    · exact fun c hc => hkey c (List.mem_cons_of_mem _ hc)
    · rw [Function.update_of_ne (hkey change List.mem_cons_self).symm, hr]

/-! ### Keys and references -/

/-- A row with a key is inserted into a table. -/
def InsertsKey (statements : List Statement) (t : TableName) (keyColumn : String) (key : Uuid) :
    Prop :=
  ∃ fields, .insert t fields ∈ statements ∧ fields.lookup keyColumn = some (.uuid key)

instance (statements : List Statement) (t : TableName) (keyColumn : String) (key : Uuid) :
    Decidable (InsertsKey statements t keyColumn key) :=
  decidable_of_iff ((statements.any fun
      | .insert t' fields => t' = t && fields.lookup keyColumn = some (.uuid key)
      | _ => false) = true) <| by
    rw [List.any_eq_true]
    constructor
    · rintro ⟨st, hst, h⟩
      cases st with
      | insert t' fields =>
        obtain ⟨rfl, hkey⟩ : t' = t ∧ fields.lookup keyColumn = some (.uuid key) := by
          simpa using h
        exact ⟨fields, hst, hkey⟩
      | _ => cases h
    · rintro ⟨fields, hst, hkey⟩
      exact ⟨_, hst, by simpa using hkey⟩

/-- What is stored in a column is `NULL` or stored in a column of another table as well. -/
def Store.Refers (σ : Store) (t : TableName) (column : String) (target : TableName)
    (targetColumn : String) : Prop :=
  ∀ r ∈ σ t, r column = .null ∨ ∃ r' ∈ σ target, r' targetColumn = r column

instance (σ : Store) (t : TableName) (column : String) (target : TableName)
    (targetColumn : String) : Decidable (σ.Refers t column target targetColumn) :=
  inferInstanceAs (Decidable
    (∀ r ∈ σ t, r column = .null ∨ ∃ r' ∈ σ target, r' targetColumn = r column))

end ResourceTables.Sql
