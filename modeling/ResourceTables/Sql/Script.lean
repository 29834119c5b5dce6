import ResourceTables.Json.Decode

/-!
# ResourceTables.Sql.Script

Scripts: statements in four phases. Tables exist before columns are added to them, and rows exist
before constraints are checked against them, whatever the order in which the statements were
written down; inside a phase that order is kept.

A script is the same for any kind of statement; `render` takes statements that are texts.
-/

namespace ResourceTables.Sql

/-- The phase a statement belongs to. -/
inductive Phase
  /-- Schemas and tables. -/
  | tables
  /-- Columns, their indexes and their comments. -/
  | columns
  /-- Rows. -/
  | data
  /-- Foreign keys. -/
  | constraints
  deriving DecidableEq

namespace Phase

/-- The phases in order. -/
def all : List Phase := [tables, columns, data, constraints]

/-- What a phase is called in a script. -/
def label : Phase → String
  | tables => "tables"
  | columns => "columns and indexes"
  | data => "data"
  | constraints => "constraints"

/-- The phases by their names in documents. -/
def names : List (String × Phase) :=
  [("Tables", tables), ("Columns", columns), ("Data", data), ("Constraints", constraints)]

/-- The name of a phase in documents. -/
def name : Phase → String
  | tables => "Tables"
  | columns => "Columns"
  | data => "Data"
  | constraints => "Constraints"

/-- Reads a phase from its name. -/
def ofJson : Json.Decoder Phase := Json.Decoder.name names

/-- The name as a value. -/
def toJson (p : Phase) : Json.Value := .string p.name

end Phase

/-- Statements in four phases. -/
@[ext] structure Script (α : Type) where
  tables : List α := []
  columns : List α := []
  data : List α := []
  constraints : List α := []
  deriving DecidableEq

namespace Script

variable {α β : Type}

/-- The script without statements. -/
def empty : Script α := {}

instance : Inhabited (Script α) := ⟨empty⟩

/-- The statements of a phase, in order. -/
def statements (s : Script α) : Phase → List α
  | .tables => s.tables
  | .columns => s.columns
  | .data => s.data
  | .constraints => s.constraints

/-- Adds a statement at the end of a phase. -/
def push (s : Script α) (phase : Phase) (statement : α) : Script α :=
  match phase with
  | .tables => { s with tables := s.tables ++ [statement] }
  | .columns => { s with columns := s.columns ++ [statement] }
  | .data => { s with data := s.data ++ [statement] }
  | .constraints => { s with constraints := s.constraints ++ [statement] }

/-- The statements of two scripts, phase by phase. -/
def append (s t : Script α) : Script α where
  tables := s.tables ++ t.tables
  columns := s.columns ++ t.columns
  data := s.data ++ t.data
  constraints := s.constraints ++ t.constraints

instance : Append (Script α) := ⟨append⟩

/-- The statements of several scripts, phase by phase. -/
def concat (scripts : List (Script α)) : Script α := scripts.foldr append empty

/-- A change of every statement. -/
def map (f : α → β) (s : Script α) : Script β where
  tables := s.tables.map f
  columns := s.columns.map f
  data := s.data.map f
  constraints := s.constraints.map f

/-- All statements with their phases, phase by phase. -/
def toList (s : Script α) : List (Phase × α) :=
  Phase.all.flatMap fun phase => (s.statements phase).map (phase, ·)

/-- How many statements there are. -/
def size (s : Script α) : Nat :=
  s.tables.length + s.columns.length + s.data.length + s.constraints.length

/-- Whether there is no statement. -/
def isEmpty (s : Script α) : Bool :=
  s.tables.isEmpty && s.columns.isEmpty && s.data.isEmpty && s.constraints.isEmpty

/-! ### Phases of a script -/

@[simp] theorem statements_empty (phase : Phase) : (empty : Script α).statements phase = [] := by
  cases phase <;> rfl

@[simp] theorem statements_push (s : Script α) (phase p : Phase) (statement : α) :
    (s.push phase statement).statements p =
      s.statements p ++ if p = phase then [statement] else [] := by
  cases phase <;> cases p <;> simp [push, statements]

@[simp] theorem statements_append (s t : Script α) (phase : Phase) :
    (s ++ t).statements phase = s.statements phase ++ t.statements phase := by
  cases phase <;> rfl

@[simp] theorem statements_map (f : α → β) (s : Script α) (phase : Phase) :
    (s.map f).statements phase = (s.statements phase).map f := by
  cases phase <;> rfl

/-! ### Text -/

/-- A phase as text: a heading and a line for each statement; nothing if there is none. -/
def section? (s : Script String) (phase : Phase) : Option String :=
  match s.statements phase with
  | [] => none
  | statements =>
    some ("-- " ++ phase.label ++ "\n" ++ String.join (statements.map (· ++ "\n")))

/-- The script as text, with an empty line between two phases. -/
def render (s : Script String) : String :=
  "\n".intercalate (Phase.all.filterMap s.section?)

end Script

end ResourceTables.Sql
