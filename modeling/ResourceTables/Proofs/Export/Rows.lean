import ResourceTables.Proofs.Export.Parts
import ResourceTables.Proofs.Rows.Contents
import ResourceTables.Proofs.Schema.Coverage

/-!
# ResourceTables.Proofs.Export.Rows

The rows of one schema in a whole export. An export writes the rows of all its schemas and of the
registry in one phase. As long as no two schemas share a name, what becomes of the tables of a schema
is up to its own part of the script (`run_export_apply`), so what is known about the rows of a single
schema holds in the whole export.
-/

namespace ResourceTables

open Sql (Phase Script Statement Store TableName)

variable {source : Source} {o : ExportOptions}

/-! ### Targets -/

theorem Rows.schema_of_isRowStatement {srid : Nat} {language : String} {s : Schema}
    {st : Statement} {t : TableName} (h : IsRowStatement source srid language s st)
    (ht : st.target? = some t) : t.schema = s.name := by
  cases h <;> cases ht <;> rfl

theorem Schema.schema_of_mem_data {names : Names} {s : Schema} {st : Statement} {t : TableName}
    (h : st ∈ (s.script names).statements .data) (ht : st.target? = some t) :
    t.schema = s.name := by
  rw [statements_data] at h
  obtain ⟨⟨_, _, l⟩, -, h⟩ := List.mem_flatMap.1 h
  obtain ⟨e, -, rfl⟩ := List.mem_map.1 h
  cases ht
  rfl

theorem Registry.target?_of_mem_rows {registry : TableName} {s : Schema} {st : Statement}
    (h : st ∈ (rowScript registry s).statements .data) : st.target? = some registry := by
  obtain ⟨t, -, h⟩ := List.mem_flatMap.1 h
  obtain ⟨c, -, rfl⟩ := List.mem_map.1 h
  rfl

namespace Part

theorem statements_data (p : Part) :
    (p.script o).statements .data = (p.schema.script ⟨o.maxLength⟩).statements .data ++
      (Registry.rowScript o.registry p.schema).statements .data ++ p.rows.statements :=
  rfl

/-- The rows of a part, with or without those of its tables. -/
theorem IsOf.rows_cases {p : Part} (hp : p.IsOf source o) :
    o.includeRows = true ∧ Rows.materialize source o.srid o.language p.schema = .ok p.rows ∨
      o.includeRows = false ∧ p.rows = {} := by
  have hrows := hp.rows
  cases ho : o.includeRows with
  | true =>
    rw [ho, if_pos rfl] at hrows
    exact .inl ⟨rfl, hrows⟩
  | false =>
    rw [ho, if_neg Bool.false_ne_true] at hrows
    exact .inr ⟨rfl, hrows⟩

/-- A part writes to the registry and to tables of its own schema. -/
theorem target_of_mem_data {p : Part} (hp : p.IsOf source o) {st : Statement} {t : TableName}
    (h : st ∈ (p.script o).statements .data) (ht : st.target? = some t) :
    t = o.registry ∨ t.schema = p.schema.name := by
  rw [statements_data] at h
  rcases List.mem_append.1 h with h | h
  · rcases List.mem_append.1 h with h | h
    · exact .inr (Schema.schema_of_mem_data h ht)
    · exact .inl (Option.some.inj (ht.symm.trans (Registry.target?_of_mem_rows h)))
  · rcases hp.rows_cases with ⟨-, hrows⟩ | ⟨-, hrows⟩
    · exact .inr (Rows.schema_of_isRowStatement (Rows.isRowStatement_of_mem hrows h) ht)
    · rw [hrows] at h
      cases h

/-- The statements of a part stand in the phase of their kind. -/
theorem phase_kind_of_mem {p : Part} (hp : p.IsOf source o) {phase : Phase} {st : Statement}
    (h : st ∈ (p.script o).statements phase) : st.kind.phase = phase := by
  rw [script, Script.statements_append, Script.statements_append] at h
  rcases List.mem_append.1 h with h | h
  · rcases List.mem_append.1 h with h | h
    · exact Schema.phase_kind_of_mem h
    · cases phase with
      | data =>
        obtain ⟨t, -, h⟩ := List.mem_flatMap.1 h
        obtain ⟨c, -, rfl⟩ := List.mem_map.1 h
        rfl
      | _ => cases h
  · cases phase with
    | data =>
      rcases hp.rows_cases with ⟨-, hrows⟩ | ⟨-, hrows⟩
      · cases Rows.isRowStatement_of_mem hrows h <;> rfl
      · rw [hrows] at h
        cases h
    | _ => cases h

end Part

/-! ### The whole export -/

theorem statements_data_parts (parts : List Part) :
    (Registry.tableScript o.registry ++ Script.concat (parts.map (Part.script o))).statements
      .data = parts.flatMap fun p => (p.script o).statements .data := by
  rw [Script.statements_append, Script.statements_concat, List.flatMap_map]
  rfl

/-- The rows of a table of a schema, after a whole export, are those of its own part. -/
theorem run_export_apply {parts : List Part} {p : Part} (hparts : ∀ q ∈ parts, q.IsOf source o)
    (hnames : (parts.map fun q => q.schema.name).Nodup) (hp : p ∈ parts) (table : String) :
    Store.empty.run (parts.flatMap fun q => (q.script o).statements .data)
        ⟨p.schema.name, table⟩ =
      Store.empty.run
        ((p.schema.script ⟨o.maxLength⟩).statements .data ++ p.rows.statements)
        ⟨p.schema.name, table⟩ := by
  have hregistry : o.registry ≠ ⟨p.schema.name, table⟩ := fun heq =>
    (hparts p hp).apart (congrArg TableName.schema heq).symm
  have hother : ∀ q ∈ parts, q.schema.name ≠ p.schema.name →
      ∀ st ∈ (q.script o).statements .data, st.target? ≠ some ⟨p.schema.name, table⟩ := by
    intro q hq hne st hst ht
    rcases Part.target_of_mem_data (hparts q hq) hst ht with heq | heq
    · exact hregistry heq.symm
    · exact hne heq.symm
  have hrows (rows : List Sql.Row) : Sql.rowsAfter ⟨p.schema.name, table⟩ rows
      ((Registry.rowScript o.registry p.schema).statements .data) = rows := by
    refine Sql.rowsAfter_of_forall_ne ?_
    intro st hst ht
    rw [Registry.target?_of_mem_rows hst] at ht
    exact hregistry (Option.some.inj ht)
  rw [Store.run_apply, Store.run_apply,
    Sql.rowsAfter_flatMap_of_owner (fun q : Part => q.schema.name) hnames hp hother,
    Part.statements_data, Sql.rowsAfter_append, Sql.rowsAfter_append, hrows, Sql.rowsAfter_append]

end ResourceTables
