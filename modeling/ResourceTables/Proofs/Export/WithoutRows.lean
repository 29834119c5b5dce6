import Mathlib.Data.List.Flatten
import ResourceTables.Proofs.Export.Composition
import ResourceTables.Proofs.Export.Insertions
import ResourceTables.Proofs.Rows.Misfits

/-!
# ResourceTables.Proofs.Export.WithoutRows

An export without rows beside the export with rows. Where the one with rows succeeds, so does the one
without, and it is the same but for the rows of resources and tiles (`IsWithoutRows`). Where the one
without rows fails, the one with rows fails as well, in the same way unless a value that comes earlier
is refused.

Both are put together from parts, and the parts of the one are those of the other without their rows
(`parts_unique`), so all is said of one part first (`Part.statements_data_withoutRows`).
-/

namespace ResourceTables

open Sql (Phase Script Statement TableName)

variable {source : Source} {o : ExportOptions} {g : Graph}

/-- The same options, but for the rows. -/
def ExportOptions.withoutRows (o : ExportOptions) : ExportOptions := { o with includeRows := false }

/-- The same part, but for the rows. -/
def Part.withoutRows (p : Part) : Part := { p with rows := {} }

/-- The rows of the lookup tables of a schema and its rows in the registry. -/
def Schema.definitionRows (registry : TableName) (s : Schema) : List Statement :=
  (s.entryInsertions ++ s.columnInsertions).map (Insertion.statement registry)

/-! ### Parts -/

theorem Part.IsOf.withoutRows {p : Part} (hp : p.IsOf source o) :
    p.withoutRows.IsOf source o.withoutRows where
  derived := hp.derived
  apart := hp.apart
  rows := rfl

/-- The rows of a part come after those of its definition. -/
theorem Part.statements_data_eq (p : Part) : (p.script o).statements .data =
    p.schema.definitionRows o.registry ++ p.rows.statements := by
  rw [statements_data, Schema.data_eq_insertions o.registry, Registry.data_eq_insertions,
    Schema.definitionRows, List.map_append]

theorem Part.statements_data_withoutRows (p : Part) :
    (p.withoutRows.script o.withoutRows).statements .data = p.schema.definitionRows o.registry := by
  rw [statements_data_eq]
  exact List.append_nil _

theorem Part.IsOf.statements_data {p : Part} (hp : p.IsOf source o) (hrows : o.includeRows = true) :
    (p.script o).statements .data = p.schema.definitionRows o.registry ++
      (Rows.run o.srid o.language p.schema (Rows.steps source p.schema)).1.statements := by
  have hrun := hp.rows
  rw [if_pos hrows, Rows.materialize_eq_ok_iff] at hrun
  rw [statements_data_eq, hrun]

theorem Part.statements_withoutRows (p : Part) {phase : Phase} (h : phase ≠ .data) :
    (p.withoutRows.script o.withoutRows).statements phase = (p.script o).statements phase := by
  rw [statements_of_ne_data _ _ h, statements_of_ne_data _ _ h]
  rfl

theorem parts_unique {parts parts' : List Part} (h : ∀ p ∈ parts, p.IsOf source o)
    (h' : ∀ p ∈ parts', p.IsOf source o) (hgraphs : parts.map Part.graph = parts'.map Part.graph) :
    parts = parts' := by
  induction parts generalizing parts' with
  | nil => exact (List.map_eq_nil_iff.1 hgraphs.symm).symm
  | cons p parts ih =>
    obtain ⟨p', parts', rfl, hgraph, hgraphs⟩ := List.map_eq_cons_iff.1 hgraphs.symm
    obtain ⟨hp, h⟩ := List.forall_mem_cons.1 h
    obtain ⟨hp', h'⟩ := List.forall_mem_cons.1 h'
    rw [hp.unique hp' hgraph.symm, ih h h' hgraphs.symm]

/-! ### Success -/

theorem Exportable.withoutRows (h : Exportable source o g) :
    Exportable source o.withoutRows g := by
  obtain ⟨s, hs, hname, -⟩ := h
  exact ⟨s, hs, hname, fun hrows => absurd hrows Bool.false_ne_true⟩

theorem export?_of_fault? {fault : ExportError} (h : o.fault? = some fault) :
    (export? source o).1 = .error fault := by
  rw [export?, h]

theorem fault?_eq_none_of_export {e : Export} (h : (export? source o).1 = .ok e) :
    o.fault? = none := by
  cases hfault : o.fault? with
  | none => rfl
  | some fault => cases h.symm.trans (export?_of_fault? hfault)

/-- The parts of an export with rows make up the export without rows, once theirs are left out. -/
theorem exists_parts_withoutRows {e : Export} (h : (export? source o).1 = .ok e) :
    ∃ parts : List Part, (∀ p ∈ parts, p.IsOf source o) ∧ e.schemas = parts.map Part.schema ∧
      e.script = Registry.tableScript o.registry ++ Script.concat (parts.map (Part.script o)) ∧
      ∃ e', (export? source o.withoutRows).1 = .ok e' ∧ e'.schemas = parts.map Part.schema ∧
        e'.script = Registry.tableScript o.registry ++
          Script.concat (parts.map fun p => p.withoutRows.script o.withoutRows) ∧
        e'.stats = {} := by
  have hvalid : o.fault? = none := fault?_eq_none_of_export h
  have hexportable : ∀ g ∈ selectedGraphs source o, Exportable source o.withoutRows g :=
    fun g hg => ((export?_eq_ok_iff hvalid).1 ⟨e, h⟩ g hg).withoutRows
  obtain ⟨e', he'⟩ : ∃ e', (export? source o.withoutRows).1 = .ok e' :=
    (export?_eq_ok_iff (o := o.withoutRows) hvalid).2 hexportable
  obtain ⟨parts, hgraphs, hparts, hschemas, hscript, -⟩ := exists_parts (Prod.ext h rfl)
  obtain ⟨parts', hgraphs', hparts', hschemas', hscript', hstats'⟩ := exists_parts (Prod.ext he' rfl)
  have hwithout : ∀ p ∈ parts.map Part.withoutRows, p.IsOf source o.withoutRows :=
    List.forall_mem_map.2 fun p hp => (hparts p hp).withoutRows
  obtain rfl : parts' = parts.map Part.withoutRows := by
    refine parts_unique hparts' hwithout (hgraphs'.trans ?_)
    rw [List.map_map]
    exact hgraphs.symm
  rw [List.map_map] at hschemas' hscript'
  refine ⟨parts, hparts, hschemas, hscript, e', he', hschemas', hscript', ?_⟩
  rw [hstats', Rows.Stats.sum_map]
  simp [Function.comp_def, Part.withoutRows]

/-- An export without rows against the same export with rows. -/
structure IsWithoutRows (source : Source) (o : ExportOptions) (e e' : Export) : Prop where
  schemas : e'.schemas = e.schemas
  stats : e'.stats = {}
  /-- Tables, columns and constraints are defined in the same way. -/
  statements : ∀ phase, phase ≠ .data → e'.script.statements phase = e.script.statements phase
  /-- The rows that are left are in the same order. -/
  sublist : e'.script.data.Sublist e.script.data
  /-- They are those of the lookup tables and of the registry. -/
  data : e'.script.data = e.schemas.flatMap (Schema.definitionRows o.registry)
  /-- Those that are left out are the rows of resources and tiles. -/
  full : e.script.data = e.schemas.flatMap fun s => s.definitionRows o.registry ++
    (Rows.run o.srid o.language s (Rows.steps source s)).1.statements

theorem exists_isWithoutRows (hrows : o.includeRows = true) {e : Export}
    (h : (export? source o).1 = .ok e) :
    ∃ e', (export? source o.withoutRows).1 = .ok e' ∧ IsWithoutRows source o e e' := by
  obtain ⟨parts, hparts, hschemas, hscript, e', he', hschemas', hscript', hstats'⟩ :=
    exists_parts_withoutRows h
  have hdata : e'.script.data = e.schemas.flatMap (Schema.definitionRows o.registry) := by
    rw [hschemas, List.flatMap_map, hscript']
    refine (Script.statements_append _ _ .data).trans ?_
    rw [Script.statements_concat, List.flatMap_map]
    exact List.flatMap_congr fun p _ => p.statements_data_withoutRows
  have hfull : e.script.data = e.schemas.flatMap fun s => s.definitionRows o.registry ++
      (Rows.run o.srid o.language s (Rows.steps source s)).1.statements := by
    rw [hschemas, List.flatMap_map, hscript]
    exact (statements_data_parts _).trans
      (List.flatMap_congr fun p hp => (hparts p hp).statements_data hrows)
  refine ⟨e', he', hschemas'.trans hschemas.symm, hstats', ?statements, ?sublist, hdata, hfull⟩
  case statements =>
    intro phase hphase
    rw [hscript, hscript', Script.statements_append, Script.statements_append,
      Script.statements_concat, Script.statements_concat, List.flatMap_map, List.flatMap_map]
    simp only [Part.statements_withoutRows _ hphase]
  case sublist =>
    rw [hdata, hfull]
    exact List.Sublist.flatMap_right _ fun s _ => List.sublist_append_left _ _

/-! ### Failure -/

/-- What stops an export with rows stops it without them as well, unless it is a refused value. -/
theorem FailsWith.withoutRows {err : ExportError} (h : FailsWith source o g err) :
    FailsWith source o.withoutRows g err ∨ ∃ tile node reason, err = .invalidValue tile node reason := by
  cases h with
  | derivation hfail => exact .inl (.derivation hfail)
  | registry hs hname => exact .inl (.registry hs hname)
  | rows hs hname hinclude hfail =>
    obtain ⟨y, hrun⟩ := Rows.materialize_eq_error_iff.1 hfail
    obtain ⟨p, rfl, -⟩ := Rows.exists_firstMisfit hrun
    exact .inr ⟨_, _, _, rfl⟩

theorem exists_error_of_withoutRows (hrows : o.includeRows = true) {err : ExportError}
    (h : (export? source o.withoutRows).1 = .error err) :
    ∃ err', (export? source o).1 = .error err' ∧
      (err' = err ∨ ∃ tile node reason, err' = .invalidValue tile node reason) := by
  cases hfull : (export? source o).1 with
  | ok e =>
    obtain ⟨e', he', -⟩ := exists_isWithoutRows hrows hfull
    cases h.symm.trans he'
  | error err' =>
    refine ⟨err', rfl, ?_⟩
    cases hfault : o.fault? with
    | some fault =>
      have hfault' : o.withoutRows.fault? = some fault := hfault
      cases hfull.symm.trans (export?_of_fault? hfault)
      cases h.symm.trans (export?_of_fault? hfault')
      exact .inl rfl
    | none =>
      obtain ⟨before, g, after, hgraphs, hbefore, hfail⟩ := (export?_eq_error_iff hfault).1 hfull
      refine hfail.withoutRows.imp_left fun hfail' => ?_
      have hsame : (export? source o.withoutRows).1 = .error err' :=
        (export?_eq_error_iff (o := o.withoutRows) hfault).2
          ⟨before, g, after, hgraphs, fun g' hg' => (hbefore g' hg').withoutRows, hfail'⟩
      exact Except.error.inj (hsame.symm.trans h)

/-- An export without rows is the export with rows but for the rows of resources and tiles, and it
succeeds whenever that one does. -/
theorem export_withoutRows (source : Source) (o : ExportOptions) (hrows : o.includeRows = true) :
    (∀ e, (export? source o).1 = .ok e →
      ∃ e', (export? source o.withoutRows).1 = .ok e' ∧ IsWithoutRows source o e e') ∧
    ∀ err, (export? source o.withoutRows).1 = .error err →
      ∃ err', (export? source o).1 = .error err' ∧
        (err' = err ∨ ∃ tile node reason, err' = .invalidValue tile node reason) :=
  ⟨fun _ => exists_isWithoutRows hrows, fun _ => exists_error_of_withoutRows hrows⟩

/-- Options under which the schema of a site would hold the registry. -/
def siteOptions : ExportOptions := { registry := ⟨"site", "registry"⟩ }

theorem export_withoutRows_sitePackage :
    (∃ e e', (export? (.ofPackage sitePackage) {}).1 = .ok e ∧
      (export? (.ofPackage sitePackage) (ExportOptions.withoutRows {})).1 = .ok e' ∧
      IsWithoutRows (.ofPackage sitePackage) {} e e' ∧
      e.script.data.length = 11 ∧ e'.script.data.length = 5) ∧
    ∃ err err', (export? (.ofPackage sitePackage) siteOptions.withoutRows).1 = .error err ∧
      (export? (.ofPackage sitePackage) siteOptions).1 = .error err' := by
  have hgood : ∃ e ∈ (export? (.ofPackage sitePackage) {}).1.toOption, e.script.data.length = 11 ∧
      (e.schemas.flatMap (Schema.definitionRows (ExportOptions.registry {}))).length = 5 := by
    rw [Source.ofPackage_eq]
    decide +kernel
  have hbad : (export? (.ofPackage sitePackage) siteOptions.withoutRows).1.toOption = none := by
    rw [Source.ofPackage_eq]
    decide +kernel
  obtain ⟨e, he, hlength, hdefinition⟩ := hgood
  rw [mem_toOption_iff] at he
  refine ⟨?_, ?_⟩
  · obtain ⟨e', he', hwithout⟩ := (export_withoutRows (.ofPackage sitePackage) {} rfl).1 e he
    refine ⟨e, e', he, he', hwithout, hlength, ?_⟩
    rw [hwithout.data, hdefinition]
  · cases hfail : (export? (.ofPackage sitePackage) siteOptions.withoutRows).1 with
    | ok e =>
      rw [hfail] at hbad
      cases hbad
    | error err =>
      obtain ⟨err', herr', -⟩ :=
        (export_withoutRows (.ofPackage sitePackage) siteOptions rfl).2 err hfail
      exact ⟨err, err', rfl, herr'⟩

end ResourceTables
