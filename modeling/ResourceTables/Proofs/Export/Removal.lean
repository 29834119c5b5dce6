import ResourceTables.Proofs.Export.Execution
import ResourceTables.Proofs.Export.Rows

/-!
# ResourceTables.Proofs.Export.Removal

A schema is removed with all that it holds before it is created, so a script may undo what it has done
itself. That no statement removes what an earlier one has created (`Sql.KeepsSchemas`) is up to the
names of the exported schemas alone (`keepsSchemas_export_iff`). The schema of the registry is never
removed, since each graph is checked against it; the graphs are not checked against each other.
-/

namespace ResourceTables

/-! ### Statements about schemas -/

namespace Sql

namespace Statement

/-- The schema that a statement creates or makes sure of. -/
def createdSchema? : Statement → Option String
  | createSchema schema | ensureSchema schema => some schema
  | _ => none

/-- The schema that a statement removes with all that it holds. -/
def removedSchema? : Statement → Option String
  | dropSchema schema => some schema
  | _ => none

/-- Whether a statement creates or removes a schema. -/
def isAboutSchema (st : Statement) : Bool :=
  st.createdSchema?.isSome || st.removedSchema?.isSome

theorem phase_kind_of_isAboutSchema {st : Statement} (h : st.isAboutSchema = true) :
    st.kind.phase = .tables := by
  cases st <;> first | rfl | cases h

end Statement

/-- No statement removes a schema that an earlier one has created. -/
def KeepsSchemas (statements : List Statement) : Prop :=
  statements.Pairwise fun st later =>
    ∀ schema ∈ st.createdSchema?, later.removedSchema? ≠ some schema

instance (statements : List Statement) : Decidable (KeepsSchemas statements) :=
  inferInstanceAs (Decidable (statements.Pairwise _))

/-- Only the statements about schemas count. -/
theorem keepsSchemas_filter_iff {statements : List Statement} :
    KeepsSchemas (statements.filter Statement.isAboutSchema) ↔ KeepsSchemas statements := by
  rw [KeepsSchemas, List.pairwise_filter, KeepsSchemas]
  refine List.Pairwise.iff fun st later => ⟨fun h schema hschema hlater => ?_, fun h _ _ => h⟩
  refine h ?_ ?_ schema hschema hlater
  · rw [Statement.isAboutSchema, hschema]
    rfl
  · rw [Statement.isAboutSchema, hlater, Option.isSome_some, Bool.or_true]

theorem keepsSchemas_cons {st : Statement} {statements : List Statement} :
    KeepsSchemas (st :: statements) ↔
      (∀ later ∈ statements, ∀ schema ∈ st.createdSchema?, later.removedSchema? ≠ some schema) ∧
        KeepsSchemas statements :=
  List.pairwise_cons

theorem forall_removedSchema?_recreate_iff (names : List String) (schema : String) :
    (∀ st ∈ names.flatMap fun name => [Statement.dropSchema name, .createSchema name],
      st.removedSchema? ≠ some schema) ↔ schema ∉ names := by
  constructor
  · intro h hmem
    exact h (.dropSchema schema) (List.mem_flatMap.2 ⟨schema, hmem, List.mem_cons_self⟩) rfl
  · intro h st hst hremoved
    obtain ⟨name, hname, hst⟩ := List.mem_flatMap.1 hst
    simp only [List.mem_cons, List.not_mem_nil, or_false] at hst
    rcases hst with rfl | rfl
    · cases hremoved
      exact h hname
    · cases hremoved

/-- Schemas that are removed and created one after the other are kept if no two have one name. -/
theorem keepsSchemas_recreate_iff {names : List String} :
    KeepsSchemas (names.flatMap fun name => [.dropSchema name, .createSchema name]) ↔
      names.Nodup := by
  induction names with
  | nil => simp [KeepsSchemas]
  | cons name names ih =>
    have hkept := forall_removedSchema?_recreate_iff names name
    rw [List.flatMap_cons, List.cons_append, List.cons_append, List.nil_append,
      keepsSchemas_cons, keepsSchemas_cons, ih, List.nodup_cons, ← hkept]
    simp only [Statement.createdSchema?, Option.mem_def, reduceCtorEq, false_imp_iff,
      implies_true, true_and, Option.some.injEq, forall_eq']

end Sql

open Sql (Catalog KeepsSchemas Phase Script Statement Store)

variable {source : Source} {o : ExportOptions}

/-! ### Statements of an export -/

theorem Schema.filter_creation (s : Schema) :
    s.creation.filter Statement.isAboutSchema = [.createSchema s.name] := by
  rw [creation, List.filter_append, List.filter_append, List.filter_flatMap,
    List.filter_flatMap, List.flatMap_eq_nil_iff.2 ?tables, List.flatMap_eq_nil_iff.2 ?lookups]
  case tables | lookups =>
    intro _ _
    rfl
  rfl

/-- A part removes its schema and creates it anew. -/
theorem Part.filter_isAboutSchema {p : Part} (hp : p.IsOf source o) (phase : Phase) :
    ((p.script o).statements phase).filter Statement.isAboutSchema =
      if phase = .tables then [.dropSchema p.schema.name, .createSchema p.schema.name] else [] := by
  by_cases hphase : phase = .tables
  · rw [if_pos hphase, hphase, p.statements_of_ne_data o (by decide), Schema.statements_tables,
      List.filter_cons_of_pos rfl, p.schema.filter_creation]
  · rw [if_neg hphase, List.filter_eq_nil_iff]
    intro st hst habout
    exact hphase ((p.phase_kind_of_mem hp hst).symm.trans
      (Statement.phase_kind_of_isAboutSchema habout))

/-- What an export does to schemas: it makes sure of that of the registry, and removes and creates
those of the graphs. -/
theorem filter_isAboutSchema_export {e : Export} {parts : List Part}
    (hparts : ∀ p ∈ parts, p.IsOf source o) (hschemas : e.schemas = parts.map Part.schema)
    (hscript : e.script =
      Registry.tableScript o.registry ++ Script.concat (parts.map (Part.script o))) :
    (e.script.toList.map Prod.snd).filter Statement.isAboutSchema =
      .ensureSchema o.registry.schema ::
        (e.schemas.map Schema.name).flatMap fun name => [.dropSchema name, .createSchema name] := by
  have hphase (phase : Phase) : (e.script.statements phase).filter Statement.isAboutSchema =
      if phase = .tables then
        .ensureSchema o.registry.schema ::
          (e.schemas.map Schema.name).flatMap fun name => [.dropSchema name, .createSchema name]
      else [] := by
    rw [hscript, Script.statements_append, Script.statements_concat, List.filter_append,
      List.flatMap_map, List.filter_flatMap,
      List.flatMap_congr fun p hp => p.filter_isAboutSchema (hparts p hp) phase]
    cases phase with
    | tables =>
      rw [hschemas, List.map_map, List.flatMap_map]
      rfl
    | _ => simp [Registry.tableScript, Script.statements]
  rw [Script.map_snd_toList, List.filter_flatMap, Script.flatMap_phases]
  simp only [hphase, reduceCtorEq, if_true, if_false, List.append_nil]

/-! ### The whole export -/

/-- No statement of an export removes the schema of the registry, and none removes a schema that an
earlier one has created as long as the names of the schemas differ. These are the slugs of the names
of the top nodes of the selected graphs. -/
theorem keepsSchemas_export_iff (source : Source) (o : ExportOptions) (e : Export)
    (warnings : List Rows.Warning) (h : export? source o = (.ok e, warnings)) :
    (∀ st ∈ e.script.toList.map Prod.snd, st.removedSchema? ≠ some o.registry.schema) ∧
    o.registry.schema ∉ e.schemas.map Schema.name ∧
    (KeepsSchemas (e.script.toList.map Prod.snd) ↔ (e.schemas.map Schema.name).Nodup) ∧
    List.Forall₂ (fun g s => ∃ top, g.topNode? = some top ∧
        s.name = (⟨o.maxLength⟩ : Names).slug top.name)
      (selectedGraphs source o) e.schemas := by
  obtain ⟨parts, hgraphs, hparts, hschemas, hscript, -⟩ := exists_parts h
  have hfilter := filter_isAboutSchema_export hparts hschemas hscript
  have hapart : o.registry.schema ∉ e.schemas.map Schema.name := by
    rw [hschemas, List.map_map]
    intro hmem
    obtain ⟨p, hp, hname⟩ := List.mem_map.1 hmem
    exact (hparts p hp).apart hname
  refine ⟨?_, hapart, ?_, ?_⟩
  · intro st hst hremoved
    have hmem : st ∈ (e.script.toList.map Prod.snd).filter Statement.isAboutSchema := by
      refine List.mem_filter.2 ⟨hst, ?_⟩
      rw [Statement.isAboutSchema, hremoved, Option.isSome_some, Bool.or_true]
    rw [hfilter] at hmem
    rcases List.mem_cons.1 hmem with rfl | hmem
    · cases hremoved
    · exact (Sql.forall_removedSchema?_recreate_iff _ _).2 hapart st hmem hremoved
  · rw [← Sql.keepsSchemas_filter_iff, hfilter, Sql.keepsSchemas_cons,
      Sql.keepsSchemas_recreate_iff]
    refine and_iff_right ?_
    rintro st hst _ ⟨⟩
    exact (Sql.forall_removedSchema?_recreate_iff _ _).2 hapart st hst
  · rw [← hgraphs, hschemas, List.forall₂_map_left_iff, List.forall₂_map_right_iff,
      List.forall₂_same]
    exact fun p hp => (Schema.isDerived_of_derive (hparts p hp).derived).name_eq

theorem keepsSchemas_export_sitePackage :
    ∃ e warnings, export? (.ofPackage sitePackage) {} = (.ok e, warnings) ∧
      e.schemas.map Schema.name = ["site"] ∧
      KeepsSchemas (e.script.toList.map Prod.snd) := by
  have h : ∃ e ∈ (export? (.ofPackage sitePackage) {}).1.toOption,
      e.schemas.map Schema.name = ["site"] := by
    rw [Source.ofPackage_eq]
    decide +kernel
  obtain ⟨e, warnings, hexport, hnames⟩ := exists_export_of_toOption h
  refine ⟨e, warnings, hexport, hnames, ?_⟩
  exact (keepsSchemas_export_iff _ _ e _ hexport).2.2.1.2 (by rw [hnames]; decide)

/-- Two graphs whose top nodes have names of one slug, with a resource each. -/
def twinPackage : Package where
  graphs := [
    { id := .ofNat 9, name := .single "en" "Site", isResource := true
      nodes := [{ id := .ofNat 1, name := "Site", datatype := .semantic, isTop := true }] },
    { id := .ofNat 19, name := .single "en" "SITE", isResource := true
      nodes := [{ id := .ofNat 11, name := "SITE", datatype := .semantic, isTop := true }] }]
  resources := [{ id := .ofNat 20, graph := .ofNat 9 }, { id := .ofNat 21, graph := .ofNat 19 }]

/-- The second graph removes the schema of the first one. No statement fails on it, and the resources
of both graphs end up in one table. -/
theorem not_keepsSchemas_export :
    ∃ e, (export? (.ofPackage twinPackage) {}).1 = .ok e ∧
      e.schemas.map Schema.name = ["site", "site"] ∧
      ¬ KeepsSchemas (e.script.toList.map Prod.snd) ∧
      (Catalog.run [] (e.script.toList.map Prod.snd)).isSome = true ∧
      (Store.empty.run (e.script.statements .data) ⟨"site", "site"⟩).map (· "site_id") =
        [.uuid (.ofNat 20), .uuid (.ofNat 21)] := by
  have h : ∃ e ∈ (export? (.ofPackage twinPackage) {}).1.toOption,
      e.schemas.map Schema.name = ["site", "site"] ∧
      ¬ KeepsSchemas (e.script.toList.map Prod.snd) ∧
      (Catalog.run [] (e.script.toList.map Prod.snd)).isSome = true ∧
      (Store.empty.run (e.script.statements .data) ⟨"site", "site"⟩).map (· "site_id") =
        [.uuid (.ofNat 20), .uuid (.ofNat 21)] := by
    rw [Source.ofPackage_eq]
    decide +kernel
  obtain ⟨e, he, hrest⟩ := h
  exact ⟨e, mem_toOption_iff.1 he, hrest⟩

end ResourceTables
