import ResourceTables.Export
import ResourceTables.Proofs.Sql.Script
import ResourceTables.Proofs.Rows.Run

/-!
# ResourceTables.Proofs.Export.Parts

An export that succeeds is put together from one **part** for each selected graph: the schema that
was derived from the graph and the rows that were written for it. A graph that adds no part stops the
export, for one of three reasons (`FailsWith`). `exists_parts` takes an export that succeeds apart.
-/

namespace ResourceTables

open Sql (Phase Script Statement)

/-- What one graph adds to an export. -/
structure Part where
  graph : Graph
  schema : Schema
  rows : Rows.Yield

namespace Part

/-- The statements of a part: the definition of its schema, its rows in the registry, and the rows
of its tables. -/
def script (o : ExportOptions) (p : Part) : Script Statement :=
  p.schema.script ⟨o.maxLength⟩ ++ Registry.rowScript o.registry p.schema ++ p.rows.script

/-- The part is what a source and options give for its graph. -/
structure IsOf (source : Source) (o : ExportOptions) (p : Part) : Prop where
  derived : Schema.derive source ⟨o.maxLength⟩ o.language p.graph = .ok p.schema
  apart : p.schema.name ≠ o.registry.schema
  rows : if o.includeRows then Rows.materialize source o.srid o.language p.schema = .ok p.rows
    else p.rows = {}

/-- The part as a contribution. -/
def contribution (o : ExportOptions) (p : Part) : Contribution where
  schemas := [p.schema]
  script := p.script o
  stats := p.rows.stats
  warnings := p.rows.warnings

/-- Only rows are written for a part besides the definition of its schema. -/
theorem statements_of_ne_data (o : ExportOptions) (p : Part) {phase : Phase} (h : phase ≠ .data) :
    (p.script o).statements phase = (p.schema.script ⟨o.maxLength⟩).statements phase := by
  have hrows : (Registry.rowScript o.registry p.schema).statements phase = [] ∧
      p.rows.script.statements phase = [] := by
    cases phase with
    | data => exact absurd rfl h
    | _ => exact ⟨rfl, rfl⟩
  rw [script, Script.statements_append, Script.statements_append, hrows.1, hrows.2,
    List.append_nil, List.append_nil]

end Part

variable {source : Source} {o : ExportOptions}

/-- Why a graph stops an export. -/
inductive FailsWith (source : Source) (o : ExportOptions) (g : Graph) : ExportError → Prop
  | derivation {e : ExportError} : Schema.derive source ⟨o.maxLength⟩ o.language g = .error e →
      FailsWith source o g e
  | registry {s : Schema} : Schema.derive source ⟨o.maxLength⟩ o.language g = .ok s →
      s.name = o.registry.schema →
      FailsWith source o g (.validation ("graph " ++ g.id.toString ++ " derives schema \"" ++
        s.name ++ "\", which holds the registry table"))
  | rows {s : Schema} {e : ExportError} :
      Schema.derive source ⟨o.maxLength⟩ o.language g = .ok s → s.name ≠ o.registry.schema →
      o.includeRows = true → Rows.materialize source o.srid o.language s = .error e →
      FailsWith source o g e

/-- A graph adds a part to an export or stops it. -/
theorem contribution_cases (source : Source) (o : ExportOptions) (g : Graph) :
    (∃ p : Part, p.graph = g ∧ p.IsOf source o ∧
        contribution source o g = (p.contribution o, none)) ∨
      ∃ c e, contribution source o g = (c, some e) ∧ FailsWith source o g e := by
  unfold contribution
  dsimp only
  cases hd : Schema.derive source ⟨o.maxLength⟩ o.language g with
  | error e => exact .inr ⟨_, e, rfl, .derivation hd⟩
  | ok s =>
    dsimp only
    by_cases hname : s.name = o.registry.schema
    · rw [if_pos hname]
      exact .inr ⟨_, _, rfl, .registry hd hname⟩
    · rw [if_neg hname]
      by_cases hrows : o.includeRows = true
      · rw [if_pos hrows]
        rcases hrun : Rows.run o.srid o.language s (Rows.steps source s) with ⟨y, _ | e⟩
        · refine .inl ⟨⟨g, s, y⟩, rfl, ⟨hd, hname, ?_⟩, rfl⟩
          rw [if_pos hrows]
          exact Rows.materialize_eq_ok_iff.2 hrun
        · exact .inr ⟨_, e, rfl, .rows hd hname hrows (Rows.materialize_eq_error_iff.2 ⟨y, hrun⟩)⟩
      · rw [if_neg hrows]
        exact .inl ⟨⟨g, s, {}⟩, rfl, ⟨hd, hname, by rw [if_neg hrows]⟩, rfl⟩

theorem exists_part {g : Graph} {c : Contribution} (h : contribution source o g = (c, none)) :
    ∃ p : Part, p.graph = g ∧ p.IsOf source o ∧ c = p.contribution o := by
  rcases contribution_cases source o g with ⟨p, hgraph, hp, hc⟩ | ⟨_, _, hc, -⟩
  · cases h.symm.trans hc
    exact ⟨p, hgraph, hp, rfl⟩
  · cases h.symm.trans hc

theorem exists_parts_of_contributions {graphs : List Graph} {c : Contribution}
    (h : contributions source o graphs = (c, none)) :
    ∃ parts : List Part, parts.map Part.graph = graphs ∧ (∀ p ∈ parts, p.IsOf source o) ∧
      c = (parts.map (Part.contribution o)).foldr Contribution.append {} := by
  induction graphs generalizing c with
  | nil =>
    cases h
    exact ⟨[], rfl, by simp, rfl⟩
  | cons g graphs ih =>
    -- A graph that fails would have been the last one.
    rw [contributions] at h
    rcases hc : contribution source o g with ⟨c₁, _ | e⟩
    · rw [hc] at h
      rcases hrest : contributions source o graphs with ⟨c₂, failure⟩
      rw [hrest] at h
      cases h
      obtain ⟨p, hgraph, hp, rfl⟩ := exists_part hc
      obtain ⟨parts, hgraphs, hparts, rfl⟩ := ih hrest
      refine ⟨p :: parts, by rw [List.map_cons, hgraph, hgraphs], ?_, rfl⟩
      exact List.forall_mem_cons.2 ⟨hp, hparts⟩
    · rw [hc] at h
      cases h

theorem schemas_foldr_contribution (parts : List Part) :
    ((parts.map (Part.contribution o)).foldr Contribution.append {}).schemas =
      parts.map Part.schema := by
  induction parts with
  | nil => rfl
  | cons p parts ih =>
    exact congrArg (p.schema :: ·) ih

theorem script_foldr_contribution (parts : List Part) :
    ((parts.map (Part.contribution o)).foldr Contribution.append {}).script =
      Script.concat (parts.map (Part.script o)) := by
  induction parts with
  | nil => rfl
  | cons p parts ih =>
    exact congrArg (p.script o ++ ·) ih

theorem stats_foldr_contribution (parts : List Part) :
    ((parts.map (Part.contribution o)).foldr Contribution.append {}).stats =
      Rows.Stats.sum (parts.map fun p => p.rows.stats) := by
  induction parts with
  | nil => rfl
  | cons p parts ih =>
    exact congrArg (p.rows.stats + ·) ih

/-- An export whose result is known to be good. -/
theorem exists_export_of_toOption {P : Export → Prop}
    (h : ∃ e ∈ (export? source o).1.toOption, P e) :
    ∃ e warnings, export? source o = (.ok e, warnings) ∧ P e := by
  obtain ⟨e, he, hP⟩ := h
  exact ⟨e, _, Prod.ext (mem_toOption_iff.1 he) rfl, hP⟩

/-- An export that succeeds, taken apart. -/
theorem exists_parts {e : Export} {warnings : List Rows.Warning}
    (h : export? source o = (.ok e, warnings)) :
    ∃ parts : List Part, parts.map Part.graph = selectedGraphs source o ∧
      (∀ p ∈ parts, p.IsOf source o) ∧ e.schemas = parts.map Part.schema ∧
      e.script = Registry.tableScript o.registry ++ Script.concat (parts.map (Part.script o)) ∧
      e.stats = Rows.Stats.sum (parts.map fun p => p.rows.stats) := by
  unfold export? at h
  cases hf : o.fault? with
  | some fault => simp [hf] at h
  | none =>
    rw [hf] at h
    rcases hc : contributions source o (selectedGraphs source o) with ⟨c, _ | e'⟩
    · rw [hc] at h
      cases h
      obtain ⟨parts, hgraphs, hparts, rfl⟩ := exists_parts_of_contributions hc
      refine ⟨parts, hgraphs, hparts, schemas_foldr_contribution parts, ?_,
        stats_foldr_contribution parts⟩
      rw [script_foldr_contribution]
    · rw [hc] at h
      cases h

end ResourceTables
