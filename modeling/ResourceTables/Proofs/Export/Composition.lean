import ResourceTables.Proofs.Package
import ResourceTables.Proofs.Export.Parts
import ResourceTables.Proofs.Schema.Derivation

/-!
# ResourceTables.Proofs.Export.Composition

The export of many graphs is put together from the exports of each. It succeeds if every selected
graph can be exported (`Exportable`), and its phases are then those of the graphs one after the other;
or it fails as the first graph does that cannot be exported (`FailsWith`), whatever comes after it.

One graph is told first (`contribution_cases`), then the loop by induction
(`contributions_snd_eq_none_iff`, `contributions_snd_eq_some_iff`).
-/

namespace ResourceTables

open Sql (Phase Script Statement)

variable {source : Source} {o : ExportOptions} {g : Graph}

/-! ### One graph -/

/-- A graph can be exported: its schema is derived and is not the one that holds the registry, and the
rows of the schema can be written if they are included. -/
def Exportable (source : Source) (o : ExportOptions) (g : Graph) : Prop :=
  ∃ s, Schema.derive source ⟨o.maxLength⟩ o.language g = .ok s ∧ s.name ≠ o.registry.schema ∧
    (o.includeRows = true → ∃ y, Rows.materialize source o.srid o.language s = .ok y)

theorem Part.IsOf.exportable {p : Part} (hp : p.IsOf source o) : Exportable source o p.graph := by
  refine ⟨p.schema, hp.derived, hp.apart, fun hrows => ⟨p.rows, ?_⟩⟩
  have h := hp.rows
  rwa [if_pos hrows] at h

theorem FailsWith.not_exportable {e : ExportError} (h : FailsWith source o g e) :
    ¬ Exportable source o g := by
  rintro ⟨s, hderive, hname, hrows⟩
  cases h with
  | derivation hfail => cases hderive.symm.trans hfail
  | registry hs heq =>
    cases hderive.symm.trans hs
    exact hname heq
  | rows hs _ hinclude hfail =>
    cases hderive.symm.trans hs
    obtain ⟨y, hy⟩ := hrows hinclude
    cases hy.symm.trans hfail

theorem contribution_snd_eq_none_iff :
    (contribution source o g).2 = none ↔ Exportable source o g := by
  rcases contribution_cases source o g with ⟨p, rfl, hp, hc⟩ | ⟨c, e, hc, he⟩
  · rw [hc]
    exact iff_of_true rfl hp.exportable
  · rw [hc]
    exact iff_of_false (by simp) he.not_exportable

theorem FailsWith.unique {e e' : ExportError} (h : FailsWith source o g e)
    (h' : FailsWith source o g e') : e = e' := by
  cases h with
  | derivation hfail =>
    cases h' with
    | derivation hfail' => exact Except.error.inj (hfail.symm.trans hfail')
    | registry hs | rows hs => cases hfail.symm.trans hs
  | registry hs hname =>
    cases h' with
    | derivation hfail => cases hs.symm.trans hfail
    | registry hs' =>
      cases hs.symm.trans hs'
      rfl
    | rows hs' hne =>
      cases hs.symm.trans hs'
      exact absurd hname hne
  | rows hs hne _ hfail =>
    cases h' with
    | derivation hfail => cases hs.symm.trans hfail
    | registry hs' hname =>
      cases hs.symm.trans hs'
      exact absurd hname hne
    | rows hs' _ _ hfail' =>
      cases hs.symm.trans hs'
      exact Except.error.inj (hfail.symm.trans hfail')

theorem contribution_snd_eq_some_iff {e : ExportError} :
    (contribution source o g).2 = some e ↔ FailsWith source o g e := by
  rcases contribution_cases source o g with ⟨p, rfl, hp, hc⟩ | ⟨c, e', hc, he⟩
  · rw [hc]
    exact iff_of_false (by simp) fun he => he.not_exportable hp.exportable
  · rw [hc]
    constructor
    · rintro ⟨⟩
      exact he
    · intro h
      rw [he.unique h]

/-! ### The loop over the graphs -/

theorem contributions_snd_eq_none_iff {graphs : List Graph} :
    (contributions source o graphs).2 = none ↔ ∀ g ∈ graphs, Exportable source o g := by
  induction graphs with
  | nil => simp [contributions]
  | cons g graphs ih =>
    rw [List.forall_mem_cons, ← ih, ← contribution_snd_eq_none_iff, contributions]
    rcases contribution source o g with ⟨c, _ | e⟩ <;> simp

/-- The loop fails as the first graph does that cannot be exported. -/
theorem contributions_snd_eq_some_iff {graphs : List Graph} {e : ExportError} :
    (contributions source o graphs).2 = some e ↔
      ∃ before g after, graphs = before ++ g :: after ∧
        (∀ g' ∈ before, Exportable source o g') ∧ FailsWith source o g e := by
  induction graphs with
  | nil => simp [contributions]
  | cons g graphs ih =>
    rw [contributions]
    rcases hc : contribution source o g with ⟨c, _ | e'⟩
    · have hg : Exportable source o g := contribution_snd_eq_none_iff.1 (by rw [hc])
      refine ih.trans ⟨?_, ?_⟩
      · rintro ⟨before, g', after, rfl, hbefore, hfail⟩
        exact ⟨g :: before, g', after, rfl, List.forall_mem_cons.2 ⟨hg, hbefore⟩, hfail⟩
      · rintro ⟨before, g', after, hgraphs, hbefore, hfail⟩
        rcases List.cons_eq_append_iff.1 hgraphs with ⟨-, heq⟩ | ⟨rest, rfl, heq⟩
        · cases heq
          exact absurd hg hfail.not_exportable
        · exact ⟨rest, g', after, heq, (List.forall_mem_cons.1 hbefore).2, hfail⟩
    · have hfail : FailsWith source o g e' := contribution_snd_eq_some_iff.1 (by rw [hc])
      constructor
      · rintro ⟨⟩
        exact ⟨[], g, graphs, rfl, by simp, hfail⟩
      · rintro ⟨before, g', after, hgraphs, hbefore, hfail'⟩
        rcases List.cons_eq_append_iff.1 hgraphs with ⟨-, heq⟩ | ⟨rest, rfl, heq⟩
        · cases heq
          rw [hfail.unique hfail']
        · exact absurd (List.forall_mem_cons.1 hbefore).1 hfail.not_exportable

/-! ### The export -/

theorem export?_eq_ok_iff (hvalid : o.fault? = none) :
    (∃ e, (export? source o).1 = .ok e) ↔
      ∀ g ∈ selectedGraphs source o, Exportable source o g := by
  rw [← contributions_snd_eq_none_iff, export?, hvalid]
  rcases contributions source o (selectedGraphs source o) with ⟨c, _ | e⟩ <;> simp

theorem export?_eq_error_iff (hvalid : o.fault? = none) {e : ExportError} :
    (export? source o).1 = .error e ↔
      ∃ before g after, selectedGraphs source o = before ++ g :: after ∧
        (∀ g' ∈ before, Exportable source o g') ∧ FailsWith source o g e := by
  rw [← contributions_snd_eq_some_iff, export?, hvalid]
  rcases contributions source o (selectedGraphs source o) with ⟨c, _ | e⟩ <;> simp

/-! ### Graphs by themselves -/

/-- A source with one graph and all its records. -/
def Source.only (source : Source) (g : Graph) : Source := { source with graphs := [g] }

/-- A derivation does not look at other graphs. -/
theorem derive_only {names : Names} {language : String} {g' : Graph} :
    Schema.derive (source.only g) names language g' = Schema.derive source names language g' :=
  Schema.derive_congr rfl

theorem Part.isOf_only {p : Part} : p.IsOf (source.only g) o ↔ p.IsOf source o := by
  constructor
  · rintro ⟨hderived, hapart, hrows⟩
    exact ⟨derive_only.symm.trans hderived, hapart, hrows⟩
  · rintro ⟨hderived, hapart, hrows⟩
    exact ⟨derive_only.trans hderived, hapart, hrows⟩

theorem Part.IsOf.unique {p p' : Part} (h : p.IsOf source o) (h' : p'.IsOf source o)
    (hgraph : p.graph = p'.graph) : p = p' := by
  obtain ⟨g, s, y⟩ := p
  obtain ⟨g', s', y'⟩ := p'
  obtain ⟨hderived, -, hrows⟩ := h
  obtain ⟨hderived', -, hrows'⟩ := h'
  dsimp only at hgraph hderived hrows hderived' hrows'
  subst hgraph
  cases hderived.symm.trans hderived'
  by_cases hinclude : o.includeRows = true
  · rw [if_pos hinclude] at hrows hrows'
    cases hrows.symm.trans hrows'
    rfl
  · rw [if_neg hinclude] at hrows hrows'
    rw [hrows, hrows']

theorem failsWith_only {e : ExportError} (h : FailsWith source o g e) :
    FailsWith (source.only g) o g e := by
  cases h with
  | derivation hfail => exact .derivation (derive_only.trans hfail)
  | registry hs hname => exact .registry (derive_only.trans hs) hname
  | rows hs hne hinclude hfail => exact .rows (derive_only.trans hs) hne hinclude hfail

theorem selectedGraphs_only (hg : g ∈ selectedGraphs source o) :
    selectedGraphs (source.only g) o = [g] :=
  List.filter_cons_of_pos (List.mem_filter.1 hg).2

/-- The export of the graph of a part. -/
theorem Part.IsOf.export_only {p : Part} (hp : p.IsOf source o) (hvalid : o.fault? = none)
    (hg : p.graph ∈ selectedGraphs source o) :
    ∃ e, (export? (source.only p.graph) o).1 = .ok e ∧ e.schemas = [p.schema] ∧
      e.script = Registry.tableScript o.registry ++ p.script o ∧ e.stats = p.rows.stats := by
  have hgraphs := selectedGraphs_only hg
  have hexportable : ∀ g ∈ selectedGraphs (source.only p.graph) o,
      Exportable (source.only p.graph) o g := by
    rw [hgraphs, List.forall_mem_singleton]
    exact (isOf_only.2 hp).exportable
  obtain ⟨e, he⟩ := (export?_eq_ok_iff hvalid).2 hexportable
  obtain ⟨parts, hparts, hall, hschemas, hscript, hstats⟩ := exists_parts (Prod.ext he rfl)
  -- The only part of this export is the given one.
  obtain ⟨p', rfl, hgraph⟩ := List.map_eq_singleton_iff.1 (hparts.trans hgraphs)
  obtain rfl : p' = p := (isOf_only.1 (hall p' List.mem_cons_self)).unique hp hgraph
  refine ⟨e, he, hschemas, ?_, ?_⟩
  · rw [hscript]
    exact congrArg (_ ++ ·) (Script.concat_singleton _)
  · rw [hstats]
    rfl

/-! ### The whole export -/

/-- An export is put together from parts, one for each selected graph. -/
structure IsComposedOf (source : Source) (o : ExportOptions) (parts : List Part) (e : Export) :
    Prop where
  graphs : parts.map Part.graph = selectedGraphs source o
  isOf : ∀ p ∈ parts, p.IsOf source o
  schemas : e.schemas = parts.map Part.schema
  /-- Every phase has the statements of the graphs one after the other. -/
  statements : ∀ phase, e.script.statements phase =
    (if phase = .tables then (Registry.tableScript o.registry).tables else []) ++
      parts.flatMap fun p => (p.schema.script ⟨o.maxLength⟩).statements phase ++
        (Registry.rowScript o.registry p.schema).statements phase ++
        p.rows.script.statements phase
  /-- It does not matter how the statements of a graph are added, as long as they make up its part. -/
  pushes : ∀ pushed, List.Forall₂ (fun l p => Script.empty.pushAll l = p.script o) pushed parts →
    (Registry.tableScript o.registry).pushAll pushed.flatten = e.script
  resources : e.stats.resources = (parts.map fun p => p.rows.stats.resources).sum
  tiles : e.stats.tiles = (parts.map fun p => p.rows.stats.tiles).sum
  updates : e.stats.updates = (parts.map fun p => p.rows.stats.updates).sum
  skipped : e.stats.skipped = (parts.map fun p => p.rows.stats.skipped).sum
  /-- Each part is what is exported of its graph alone. -/
  alone : ∀ p ∈ parts, ∃ e', (export? (source.only p.graph) o).1 = .ok e' ∧
    e'.schemas = [p.schema] ∧ e'.script = Registry.tableScript o.registry ++ p.script o ∧
    e'.stats = p.rows.stats

theorem exists_isComposedOf {e : Export} (hvalid : o.fault? = none)
    (h : (export? source o).1 = .ok e) : ∃ parts, IsComposedOf source o parts e := by
  obtain ⟨parts, hgraphs, hparts, hschemas, hscript, hstats⟩ := exists_parts (Prod.ext h rfl)
  rw [Rows.Stats.sum_map] at hstats
  refine ⟨parts, hgraphs, hparts, hschemas, ?statements, ?pushes, congrArg _ hstats,
    congrArg _ hstats, congrArg _ hstats, congrArg _ hstats, ?alone⟩
  case statements =>
    intro phase
    rw [hscript, Script.statements_append, Script.statements_concat, List.flatMap_map]
    refine congrArg₂ (· ++ ·) ?_ ?_
    · cases phase <;> rfl
    · simp only [Part.script, Script.statements_append]
  case pushes =>
    intro pushed hpushed
    rw [hscript]
    exact Script.pushAll_flatten _ (List.forall₂_map_right_iff.2 hpushed)
  case alone =>
    intro p hp
    exact (hparts p hp).export_only hvalid (hgraphs ▸ List.mem_map_of_mem hp)

/-- With valid options, an export succeeds if all selected graphs can be exported, and is then put
together from what they give by themselves; or it fails as the first of them does that cannot be
exported. -/
theorem export_composition (source : Source) (o : ExportOptions) (hvalid : o.fault? = none) :
    ((∃ e, (export? source o).1 = .ok e) ↔
      ∀ g ∈ selectedGraphs source o, Exportable source o g) ∧
    (∀ e, (export? source o).1 = .ok e → ∃ parts, IsComposedOf source o parts e) ∧
    ∀ err, (export? source o).1 = .error err ↔
      ∃ before g after, selectedGraphs source o = before ++ g :: after ∧
        (∀ g' ∈ before, Exportable source o g') ∧ FailsWith source o g err ∧
        (export? (source.only g) o).1 = .error err := by
  refine ⟨export?_eq_ok_iff hvalid, fun e => exists_isComposedOf hvalid, fun err => ?_⟩
  rw [export?_eq_error_iff hvalid]
  constructor
  · rintro ⟨before, g, after, hgraphs, hbefore, hfail⟩
    refine ⟨before, g, after, hgraphs, hbefore, hfail, (export?_eq_error_iff hvalid).2 ?_⟩
    have hg : g ∈ selectedGraphs source o := by simp [hgraphs]
    exact ⟨[], g, [], selectedGraphs_only hg, by simp, failsWith_only hfail⟩
  · rintro ⟨before, g, after, hgraphs, hbefore, hfail, -⟩
    exact ⟨before, g, after, hgraphs, hbefore, hfail⟩

theorem export_composition_sitePackage :
    ExportOptions.fault? {} = none ∧
      ∃ e parts, (export? (.ofPackage sitePackage) {}).1 = .ok e ∧
        IsComposedOf (.ofPackage sitePackage) {} parts e ∧ parts.length = 1 := by
  have hvalid : ExportOptions.fault? {} = none := by decide +kernel
  have h : ∃ e ∈ (export? (.ofPackage sitePackage) {}).1.toOption, e.schemas.length = 1 := by
    rw [Source.ofPackage_eq]
    decide +kernel
  obtain ⟨e, he, hlength⟩ := h
  rw [mem_toOption_iff] at he
  obtain ⟨parts, hparts⟩ := (export_composition (.ofPackage sitePackage) {} hvalid).2.1 e he
  refine ⟨hvalid, e, parts, he, hparts, ?_⟩
  rw [hparts.schemas, List.length_map] at hlength
  exact hlength

end ResourceTables
