import ResourceTables.Proofs.Export.Parts
import ResourceTables.Proofs.Package
import ResourceTables.Proofs.Schema.Identifiers
import ResourceTables.Proofs.Sql.Reading

/-!
# ResourceTables.Proofs.Export.Reading

An export as a database reads it. Whatever stands in a package, the text of its export is
read as the statements that were written. Names that were turned into slugs stand in identifiers,
texts stand in literals, and nothing else of a package is in the text.
-/

namespace ResourceTables

open Sql (Script Statement Token Phase)

/-- A name that an export may write as an identifier: a slug, or a name of the registry. -/
def ExportOptions.IsName (o : ExportOptions) (name : String) : Prop :=
  IsSlug name ∨ name = o.registry.schema ∨ name = o.registry.table

variable {source : Source} {o : ExportOptions}

/-! ### Names -/

theorem Registry.isSlug_columns : ∀ name ∈ columns.map Prod.fst, IsSlug name := by decide

theorem isName_of_mem_registryTable {st : Statement} {phase : Phase}
    (hst : st ∈ (Registry.tableScript o.registry).statements phase) :
    ∀ name ∈ st.names, o.IsName name := by
  have hschema : o.IsName o.registry.schema := .inr (.inl rfl)
  have htable : o.IsName o.registry.table := .inr (.inr rfl)
  cases phase with
  | tables =>
    simp only [Registry.tableScript, Script.statements, List.mem_cons, List.not_mem_nil,
      or_false] at hst
    rcases hst with rfl | rfl | rfl
    · exact List.forall_mem_singleton.2 hschema
    · exact List.forall_mem_cons.2 ⟨hschema, List.forall_mem_singleton.2 htable⟩
    · refine List.forall_mem_cons.2 ⟨hschema, List.forall_mem_cons.2 ⟨htable, ?_⟩⟩
      intro name hname
      rw [List.map_map] at hname
      exact .inl (Registry.isSlug_columns name hname)
  | columns => cases hst
  | data => cases hst
  | constraints => cases hst

theorem isName_of_mem_registryRows {s : Schema} {st : Statement} {phase : Phase}
    (hst : st ∈ (Registry.rowScript o.registry s).statements phase) :
    ∀ name ∈ st.names, o.IsName name := by
  cases phase with
  | tables => cases hst
  | columns => cases hst
  | data =>
    obtain ⟨t, -, hst⟩ := List.mem_flatMap.1 hst
    obtain ⟨c, -, rfl⟩ := List.mem_map.1 hst
    refine List.forall_mem_cons.2 ⟨.inr (.inl rfl), List.forall_mem_cons.2 ⟨.inr (.inr rfl), ?_⟩⟩
    intro name hname
    obtain ⟨field, hfield, rfl⟩ := List.mem_map.1 hname
    exact .inl (Registry.isSlug_columns _ (List.of_mem_zip hfield).1)
  | constraints => cases hst

theorem isSlug_of_isRowStatement {srid : Nat} {language : String} {s : Schema} {st : Statement}
    (hs : s.Slugged) (hst : Rows.IsRowStatement source srid language s st) :
    ∀ name ∈ st.names, IsSlug name := by
  cases hst with
  | resource _ =>
    simp only [Statement.names, List.map_cons, List.map_nil, List.forall_mem_cons]
    exact ⟨hs.name, hs.rootTable, hs.rootKey, Schema.isSlug_legacyIdColumn, by simp⟩
  | tile ht _ =>
    have ht := hs.tables _ ht
    simp only [Statement.names, List.map_cons, List.map_nil, List.forall_mem_cons]
    exact ⟨hs.name, ht.name, ht.key, ht.link, by simp⟩
  | link ht _ _ =>
    have ht := hs.tables _ ht
    simp only [Statement.names, List.forall_mem_cons]
    exact ⟨hs.name, ht.name, ht.link, ht.key, by simp⟩
  | value ht _ hc _ _ =>
    have ht := hs.tables _ ht
    simp only [Statement.names, List.forall_mem_cons]
    exact ⟨hs.name, ht.name, ht.columns _ hc, ht.key, by simp⟩

theorem Part.isName_of_mem_script {p : Part} {st : Statement} {phase : Phase}
    (hp : p.IsOf source o) (hst : st ∈ (p.script o).statements phase) :
    ∀ name ∈ st.names, o.IsName name := by
  have hs := Schema.slugged_of_isDerived (Schema.isDerived_of_derive hp.derived)
  rw [script, Script.statements_append, Script.statements_append] at hst
  rcases List.mem_append.1 hst with hst | hst
  · rcases List.mem_append.1 hst with hst | hst
    · exact fun name hname => .inl (Schema.isSlug_of_mem_script hs hst name hname)
    · exact isName_of_mem_registryRows hst
  -- Rows are written in the data phase only, and only if they are asked for.
  · have hrows := hp.rows
    by_cases hinclude : o.includeRows = true
    · rw [if_pos hinclude] at hrows
      cases phase with
      | data =>
        have hrow := Rows.isRowStatement_of_mem hrows hst
        exact fun name hname => .inl (isSlug_of_isRowStatement hs hrow name hname)
      | tables => cases hst
      | columns => cases hst
      | constraints => cases hst
    · rw [if_neg hinclude] at hrows
      rw [hrows] at hst
      cases phase <;> cases hst

theorem isName_of_mem_export {e : Export} {warnings : List Rows.Warning} {st : Statement}
    {phase : Phase} (h : export? source o = (.ok e, warnings))
    (hst : st ∈ e.script.statements phase) : ∀ name ∈ st.names, o.IsName name := by
  obtain ⟨parts, -, hparts, -, hscript, -⟩ := exists_parts h
  rw [hscript, Script.statements_append, Script.statements_concat] at hst
  rcases List.mem_append.1 hst with hst | hst
  · exact isName_of_mem_registryTable hst
  · obtain ⟨script, hmem, hst⟩ := List.mem_flatMap.1 hst
    obtain ⟨p, hp, rfl⟩ := List.mem_map.1 hmem
    exact p.isName_of_mem_script (hparts p hp) hst

/-! ### An export as a database reads it -/

/-- Cut after every semicolon outside of quotes and comments, the text of an export is read as its
statements, one after the other and with nothing between them but line breaks and the headings of
the phases. A statement ends outside of quotes. Up to there it has no semicolon but in quotes, and
the names that it quotes are slugs or those of the registry; without what is quoted it reads like the
statement of the same kind, types and size that has no names and no texts. -/
theorem read_export (source : Source) (o : ExportOptions) (e : Export)
    (warnings : List Rows.Warning) (h : export? source o = (.ok e, warnings)) :
    Sql.readScript e.render = some (e.script.toList.map fun st => st.2.render) ∧
      (∃ ts, Sql.lex e.render.toList = some ts ∧
        ∀ text, Token.comment text ∈ ts → ∃ phase : Phase, text = " " ++ phase.label) ∧
      ∀ st ∈ e.script.toList, ∃ body : List Token,
        Sql.lex st.2.render.toList = some (body ++ [.plain ';']) ∧
          (∀ t ∈ body, t.isInert o.IsName) ∧ Sql.outside body = Sql.outside st.2.shape.body := by
  refine ⟨Sql.readScript_render e.script, ⟨_, Sql.lex_script e.script, ?_⟩, ?_⟩
  · intro text htext
    exact Sql.comment_mem_scriptTokens htext
  · intro st hst
    have hnames := isName_of_mem_export h (Script.mem_statements hst)
    exact ⟨st.2.body, st.2.lex_render, (Statement.clean_body hnames).inert, st.2.outside_body⟩

/-- A site with texts that would be statements if they were not quoted. -/
def quotedPackage : Package where
  graphs := [{ siteGraph with name := .single "en" "Site\n'; DROP SCHEMA public; --" }]
  resources := [
    { id := .ofNat 20, graph := .ofNat 9, legacyId := some "S'; DELETE FROM site; --\x00\\" }]
  tiles := sitePackage.tiles

/-- A registry whose name has a quote and a semicolon. -/
def quotedOptions : ExportOptions where
  registry := ⟨"public", "names\x22; --"⟩

theorem read_export_quotedPackage :
    ∃ e warnings, export? (.ofPackage quotedPackage) quotedOptions = (.ok e, warnings) ∧
      Sql.readScript e.render = some (e.script.toList.map fun st => st.2.render) ∧
      ∃ st ∈ e.script.toList,
        Token.literal "S'; DELETE FROM site; --\\" ∈ st.2.body ∧
          ∃ body, Sql.lex st.2.render.toList = some (body ++ [.plain ';']) ∧
            ∀ t ∈ body, t.isInert quotedOptions.IsName := by
  have h : ∃ e ∈ (export? (.ofPackage quotedPackage) quotedOptions).1.toOption,
      ∃ st ∈ e.script.toList, Token.literal "S'; DELETE FROM site; --\\" ∈ st.2.body := by
    rw [Source.ofPackage_eq]
    decide +kernel
  obtain ⟨e, he, st, hst, hliteral⟩ := h
  have hexport : export? (.ofPackage quotedPackage) quotedOptions = (.ok e, _) :=
    Prod.ext (mem_toOption_iff.1 he) rfl
  obtain ⟨hread, -, hstatements⟩ := read_export _ _ e _ hexport
  obtain ⟨body, hlex, hinert, -⟩ := hstatements st hst
  exact ⟨e, _, hexport, hread, st, hst, hliteral, body, hlex, hinert⟩

end ResourceTables
