import ResourceTables.Schema.Derivation
import ResourceTables.Proofs.Steps

/-!
# ResourceTables.Proofs.Schema.Derivation

What a derivation that succeeds went through. Each step of `Schema.derive` has one lemma that takes
its success apart: the schema (`isDerived_of_derive`), a table (`deriveTable_eq_ok_iff`), the link to
the parent's table (`deriveParent_eq_ok_iff`) and a column (`deriveColumn?_eq_some_iff`). Nothing
after this module opens the derivation again. Of a source, a derivation reads nothing but the entries
of collections (`derive_congr`).
-/

namespace ResourceTables

namespace Schema

variable {source : Source} {names : Names} {language : String} {g : Graph}

/-! ### The schema -/

/-- What is true of a schema that was derived from a graph. -/
structure IsDerived (source : Source) (names : Names) (language : String) (g : Graph)
    (s : Schema) : Prop where
  graph_eq : s.graph = g.id
  name_eq : ∃ top, g.topNode? = some top ∧ s.name = names.slug top.name
  rootTable_eq : s.rootTable = s.name
  rootKey_eq : s.rootKey = names.keyColumn s.rootTable
  /-- The collectors and their tables, in order. -/
  tables : List.Forall₂ (fun collector t =>
    deriveTable source names language g s.rootTable collector = .ok t) g.collectors s.tables

theorem isDerived_of_derive {s : Schema} (h : derive source names language g = .ok s) :
    IsDerived source names language g s := by
  unfold derive at h
  cases htop : g.topNode? with
  | none => simp [htop, throw, throwThe, MonadExceptOf.throw] at h
  | some top =>
    rw [htop] at h
    obtain ⟨tables, htables, hs⟩ := bind_eq_ok_iff.1 h
    cases hs
    exact ⟨rfl, ⟨top, htop, rfl⟩, rfl, rfl, forall₂_of_mapM_eq_ok htables⟩

theorem graphName_of_derive {s : Schema} (h : derive source names language g = .ok s) :
    s.graphName = g.name.resolve language defaultLanguage := by
  unfold derive at h
  cases htop : g.topNode? with
  | none => simp [htop, throw, throwThe, MonadExceptOf.throw] at h
  | some top =>
    rw [htop] at h
    obtain ⟨tables, -, hs⟩ := bind_eq_ok_iff.1 h
    cases hs
    rfl

theorem IsDerived.exists_collector {s : Schema} {t : Table}
    (h : IsDerived source names language g s) (ht : t ∈ s.tables) :
    ∃ collector ∈ g.collectors,
      deriveTable source names language g s.rootTable collector = .ok t := by
  obtain ⟨collector, hc, hd⟩ := exists_left_of_mem h.tables ht
  exact ⟨collector, hc, hd⟩

theorem IsDerived.exists_table {s : Schema} {collector : Node}
    (h : IsDerived source names language g s) (hc : collector ∈ g.collectors) :
    ∃ t ∈ s.tables, deriveTable source names language g s.rootTable collector = .ok t :=
  exists_right_of_mem h.tables hc

/-! ### Tables -/

theorem deriveTable_eq_ok_iff {rootTable : String} {collector : Node} {t : Table} :
    deriveTable source names language g rootTable collector = .ok t ↔
      ∃ group, g.nodegroup? collector.id = some group ∧
        names.qualify g collector = .ok t.name ∧
        deriveParent names g rootTable group = .ok t.parent ∧
        deriveColumns source names language t.name (g.members collector.id) = .ok t.columns ∧
        t.nodegroup = collector.id ∧ t.nodegroupName = collector.name ∧
        t.cardinality = group.cardinality ∧ t.key = names.keyColumn t.name := by
  unfold deriveTable
  cases hg : g.nodegroup? collector.id with
  | none => simp [throw, throwThe, MonadExceptOf.throw]
  | some group =>
    simp only [bind_eq_ok_iff]
    constructor
    · rintro ⟨name, hname, parent, hparent, columns, hcolumns, ht⟩
      cases ht
      exact ⟨group, rfl, hname, hparent, hcolumns, rfl, rfl, rfl, rfl⟩
    · rintro ⟨_, ⟨⟩, hname, hparent, hcolumns, hgroup, hgname, hcard, hkey⟩
      refine ⟨_, hname, _, hparent, _, hcolumns, ?_⟩
      rw [← hgroup, ← hgname, ← hcard, ← hkey]
      rfl

/-- The link of a table: the root table if the nodegroup has no parent, and else the table that the
parent's collector is qualified for. -/
theorem deriveParent_eq_ok_iff {rootTable : String} {group : NodeGroup} {link : ParentLink} :
    deriveParent names g rootTable group = .ok link ↔
      link.nodegroup = group.parent ∧ link.column = names.keyColumn link.table ∧
        match group.parent with
        | none => link.table = rootTable
        | some parent => ∃ collector, g.collector? parent = some collector ∧
            names.qualify g collector = .ok link.table := by
  unfold deriveParent
  cases group.parent with
  | none =>
    constructor
    · intro h
      cases h
      exact ⟨rfl, rfl, rfl⟩
    · rintro ⟨hgroup, hcolumn, rfl⟩
      rw [← hcolumn]
      cases link
      cases hgroup
      rfl
  | some parent =>
    dsimp only
    cases hc : g.collector? parent with
    | none => simp [throw, throwThe, MonadExceptOf.throw]
    | some collector =>
      simp only [bind_eq_ok_iff]
      constructor
      · rintro ⟨table, htable, hlink⟩
        cases hlink
        exact ⟨rfl, rfl, collector, rfl, htable⟩
      · rintro ⟨hgroup, hcolumn, _, ⟨⟩, htable⟩
        refine ⟨_, htable, ?_⟩
        rw [← hgroup, ← hcolumn]
        rfl

/-! ### Columns -/

theorem deriveColumn?_eq_some_iff {table : String} {node : Node} {c : Column} :
    deriveColumn? source names language table node = .ok (some c) ↔
      node.datatype.columnType? = some c.type ∧ c.node = node.id ∧ c.nodeName = node.name ∧
        c.datatype = node.datatype ∧ c.name = names.slug node.name ∧
        if node.datatype.isLookup then
          ∃ entries, lookupEntries source language node = .ok entries ∧
            c.lookup = some ⟨names.lookupTable table c.name, entries⟩
        else c.lookup = none := by
  unfold deriveColumn?
  cases node.datatype.columnType? with
  | none => simp [pure, Except.pure]
  | some type =>
    dsimp only
    by_cases hl : node.datatype.isLookup
    · rw [if_pos hl, if_pos hl, bind_eq_ok_iff]
      constructor
      · rintro ⟨lookup, hlookup, hc⟩
        obtain ⟨entries, he, rfl⟩ := map_eq_ok_iff.1 hlookup
        cases hc
        exact ⟨rfl, rfl, rfl, rfl, rfl, entries, he, rfl⟩
      · rintro ⟨⟨⟩, hnode, hname, hdata, hcolumn, entries, he, hlookup⟩
        refine ⟨_, map_eq_ok_iff.2 ⟨entries, he, rfl⟩, ?_⟩
        rw [← hcolumn, ← hnode, ← hname, ← hdata, ← hlookup]
        rfl
    · rw [if_neg hl, if_neg hl, bind_eq_ok_iff]
      constructor
      · rintro ⟨_, ⟨⟩, hc⟩
        cases hc
        exact ⟨rfl, rfl, rfl, rfl, rfl, rfl⟩
      · rintro ⟨⟨⟩, hnode, hname, hdata, hcolumn, hlookup⟩
        refine ⟨none, rfl, ?_⟩
        rw [← hcolumn, ← hnode, ← hname, ← hdata, ← hlookup]
        rfl

theorem exists_node_of_mem_deriveColumns {table : String} {members : List Node}
    {columns : List Column} {c : Column}
    (h : deriveColumns source names language table members = .ok columns) (hc : c ∈ columns) :
    ∃ node ∈ members, deriveColumn? source names language table node = .ok (some c) := by
  induction members generalizing columns with
  | nil =>
    cases h
    simp at hc
  | cons node rest ih =>
    obtain ⟨column, hcolumn, h⟩ := bind_eq_ok_iff.1 h
    obtain ⟨after, hafter, h⟩ := bind_eq_ok_iff.1 h
    cases h
    rcases List.mem_append.1 hc with hc | hc
    · rw [Option.mem_toList] at hc
      cases hc
      exact ⟨node, List.mem_cons_self, hcolumn⟩
    · obtain ⟨n, hn, hd⟩ := ih hafter hc
      exact ⟨n, List.mem_cons_of_mem _ hn, hd⟩

/-! ### What is read of a source -/

theorem deriveColumns_congr {source source' : Source} (h : source.entries? = source'.entries?)
    {table : String} {members : List Node} :
    deriveColumns source names language table members =
      deriveColumns source' names language table members := by
  have hcandidates (n : Node) : candidates source language n = candidates source' language n := by
    rw [candidates, candidates, h]
  induction members with
  | nil => rfl
  | cons n members ih =>
    rw [deriveColumns, deriveColumns, ih]
    simp only [deriveColumn?, lookupEntries, hcandidates]

theorem derive_congr {source source' : Source} (h : source.entries? = source'.entries?) :
    derive source names language g = derive source' names language g := by
  have htable (rootTable : String) (collector : Node) :
      deriveTable source names language g rootTable collector =
        deriveTable source' names language g rootTable collector := by
    simp only [deriveTable, deriveColumns_congr h]
  unfold derive
  simp only [funext (htable _)]

/-! ### Names -/

/-- How the names of a table come about: all but those of key columns are slugs. -/
structure Table.IsNamed (names : Names) (rootTable : String) (t : Table) : Prop where
  name : ∃ text, t.name = names.slug text
  key : t.key = names.keyColumn t.name
  parent : t.parent.table = rootTable ∨ ∃ text, t.parent.table = names.slug text
  link : t.parent.column = names.keyColumn t.parent.table
  columns : ∀ c ∈ t.columns, ∃ text, c.name = names.slug text
  lookups : ∀ c ∈ t.columns, ∀ l, c.lookup = some l → ∃ text, l.name = names.slug text

theorem exists_slug_of_qualify {node : Node} {name : String}
    (h : names.qualify g node = .ok name) : ∃ text, name = names.slug text := by
  obtain ⟨text, -, rfl⟩ := map_eq_ok_iff.1 h
  exact ⟨text, rfl⟩

theorem isNamed_of_deriveTable {rootTable : String} {collector : Node} {t : Table}
    (h : deriveTable source names language g rootTable collector = .ok t) :
    t.IsNamed names rootTable := by
  obtain ⟨group, -, hname, hparent, hcolumns, -, -, -, hkey⟩ := deriveTable_eq_ok_iff.1 h
  obtain ⟨-, hlink, htable⟩ := deriveParent_eq_ok_iff.1 hparent
  refine ⟨exists_slug_of_qualify hname, hkey, ?_, hlink, ?_, ?_⟩
  · cases hp : group.parent with
    | none =>
      rw [hp] at htable
      exact .inl htable
    | some id =>
      rw [hp] at htable
      obtain ⟨_, -, hqualify⟩ := htable
      exact .inr (exists_slug_of_qualify hqualify)
  · intro c hc
    obtain ⟨node, -, hd⟩ := exists_node_of_mem_deriveColumns hcolumns hc
    obtain ⟨-, -, -, -, hcolumn, -⟩ := deriveColumn?_eq_some_iff.1 hd
    exact ⟨_, hcolumn⟩
  · intro c hc l hl
    obtain ⟨node, -, hd⟩ := exists_node_of_mem_deriveColumns hcolumns hc
    obtain ⟨-, -, -, -, -, hlookup⟩ := deriveColumn?_eq_some_iff.1 hd
    by_cases hnode : node.datatype.isLookup = true
    · rw [if_pos hnode] at hlookup
      obtain ⟨entries, -, heq⟩ := hlookup
      cases hl.symm.trans heq
      exact ⟨_, rfl⟩
    · rw [if_neg hnode, hl] at hlookup
      cases hlookup

end Schema

end ResourceTables
