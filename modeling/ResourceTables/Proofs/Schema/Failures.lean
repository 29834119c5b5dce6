import ResourceTables.Proofs.Identifier.Circles
import ResourceTables.Proofs.Schema.Derivation

/-!
# ResourceTables.Proofs.Schema.Failures

What a derivation can fail with after a review has found nothing. A review scans the nodes and the
nodegroups and looks for circles along all parents; a derivation walks chains of first matches and
fails when it meets a gap. Each step of `Schema.derive` has one lemma that takes its failure apart,
and each gap they name is one that a review reports. What is left is what a review does not look at:
the content of the vocabularies, and the options of a node one by one (`LookupFault`).
-/

namespace ResourceTables

open Json (Value)

/-! ### Names -/

/-- Where a review finds nothing, every node in a known nodegroup is qualified. -/
theorem Graph.Flawless.exists_qualify {g : Graph} (hg : g.Flawless) (names : Names) {n : Node}
    {start : Uuid} (hn : n.nodegroup = some start) (hknown : (g.nodegroup? start).isSome = true) :
    ∃ name, names.qualify g n = .ok name := by
  obtain ⟨group, hgroup⟩ := Option.isSome_iff_exists.1 hknown
  refine (Graph.qualify_ok_or_cyclic hg.toComplete hn hgroup).resolve_right ?_
  rintro ⟨x, hx⟩
  -- A circle along first matches is one along all parents, which the review would have reported.
  have hle : g.NestsIn ≤ g.HasParent := fun _ _ => Graph.NestsIn.hasParent hg.toComplete
  obtain ⟨-, hcircle⟩ := Graph.circle_of_qualify hn hgroup hx
  exact Graph.cycles_eq_nil_iff.1 hg.cycles x (Relation.TransGen.mono hle x x hcircle)

namespace Schema

variable {source : Source} {names : Names} {language : String} {g : Graph} {e : ExportError}

/-! ### Lookup tables -/

/-- The identifier of an option, if it has one that can be read. -/
def optionId? (option : Value) : Option Uuid :=
  ((option.get? "id").bind Value.text?).bind Uuid.parse?

/-- Why a node that is configured has no lookup table: its vocabulary is not there, or one of its
options has no identifier. -/
inductive LookupFault (source : Source) (n : Node) : ExportError → Prop
  | vocabulary {id : Uuid} : n.datatype.isConcept = true → n.vocabulary? = some id →
      source.entries? id = none → LookupFault source n (.unknownCollection n.id id)
  | option {options : List Value} {option : Value} : n.datatype.isLookup = true →
      n.datatype.isConcept = false → n.options? = some options → option ∈ options →
      optionId? option = none → LookupFault source n (.missingConfiguration n.id n.datatype.tag)

/-- The options of a node cannot be read exactly if one of them has no identifier. -/
theorem mapM_entryOfOption?_eq_none_iff {options : List Value} :
    options.mapM (entryOfOption? language) = none ↔ ∃ o ∈ options, optionId? o = none := by
  induction options with
  | nil => simp
  | cons o options ih =>
    have hone : entryOfOption? language o = none ↔ optionId? o = none := Option.map_eq_none_iff
    rw [List.mapM_cons, List.exists_mem_cons_iff, ← hone, ← ih]
    cases entryOfOption? language o with
    | none => simp
    | some entry => cases options.mapM (entryOfOption? language) <;> simp

/-- A lookup node that is configured has a lookup table unless there is a fault. -/
theorem lookupEntries_eq_error_iff {n : Node} (hl : n.datatype.isLookup = true)
    (hconfigured : Graph.isConfigured n = true) :
    lookupEntries source language n = .error e ↔ LookupFault source n e := by
  rw [lookupEntries, map_eq_error_iff, candidates]
  rw [Graph.isConfigured] at hconfigured
  cases hconcept : n.datatype.isConcept with
  | true =>
    rw [hconcept, if_pos rfl] at hconfigured
    obtain ⟨id, hid⟩ := Option.isSome_iff_exists.1 hconfigured
    rw [if_pos rfl, hid]
    constructor
    · intro h
      cases hentries : source.entries? id with
      | none =>
        simp only [hentries, Except.error.injEq] at h
        subst h
        exact .vocabulary hconcept hid hentries
      | some entries => simp [hentries] at h
    · rintro (⟨-, hid', hentries⟩ | ⟨-, hother, -⟩)
      · cases hid.symm.trans hid'
        simp [hentries]
      · rw [hconcept] at hother
        cases hother
  | false =>
    rw [hconcept, hl, if_neg Bool.false_ne_true, if_pos rfl] at hconfigured
    obtain ⟨options, hoptions⟩ := Option.isSome_iff_exists.1 hconfigured
    rw [if_neg Bool.false_ne_true, hoptions]
    constructor
    · intro h
      cases hentries : options.mapM (entryOfOption? language) with
      | none =>
        simp only [hentries, Except.error.injEq] at h
        subst h
        obtain ⟨o, ho, hnone⟩ := mapM_entryOfOption?_eq_none_iff.1 hentries
        exact .option hl hconcept hoptions ho hnone
      | some entries => simp [hentries] at h
    · rintro (⟨hother, -⟩ | ⟨-, -, hoptions', ho, hnone⟩)
      · rw [hconcept] at hother
        cases hother
      · cases hoptions.symm.trans hoptions'
        simp [mapM_entryOfOption?_eq_none_iff.2 ⟨_, ho, hnone⟩]

/-! ### Columns -/

/-- A column fails with its lookup table. -/
theorem lookup_of_deriveColumn? {table : String} {n : Node}
    (h : deriveColumn? source names language table n = .error e) :
    n.datatype.isLookup = true ∧ lookupEntries source language n = .error e := by
  unfold deriveColumn? at h
  cases htype : n.datatype.columnType? with
  | none => simp [htype, pure, Except.pure] at h
  | some type =>
    simp only [htype] at h
    by_cases hl : n.datatype.isLookup = true
    · rw [if_pos hl] at h
      rcases bind_eq_error_iff.1 h with hlookup | ⟨_, -, hend⟩
      · exact ⟨hl, map_eq_error_iff.1 hlookup⟩
      · cases hend
    · rw [if_neg hl] at h
      cases h

theorem exists_node_of_deriveColumns {table : String} {members : List Node}
    (h : deriveColumns source names language table members = .error e) :
    ∃ n ∈ members, deriveColumn? source names language table n = .error e := by
  induction members with
  | nil => cases h
  | cons n rest ih =>
    rcases bind_eq_error_iff.1 h with hn | ⟨column, -, hrest⟩
    · exact ⟨n, List.mem_cons_self, hn⟩
    rcases bind_eq_error_iff.1 hrest with hafter | ⟨columns, -, hend⟩
    · obtain ⟨m, hm, hfail⟩ := ih hafter
      exact ⟨m, List.mem_cons_of_mem _ hm, hfail⟩
    · cases hend

/-! ### Tables -/

/-- A link fails if the parent has no collector, or with the name of the collector. -/
theorem deriveParent_eq_error_iff {rootTable : String} {group : NodeGroup} :
    deriveParent names g rootTable group = .error e ↔
      ∃ parent, group.parent = some parent ∧
        (g.collector? parent = none ∧ e = .missingCollector parent ∨
          ∃ collector, g.collector? parent = some collector ∧
            names.qualify g collector = .error e) := by
  unfold deriveParent
  cases group.parent with
  | none => simp [pure, Except.pure]
  | some parent =>
    dsimp only
    cases hc : g.collector? parent with
    | none => simp [hc, throw, throwThe, MonadExceptOf.throw, eq_comm]
    | some collector => simp [hc, bind_eq_error_iff, pure, Except.pure]

/-- A table fails if its nodegroup is not known, or with its name, its link or its columns. -/
theorem deriveTable_eq_error {rootTable : String} {collector : Node}
    (h : deriveTable source names language g rootTable collector = .error e) :
    g.nodegroup? collector.id = none ∨
      ∃ group, g.nodegroup? collector.id = some group ∧
        (names.qualify g collector = .error e ∨ deriveParent names g rootTable group = .error e ∨
          ∃ name, deriveColumns source names language name (g.members collector.id) = .error e) := by
  unfold deriveTable at h
  cases hg : g.nodegroup? collector.id with
  | none => exact .inl rfl
  | some group =>
    rw [hg] at h
    refine .inr ⟨group, rfl, ?_⟩
    rcases bind_eq_error_iff.1 h with hname | ⟨name, -, h⟩
    · exact .inl hname
    rcases bind_eq_error_iff.1 h with hparent | ⟨parent, -, h⟩
    · exact .inr (.inl hparent)
    rcases bind_eq_error_iff.1 h with hcolumns | ⟨columns, -, h⟩
    · exact .inr (.inr ⟨name, hcolumns⟩)
    · cases h

/-! ### After a review -/

/-- The link to a known parent with a collector does not fail. -/
theorem exists_deriveParent (hg : g.Flawless) (rootTable : String) {group : NodeGroup}
    (hgroup : group ∈ g.nodegroups) : ∃ link, deriveParent names g rootTable group = .ok link := by
  cases h : deriveParent names g rootTable group with
  | ok link => exact ⟨link, rfl⟩
  | error e =>
    obtain ⟨parent, hparent, hfail⟩ := deriveParent_eq_error_iff.1 h
    have hknown := hg.parent group hgroup parent hparent
    obtain ⟨above, habove⟩ := Option.isSome_iff_exists.1 hknown
    rcases hfail with ⟨hnone, -⟩ | ⟨collector, hc, hname⟩
    · have hcollector := hg.collector above (Graph.mem_of_nodegroup? habove)
      rw [Graph.id_of_nodegroup? habove, hnone] at hcollector
      cases hcollector
    · obtain ⟨name, hok⟩ := hg.exists_qualify names (Graph.collector?_spec hc).2.2 hknown
      rw [hname] at hok
      cases hok

theorem fault_of_deriveTable (hg : g.Flawless) {rootTable : String} {collector : Node}
    (hc : collector ∈ g.collectors)
    (h : deriveTable source names language g rootTable collector = .error e) :
    ∃ n ∈ g.nodes, LookupFault source n e := by
  have hmem : collector ∈ g.nodes := List.mem_of_mem_filter hc
  have hgroup : collector.nodegroup = some collector.id := by
    simpa [Node.isCollector] using Graph.isCollector_of_mem_collectors hc
  have hknown := hg.nodegroup collector hmem collector.id hgroup
  rcases deriveTable_eq_error h with hnone | ⟨group, hfound, hname | hparent | ⟨name, hcolumns⟩⟩
  · rw [hnone] at hknown
    cases hknown
  · obtain ⟨name, hok⟩ := hg.exists_qualify names hgroup hknown
    rw [hname] at hok
    cases hok
  · obtain ⟨link, hok⟩ : ∃ link, deriveParent names g rootTable group = .ok link :=
      exists_deriveParent hg rootTable (Graph.mem_of_nodegroup? hfound)
    rw [hparent] at hok
    cases hok
  · obtain ⟨n, hn, hcolumn⟩ := exists_node_of_deriveColumns hcolumns
    have hn : n ∈ g.nodes := List.mem_of_mem_filter hn
    obtain ⟨hl, hentries⟩ := lookup_of_deriveColumn? hcolumn
    exact ⟨n, hn, (lookupEntries_eq_error_iff hl (hg.configured n hn)).1 hentries⟩

theorem fault_of_derive (hg : g.Flawless) (h : derive source names language g = .error e) :
    ∃ n ∈ g.nodes, LookupFault source n e := by
  unfold derive at h
  cases htop : g.topNode? with
  | none =>
    obtain ⟨top, htops⟩ := hg.top
    have hmem : top ∈ g.nodes.filter (·.isTop) := by
      rw [htops]
      exact List.mem_singleton_self top
    exact absurd (List.of_mem_filter hmem)
      (List.find?_eq_none.1 htop top (List.mem_of_mem_filter hmem))
  | some top =>
    rw [htop] at h
    rcases bind_eq_error_iff.1 h with htables | ⟨tables, -, hend⟩
    · obtain ⟨collector, hc, hfail⟩ := exists_mem_of_mapM_eq_error htables
      exact fault_of_deriveTable hg hc hfail
    · cases hend

/-- A graph in which a review finds nothing has a schema, unless a lookup node names a vocabulary
that is not there or has an option without an identifier; identifiers may repeat. -/
theorem derive_ok_or_lookupFault (source : Source) (names : Names) (language : String) (g : Graph)
    (h : g.issues = []) :
    (∃ s, derive source names language g = .ok s) ∨
      ∃ n ∈ g.nodes, ∃ e, derive source names language g = .error e ∧ LookupFault source n e := by
  cases hd : derive source names language g with
  | ok s => exact .inl ⟨s, rfl⟩
  | error e =>
    obtain ⟨n, hn, hfault⟩ := fault_of_derive (Graph.issues_eq_nil_iff.1 h) hd
    exact .inr ⟨n, hn, e, rfl, hfault⟩

/-- A phase with a part inside, each under an identifier that is used twice, and a kind of parts from
a vocabulary. -/
def repeatingGraph : Graph where
  id := .ofNat 9
  name := .single "en" "Site"
  nodes := [
    { id := .ofNat 1, name := "Site", datatype := .semantic, isTop := true },
    { id := .ofNat 2, name := "Phase", datatype := .date, nodegroup := some (.ofNat 2) },
    { id := .ofNat 3, name := "Part", datatype := .string, nodegroup := some (.ofNat 3) },
    { id := .ofNat 3, name := "Room", datatype := .string, nodegroup := some (.ofNat 3) },
    { id := .ofNat 4, name := "Kind", datatype := .concept, nodegroup := some (.ofNat 3)
      config := .object [("rdmCollection", .string (Uuid.ofNat 7).toString)] }]
  nodegroups := [{ id := .ofNat 3, parent := some (.ofNat 2) }, { id := .ofNat 2 },
    { id := .ofNat 3 }]

/-- Without the vocabulary it has no schema. -/
theorem derive_ok_or_lookupFault_repeatingGraph :
    repeatingGraph.issues = [] ∧ ∃ n ∈ repeatingGraph.nodes,
      derive (.ofPackage {}) {} "en" repeatingGraph =
        .error (.unknownCollection (.ofNat 4) (.ofNat 7)) ∧
      LookupFault (.ofPackage {}) n (.unknownCollection (.ofNat 4) (.ofNat 7)) := by
  have hissues : repeatingGraph.issues = [] := by decide +kernel
  have hfail : derive (.ofPackage {}) {} "en" repeatingGraph =
      .error (.unknownCollection (.ofNat 4) (.ofNat 7)) := by
    decide +kernel
  rcases derive_ok_or_lookupFault (.ofPackage {}) {} "en" repeatingGraph hissues with
    ⟨s, hok⟩ | ⟨n, hn, e, he, hfault⟩
  · rw [hfail] at hok
    cases hok
  · cases hfail.symm.trans he
    exact ⟨hissues, n, hn, hfail, hfault⟩

end Schema

end ResourceTables
