import ResourceTables.Proofs.Identifier.Ancestry
import ResourceTables.Proofs.Schema.Derivation

/-!
# ResourceTables.Proofs.Schema.Links

Where the link of a table leads: to the root table, or to the table of the parent's collector
(`Schema.Linked`). A top node has no table besides the root table, so it may only collect a
nodegroup that others nest under if its qualified name is that of the root table
(`Graph.ParentsHaveTables`).
-/

namespace ResourceTables

/-- A top node that collects a nodegroup which others nest under has the name of the first top node,
and that nodegroup is not nested itself. -/
def Graph.ParentsHaveTables (g : Graph) : Prop :=
  ∀ n ∈ g.nodes, n.isTop = true → n.isCollector = true →
    (∃ group ∈ g.nodegroups, group.parent = some n.id) →
      g.topNode?.map Node.name = some n.name ∧ (g.nodegroup? n.id).bind NodeGroup.parent = none

instance (g : Graph) : Decidable g.ParentsHaveTables :=
  inferInstanceAs (Decidable (∀ n ∈ g.nodes, n.isTop = true → n.isCollector = true →
    (∃ group ∈ g.nodegroups, group.parent = some n.id) →
      g.topNode?.map Node.name = some n.name ∧ (g.nodegroup? n.id).bind NodeGroup.parent = none))

namespace Schema

variable {source : Source} {names : Names} {language : String} {g : Graph} {s : Schema}

/-- The link of a table has the name and the key of the root table or of a table of the parent
nodegroup. -/
def Linked (s : Schema) (t : Table) : Prop :=
  t.parent.table = s.rootTable ∧ t.parent.column = s.rootKey ∨
    ∃ u ∈ s.tables, t.parent.nodegroup = some u.nodegroup ∧ t.parent.table = u.name ∧
      t.parent.column = u.key

/-- The link of a table leads to the root table if its nodegroup is not nested, and else to a table of
the parent nodegroup. -/
inductive LinksToParent (s : Schema) (t : Table) : Prop
  | root : t.parent.nodegroup = none → t.parent.table = s.rootTable →
      t.parent.column = s.rootKey → LinksToParent s t
  | table {u : Table} : u ∈ s.tables → t.parent.nodegroup = some u.nodegroup →
      t.parent.table = u.name → t.parent.column = u.key → LinksToParent s t

theorem LinksToParent.linked {t : Table} (h : s.LinksToParent t) : s.Linked t := by
  cases h with
  | root _ htable hcolumn => exact .inl ⟨htable, hcolumn⟩
  | table hu hgroup htable hcolumn => exact .inr ⟨_, hu, hgroup, htable, hcolumn⟩

/-- The nodegroups that nest under one link to the table of its collector, unless that is a top
node. -/
theorem exists_parentTable (hs : IsDerived source names language g s) {group : NodeGroup}
    {link : ParentLink} {id : Uuid} (hlink : deriveParent names g s.rootTable group = .ok link)
    (hparent : group.parent = some id)
    (htop : ∀ collector, g.collector? id = some collector → collector.isTop = false) :
    ∃ u ∈ s.tables, u.nodegroup = id ∧ link.table = u.name ∧ link.column = u.key := by
  obtain ⟨-, hcolumn, htable⟩ := deriveParent_eq_ok_iff.1 hlink
  rw [hparent] at htable
  obtain ⟨collector, hc, hname⟩ := htable
  obtain ⟨hmem, hid, -⟩ := Graph.collector?_spec hc
  have hcol : (!collector.isTop && collector.isCollector) = true := by
    rw [htop collector hc, Graph.isCollector_of_collector? hc]
    rfl
  obtain ⟨u, hu, hd⟩ := hs.exists_table (List.mem_filter.2 ⟨hmem, hcol⟩)
  obtain ⟨_, -, hname', -, -, hid', -, -, hkey⟩ := deriveTable_eq_ok_iff.1 hd
  -- Both names come from the same collector by the same rule.
  have heq : link.table = u.name := Except.ok.inj (hname.symm.trans hname')
  exact ⟨u, hu, hid'.trans hid, heq, by rw [hcolumn, heq, hkey]⟩

/-- The collector of a nodegroup that is not nested is qualified by its own name alone. -/
theorem qualify_of_parent_eq_none {collector : Node} {name : String}
    (hc : collector.isCollector = true)
    (hparent : (g.nodegroup? collector.id).bind NodeGroup.parent = none)
    (h : names.qualify g collector = .ok name) : name = names.slug collector.name := by
  have hgroup : collector.nodegroup = some collector.id := by simpa [Node.isCollector] using hc
  rw [Names.qualify, Graph.qualifiedName, hgroup] at h
  cases hg : g.nodegroup? collector.id with
  | none => simp [hg, Except.map] at h
  | some group =>
    rw [hg, Option.bind_some] at hparent
    simpa [hg, hparent, Graph.ancestry, Except.map, eq_comm] using h

theorem linked_of_isDerived (hs : IsDerived source names language g s)
    (hparents : g.ParentsHaveTables) {t : Table} (ht : t ∈ s.tables) : s.Linked t := by
  obtain ⟨_, -, hd⟩ := hs.exists_collector ht
  obtain ⟨group, hg, -, hparent, -⟩ := deriveTable_eq_ok_iff.1 hd
  obtain ⟨hnested, hcolumn, htable⟩ := deriveParent_eq_ok_iff.1 hparent
  cases hp : group.parent with
  | none =>
    rw [hp] at htable
    exact .inl ⟨htable, by rw [hcolumn, htable, hs.rootKey_eq]⟩
  | some id =>
    rw [hp] at htable
    obtain ⟨collector, hc, hname⟩ := htable
    obtain ⟨hmem, hid, -⟩ := Graph.collector?_spec hc
    have hcol := Graph.isCollector_of_collector? hc
    -- A top node has no table of its own, but its name may be that of the root table.
    by_cases htop : collector.isTop = true
    · obtain ⟨hfirst, hroot⟩ := hparents collector hmem htop hcol
        ⟨group, Graph.mem_of_nodegroup? hg, by rw [hp, hid]⟩
      obtain ⟨top, htop?, hschema⟩ := hs.name_eq
      rw [htop?] at hfirst
      have htable : t.parent.table = s.rootTable := by
        rw [qualify_of_parent_eq_none hcol hroot hname, hs.rootTable_eq, hschema]
        exact congrArg names.slug (Option.some.inj hfirst).symm
      exact .inl ⟨htable, by rw [hcolumn, htable, hs.rootKey_eq]⟩
    · have hfirst (c : Node) (hc' : g.collector? id = some c) : c.isTop = false := by
        cases hc.symm.trans hc'
        exact eq_false_of_ne_true htop
      obtain ⟨u, hu, hid', htable, hcolumn⟩ := exists_parentTable hs hparent hp hfirst
      exact .inr ⟨u, hu, by rw [hnested, hp, hid'], htable, hcolumn⟩

/-! ### Keys and links -/

theorem keyColumn_injective (names : Names) : Function.Injective names.keyColumn := by
  intro a b h
  have hlist := congrArg String.toList h
  rw [Names.keyColumn, Names.keyColumn, String.toList_append, String.toList_append] at hlist
  exact String.toList_injective (List.append_cancel_right hlist)

/-- A table does not link to itself, so its key and its link have different names. -/
theorem key_ne_link_of_linked (hs : IsDerived source names language g s)
    (hnames : (s.rootTable :: s.tables.map Table.name).Nodup) {t : Table} (ht : t ∈ s.tables)
    (hlinked : s.Linked t) : t.key ≠ t.parent.column := by
  intro heq
  obtain ⟨hroot, htables⟩ := List.nodup_cons.1 hnames
  obtain ⟨collector, hc, hd⟩ := hs.exists_collector ht
  obtain ⟨group, hg, hname, hparent, -, hid, -, -, hkey⟩ := deriveTable_eq_ok_iff.1 hd
  obtain ⟨hnested, hcolumn, -⟩ := deriveParent_eq_ok_iff.1 hparent
  have hself : t.name = t.parent.table :=
    keyColumn_injective names (by rw [← hkey, heq, hcolumn])
  rcases hlinked with ⟨htable, -⟩ | ⟨u, hu, hgroup, htable, -⟩
  · exact hroot (htable ▸ hself ▸ List.mem_map_of_mem ht)
  · -- The walk up from a nodegroup does not come back to it.
    have htu : t = u := List.inj_on_of_nodup_map htables ht hu (hself.trans htable)
    rw [← htu, hid, hnested] at hgroup
    obtain ⟨above, habove, hnodup⟩ :=
      Graph.above_of_qualify (Graph.isCollector_of_mem_collectors hc) hg hname
    rw [hgroup] at habove
    cases habove with
    | step _ hfirst _ =>
      rw [List.map_cons, List.map_cons, (Graph.collector?_spec hfirst).2.1] at hnodup
      exact (List.nodup_cons.1 hnodup).1 List.mem_cons_self

theorem key_ne_link (hs : IsDerived source names language g s) (hparents : g.ParentsHaveTables)
    (hnames : (s.rootTable :: s.tables.map Table.name).Nodup) {t : Table} (ht : t ∈ s.tables) :
    t.key ≠ t.parent.column :=
  key_ne_link_of_linked hs hnames ht (linked_of_isDerived hs hparents ht)

end Schema

end ResourceTables
