import Mathlib.Data.List.Find
import ResourceTables.Proofs.Identifier.Ancestry
import ResourceTables.Proofs.Schema.Derivation

/-!
# ResourceTables.Proofs.Schema.ParentChain

Every table of a derived schema leads to the root table. The name in a parent link is derived apart
from the table it means: it comes from the first collector of the parent nodegroup, while the
tables come from all collectors but the top nodes. As long as no top node is a collector, the first
table of a nodegroup is the table of the same collector
(`table?_of_collector?`), so the chain of tables follows the chain of collectors that
`Names.qualify` has walked, which ends and meets no nodegroup twice.
-/

namespace ResourceTables

/-- No top node is the collector of a nodegroup. -/
def Graph.TopsApart (g : Graph) : Prop := ∀ n ∈ g.nodes, n.isTop = true → n.isCollector = false

instance (g : Graph) : Decidable g.TopsApart :=
  inferInstanceAs (Decidable (∀ n ∈ g.nodes, n.isTop = true → n.isCollector = false))

namespace Schema

/-- The tables from one table up to one below the root table, along the parent links. A link has the
name and the key of the table it leads to. -/
inductive Ascent (s : Schema) : Table → List Table → Prop
  | root {t : Table} : t.parent.nodegroup = none → t.parent.table = s.rootTable →
      t.parent.column = s.rootKey → Ascent s t [t]
  | link {t u : Table} {id : Uuid} {above : List Table} : t.parent.nodegroup = some id →
      s.table? id = some u → t.parent.table = u.name → t.parent.column = u.key →
      Ascent s u above → Ascent s t (t :: above)

variable {source : Source} {names : Names} {language : String} {g : Graph} {s : Schema}

/-! ### The table of a parent -/

/-- The first node that stands for a nodegroup is also the first one among the collectors. -/
theorem find?_collectors (hapart : g.TopsApart) (id : Uuid) :
    g.collectors.find? (·.id == id) = g.collector? id := by
  rw [Graph.collectors, List.find?_filter, Graph.collector?]
  refine List.find?_congr ?_
  intro n hn
  have htop := hapart n hn
  cases ht : n.isTop <;> grind [Node.isCollector]

theorem table?_of_collector? {id : Uuid} {collector : Node}
    (hs : IsDerived source names language g s) (hapart : g.TopsApart)
    (hc : g.collector? id = some collector) :
    ∃ u, s.table? id = some u ∧
      deriveTable source names language g s.rootTable collector = .ok u := by
  rw [← find?_collectors hapart id] at hc
  refine find?_of_forall₂ hs.tables ?_ hc
  intro n t ht
  obtain ⟨-, -, -, -, -, hid, -⟩ := deriveTable_eq_ok_iff.1 ht
  rw [hid]

/-! ### The chain of tables -/

/-- The tables above a table are those of the collectors above its nodegroup. -/
theorem ascent_of_above {group : NodeGroup} {collector : Node} {t : Table} {above : List Node}
    (hs : IsDerived source names language g s) (hapart : g.TopsApart)
    (hg : g.nodegroup? collector.id = some group) (habove : g.Above group.parent above)
    (ht : deriveTable source names language g s.rootTable collector = .ok t) :
    ∃ chain, s.Ascent t chain ∧
      chain.map Table.nodegroup = (collector :: above).map Node.id := by
  induction above generalizing group collector t with
  | nil =>
    obtain ⟨_, hg', -, hparent, -, hid, -⟩ := deriveTable_eq_ok_iff.1 ht
    cases hg.symm.trans hg'
    obtain ⟨hnone, hcolumn, htable⟩ := deriveParent_eq_ok_iff.1 hparent
    have hroot : group.parent = none := by
      cases hp : group.parent with
      | none => rfl
      | some id => rw [hp] at habove; cases habove
    rw [hroot] at hnone htable
    refine ⟨[t], .root hnone htable ?_, by simp [hid]⟩
    rw [hcolumn, htable, hs.rootKey_eq]
  | cons above₁ above ih =>
    obtain ⟨_, hg', -, hparent, -, hid, -⟩ := deriveTable_eq_ok_iff.1 ht
    cases hg.symm.trans hg'
    obtain ⟨hsome, hcolumn, htable⟩ := deriveParent_eq_ok_iff.1 hparent
    cases hp : group.parent with
    | none => rw [hp] at habove; cases habove
    | some id =>
      rw [hp] at habove hsome htable
      obtain ⟨_, hc, hname⟩ := htable
      cases habove with
      | step hg₁ hc₁ hrest =>
        cases hc.symm.trans hc₁
        have hid₁ : above₁.id = id := (Graph.collector?_spec hc).2.1
        obtain ⟨u, hu, hderived⟩ := table?_of_collector? hs hapart hc
        obtain ⟨_, -, hname', -, -, -, -, -, hkey⟩ := deriveTable_eq_ok_iff.1 hderived
        -- Both names come from the same collector by the same rule.
        have heq : t.parent.table = u.name := Except.ok.inj (hname.symm.trans hname')
        obtain ⟨chain, hchain, hids⟩ := ih (hid₁ ▸ hg₁) hrest hderived
        refine ⟨t :: chain, .link hsome hu heq ?_ hchain, ?_⟩
        · rw [hcolumn, heq, hkey]
        · rw [List.map_cons, hids, hid]
          rfl

/-- The chain above a table of a derived schema. -/
theorem exists_ascent (hs : IsDerived source names language g s) (hapart : g.TopsApart)
    {t : Table} (ht : t ∈ s.tables) :
    ∃ chain, s.Ascent t chain ∧ (chain.map Table.nodegroup).Nodup := by
  obtain ⟨collector, hc, hd⟩ := hs.exists_collector ht
  obtain ⟨group, hg, hname, -⟩ := deriveTable_eq_ok_iff.1 hd
  obtain ⟨above, habove, hnodup⟩ :=
    Graph.above_of_qualify (Graph.isCollector_of_mem_collectors hc) hg hname
  obtain ⟨chain, hchain, hids⟩ := ascent_of_above hs hapart hg habove hd
  exact ⟨chain, hchain, hids ▸ hnodup⟩

/-! ### Every table leads to the root -/

/-- From every table of a derived schema the parent links lead to the root table: each link names
the first table of its nodegroup and that table's key, or the root table and its key, and no
nodegroup is met twice on the way. -/
theorem derive_leads_to_root (source : Source) (names : Names) (language : String) (g : Graph)
    (s : Schema) (hapart : g.TopsApart) (h : derive source names language g = .ok s) :
    ∀ t ∈ s.tables, ∃ chain, s.Ascent t chain ∧ (chain.map Table.nodegroup).Nodup := by
  intro t ht
  exact exists_ascent (isDerived_of_derive h) hapart ht

/-- A phase with a part inside, whose identifier belongs to two collectors. -/
def phasesWithParts : Graph where
  id := .ofNat 9
  name := .single "en" "Site"
  nodes := [
    { id := .ofNat 1, name := "Site", datatype := .semantic, isTop := true },
    { id := .ofNat 2, name := "Phase", datatype := .semantic, nodegroup := some (.ofNat 2) },
    { id := .ofNat 3, name := "Part", datatype := .string, nodegroup := some (.ofNat 3) },
    { id := .ofNat 3, name := "Room", datatype := .semantic, nodegroup := some (.ofNat 3) }]
  nodegroups := [{ id := .ofNat 3, parent := some (.ofNat 2) }, { id := .ofNat 2 }]

theorem derive_leads_to_root_phasesWithParts :
    ∃ s, derive (.ofPackage {}) {} "en" phasesWithParts = .ok s ∧
      s.tables.map Table.name = ["phase", "phase_part", "phase_room"] ∧
      ∀ t ∈ s.tables, ∃ chain, s.Ascent t chain ∧ (chain.map Table.nodegroup).Nodup := by
  have h : ((derive (.ofPackage {}) {} "en" phasesWithParts).map
      fun s => s.tables.map Table.name) = .ok ["phase", "phase_part", "phase_room"] := by
    decide +kernel
  obtain ⟨s, hs, htables⟩ := map_eq_ok_iff.1 h
  exact ⟨s, hs, htables, derive_leads_to_root _ _ _ _ s (by decide) hs⟩

end Schema

end ResourceTables
