import ResourceTables.Proofs.Export.Rows
import ResourceTables.Proofs.Review.ParentTiles
import ResourceTables.Proofs.Schema.Links

/-!
# ResourceTables.Proofs.Export.ParentKeys

The links of exported rows against what a review has made sure of. A review only asks whether the
resource and the parent tile of a tile are somewhere in the package. For the key that a row links to
to be in the parent's table, the resource has to belong to the graph, the parent tile to the parent
nodegroup, and that nodegroup must have a table of its own (`Package.InPlace`); none of this follows
from a review (`Export.LeavesLinkOpen`).
-/

namespace ResourceTables

open Sql (Statement Store TableName Row InsertsKey)
open Rows (linkOf tileRow)

/-! ### Tiles in place -/

/-- The tile, of a nodegroup in the graph, points to where its row will link to. -/
structure Package.InPlace (p : Package) (g : Graph) (group : NodeGroup) (t : Tile) : Prop where
  /-- The resource belongs to the graph. -/
  resource : group.parent = none → ∀ r ∈ p.resources, r.id = t.resource → r.graph = g.id
  /-- The parent tile belongs to the parent nodegroup. -/
  parent : ∀ id, group.parent = some id → ∀ u ∈ p.tiles, t.parent = some u.id → u.nodegroup = id
  /-- The parent nodegroup is not collected by a top node. -/
  table : ∀ id, group.parent = some id → ∀ collector, g.collector? id = some collector →
    collector.isTop = false

/-- All tiles of the nodegroups of a package are in place. -/
def Package.TilesInPlace (p : Package) : Prop :=
  ∀ g ∈ p.graphs, ∀ group ∈ g.nodegroups, ∀ t ∈ p.tiles, t.nodegroup = group.id →
    p.InPlace g group t

instance (p : Package) (g : Graph) (group : NodeGroup) (t : Tile) :
    Decidable (p.InPlace g group t) :=
  decidable_of_iff
    ((group.parent = none → ∀ r ∈ p.resources, r.id = t.resource → r.graph = g.id) ∧
      (∀ id ∈ group.parent, ∀ u ∈ p.tiles, t.parent = some u.id → u.nodegroup = id) ∧
      ∀ id ∈ group.parent, ∀ collector ∈ g.collector? id, collector.isTop = false)
    ⟨fun ⟨hresource, hparent, htable⟩ => ⟨hresource, hparent, htable⟩,
      fun h => ⟨h.resource, h.parent, h.table⟩⟩

instance (p : Package) : Decidable p.TilesInPlace :=
  inferInstanceAs (Decidable (∀ g ∈ p.graphs, ∀ group ∈ g.nodegroups, ∀ t ∈ p.tiles,
    t.nodegroup = group.id → p.InPlace g group t))

/-! ### What a row links to -/

namespace Schema

/-- The key belongs to a row of the parent's table: to a resource if the nodegroup of the table is
not nested, and else to a tile of the parent nodegroup. -/
inductive ParentRow (source : Source) (s : Schema) (table : Table) : Uuid → Prop
  | resource {r : Resource} : r ∈ source.resources s.graph → table.parent.nodegroup = none →
      table.parent.table = s.rootTable → table.parent.column = s.rootKey →
      ParentRow source s table r.id
  | tile {u : Table} {t : Tile} : u ∈ s.tables → t ∈ source.tiles u.nodegroup →
      table.parent.nodegroup = some u.nodegroup → table.parent.table = u.name →
      table.parent.column = u.key → ParentRow source s table t.id

theorem ParentRow.linksToParent {source : Source} {s : Schema} {table : Table} {key : Uuid}
    (h : ParentRow source s table key) : s.LinksToParent table := by
  cases h with
  | resource _ hnone htable hcolumn => exact .root hnone htable hcolumn
  | tile hu _ hgroup htable hcolumn => exact .table hu hgroup htable hcolumn

end Schema

theorem mem_tiles_ofPackage {p : Package} {id : Uuid} {t : Tile} :
    t ∈ (Source.ofPackage p).tiles id ↔ t ∈ p.tiles ∧ t.nodegroup = id := by
  rw [Source.ofPackage_eq]
  simp

theorem mem_resources_ofPackage {p : Package} {id : Uuid} {r : Resource} :
    r ∈ (Source.ofPackage p).resources id ↔ r ∈ p.resources ∧ r.graph = id := by
  rw [Source.ofPackage_eq]
  simp

variable {p : Package} {o : ExportOptions}

/-- A tile that a review has settled and that is in place links to a row of the parent's table, and
the table nests as the nodegroup does. -/
theorem exists_parentRow {names : Names} {language : String} {g : Graph} {s : Schema}
    (hgroups : ((p.graphs.flatMap Graph.nodegroups).map NodeGroup.id).Nodup)
    (hplace : p.TilesInPlace) (hsettled : ∀ t ∈ p.tiles, p.IsSettled t) (hg : g ∈ p.graphs)
    (hs : Schema.IsDerived (.ofPackage p) names language g s) {table : Schema.Table}
    (htable : table ∈ s.tables) {t : Tile}
    (ht : t ∈ (Source.ofPackage p).tiles table.nodegroup) :
    (∃ group ∈ p.nodegroup? t.nodegroup, table.parent.nodegroup = group.parent) ∧
      ∃ key, linkOf table t = some key ∧ Schema.ParentRow (.ofPackage p) s table key := by
  obtain ⟨htile, hnodegroup⟩ := mem_tiles_ofPackage.1 ht
  obtain ⟨group, hgroup, hfound, hgroupId, hparent⟩ := exists_group_of_table hgroups hg hs htable
  rw [← hnodegroup] at hfound hgroupId
  obtain ⟨hnested, hcolumn, hlink⟩ := Schema.deriveParent_eq_ok_iff.1 hparent
  have hin := hplace g hg group hgroup t htile hgroupId
  -- The review has looked at the same nodegroup, as no other one has its identifier.
  obtain ⟨hresource, group', hgroup', htileParent⟩ := hsettled t htile
  cases hfound.symm.trans hgroup'
  refine ⟨⟨group, hgroup', hnested⟩, ?_⟩
  cases hp : group.parent with
  | none =>
    rw [hp] at hnested hlink
    obtain ⟨r, hr, hrid⟩ := hresource
    refine ⟨r.id, by rw [linkOf, hnested, hrid]; rfl, ?_⟩
    refine .resource ?_ hnested hlink ?_
    · exact mem_resources_ofPackage.2 ⟨hr, by rw [hs.graph_eq, hin.resource hp r hr hrid]⟩
    · rw [hcolumn, hlink, hs.rootKey_eq]
  | some id =>
    rw [hp] at hnested htileParent
    obtain ⟨u, hu, huid⟩ : ∃ u ∈ p.tiles, t.parent = some u.id := htileParent
    obtain ⟨v, hv, hvid, hname, hkey⟩ :=
      Schema.exists_parentTable hs hparent hp fun c hc => hin.table id hp c hc
    refine ⟨u.id, by rw [linkOf, hnested, huid]; rfl, ?_⟩
    refine .tile hv ?_ (by rw [hnested, hvid]) hname hkey
    exact mem_tiles_ofPackage.2 ⟨hu, by rw [hvid, hin.parent id hp u hu huid]⟩

/-! ### In the script -/

/-- The row that a key belongs to is inserted with the other rows of the schema. -/
theorem Schema.ParentRow.insertsKey {source : Source} {srid : Nat} {language : String} {s : Schema}
    {y : Rows.Yield} {table : Schema.Table} {key : Uuid} (h : ParentRow source s table key)
    (hy : Rows.materialize source srid language s = .ok y) :
    InsertsKey y.statements ⟨s.name, table.parent.table⟩ table.parent.column key := by
  cases h with
  | resource hr _ htable hcolumn =>
    rw [htable, hcolumn]
    exact ⟨_, Rows.insert_mem_of_resource hy hr, List.lookup_cons_self⟩
  | tile hu ht _ htable hcolumn =>
    rw [htable, hcolumn]
    exact ⟨_, Rows.insert_mem_of_tile hy hu ht, List.lookup_cons_self⟩

/-! ### In the tables -/

section

variable {srid : Nat} {language : String} {s : Schema} {y : Rows.Yield} {source : Source}
  {names : Names}

/-- In the tables of one schema, what is stored in a link column is a key of the parent's table. -/
theorem refers_of_parentRow {spoken : String} {g : Graph}
    (hs : Schema.IsDerived source names spoken g s) (hnames : s.tableNames.Nodup)
    (hcolumns : ∀ table ∈ s.tables, table.ColumnsApart)
    (hy : Rows.materialize source srid language s = .ok y)
    (hids : ∀ table ∈ s.tables, ((source.tiles table.nodegroup).map Tile.id).Nodup)
    (hparent : ∀ table ∈ s.tables, ∀ t ∈ source.tiles table.nodegroup,
      ∃ key, linkOf table t = some key ∧ Schema.ParentRow source s table key)
    {table : Schema.Table} (htable : table ∈ s.tables) :
    (Store.empty.run ((s.script names).statements .data ++ y.statements)).Refers
      ⟨s.name, table.name⟩ table.parent.column ⟨s.name, table.parent.table⟩
      table.parent.column := by
  have hapart : (s.rootTable :: s.tables.map Schema.Table.name).Nodup :=
    hnames.sublist ((List.sublist_append_left _ _).cons_cons _)
  have hlink {u : Schema.Table} (hu : u ∈ s.tables) {t : Tile}
      (ht : t ∈ source.tiles u.nodegroup) : u.key ≠ u.parent.column := by
    obtain ⟨key, -, hrow⟩ := hparent u hu t ht
    exact Schema.key_ne_link_of_linked hs hapart hu hrow.linksToParent.linked
  have hrows {u : Schema.Table} (hu : u ∈ s.tables) {t : Tile}
      (ht : t ∈ source.tiles u.nodegroup) :
      Store.empty.run ((s.script names).statements .data ++ y.statements) ⟨s.name, u.name⟩ =
        (source.tiles u.nodegroup).map (tileRow srid language u) :=
    Rows.run_table hy hnames hu (hcolumns u hu) (hlink hu ht) (hids u hu)
  intro row hrow
  -- A table whose nodegroup has no tiles has no rows.
  by_cases htiles : source.tiles table.nodegroup = []
  · rw [Rows.run_table_eq hy hnames htable, Rows.tableStatements, htiles] at hrow
    cases hrow
  obtain ⟨t₀, ht₀⟩ := List.exists_mem_of_ne_nil _ htiles
  rw [hrows htable ht₀] at hrow
  obtain ⟨t, ht, rfl⟩ := List.mem_map.1 hrow
  obtain ⟨key, hkey, hparentRow⟩ := hparent table htable t ht
  have hstored : tileRow srid language table t table.parent.column = .uuid key := by
    rw [tileRow, if_neg (hlink htable ht).symm, if_pos rfl, hkey]
    rfl
  rw [hstored]
  right
  cases hparentRow with
  | resource hr _ hname hcolumn =>
    rw [hname, hcolumn, Rows.run_rootTable hy hnames]
    refine ⟨_, List.mem_map_of_mem hr, ?_⟩
    rw [Row.ofFields, List.lookup_cons_self]
    rfl
  | @tile u t' hu ht' _ hname hcolumn =>
    rw [hname, hcolumn, hrows hu ht']
    refine ⟨_, List.mem_map_of_mem ht', ?_⟩
    rw [tileRow, if_pos rfl]

/-- Without the rows of resources and tiles the tables of nodegroups are empty. -/
theorem run_table_of_noRows (hnames : s.tableNames.Nodup) {table : Schema.Table}
    (htable : table ∈ s.tables) :
    Store.empty.run ((s.script names).statements .data) ⟨s.name, table.name⟩ = [] := by
  obtain ⟨-, -, hapart, -⟩ := Rows.apart_of_nodup hnames
  rw [Store.run_apply, Schema.statements_data]
  refine Rows.rowsAfter_lookups_of_ne ?_
  intro p hp heq
  exact hapart table htable p hp (congrArg TableName.table heq).symm

end

/-! ### The whole export -/

/-- An export of a package in which a review finds nothing and in which all tiles are in place. Every
row of a tile links to a key for which the script inserts a row in the parent's table, which is the
root table if the nodegroup is not nested and else a table of the parent nodegroup. If no names
collide either (of schemas, of the tables of one, of the columns of one table), all foreign keys on
link columns hold once the rows are written to empty tables. -/
theorem export_parent_keys (p : Package) (o : ExportOptions) (e : Export)
    (warnings : List Rows.Warning)
    (hgroups : ((p.graphs.flatMap Graph.nodegroups).map NodeGroup.id).Nodup)
    (htiles : (p.tiles.map Tile.id).Nodup) (hplace : p.TilesInPlace)
    (hreport : (Report.of p).size = 0) (h : export? (.ofPackage p) o = (.ok e, warnings)) :
    (o.includeRows = true → ∀ s ∈ e.schemas, ∀ table ∈ s.tables, ∀ t ∈ p.tiles,
      t.nodegroup = table.nodegroup →
        (∃ group ∈ p.nodegroup? t.nodegroup, table.parent.nodegroup = group.parent) ∧
        s.LinksToParent table ∧ ∃ key, linkOf table t = some key ∧
          .insert ⟨s.name, table.name⟩
              [(table.key, .uuid t.id), (table.parent.column, .uuid key)] ∈
            e.script.statements .data ∧
          InsertsKey (e.script.statements .data) ⟨s.name, table.parent.table⟩
            table.parent.column key) ∧
    ((e.schemas.map Schema.name).Nodup → (∀ s ∈ e.schemas, s.tableNames.Nodup) →
      (∀ s ∈ e.schemas, ∀ table ∈ s.tables, table.ColumnsApart) →
      ∀ s ∈ e.schemas, ∀ table ∈ s.tables,
        (Store.empty.run (e.script.statements .data)).Refers ⟨s.name, table.name⟩
          table.parent.column ⟨s.name, table.parent.table⟩ table.parent.column) := by
  obtain ⟨parts, hgraphs, hparts, hschemas, hscript, -⟩ := exists_parts h
  obtain ⟨-, hsettled⟩ := Report.size_eq_zero_iff.1 hreport
  have hparent (part : Part) (hpart : part ∈ parts) (table : Schema.Table)
      (htable : table ∈ part.schema.tables) (t : Tile)
      (ht : t ∈ (Source.ofPackage p).tiles table.nodegroup) :
      (∃ group ∈ p.nodegroup? t.nodegroup, table.parent.nodegroup = group.parent) ∧
        ∃ key, linkOf table t = some key ∧
          Schema.ParentRow (.ofPackage p) part.schema table key := by
    have hselected : part.graph ∈ selectedGraphs (.ofPackage p) o :=
      hgraphs ▸ List.mem_map_of_mem hpart
    exact exists_parentRow hgroups hplace hsettled (List.mem_of_mem_filter hselected)
      (Schema.isDerived_of_derive (hparts part hpart).derived) htable ht
  rw [hscript, statements_data_parts, hschemas]
  constructor
  · intro hrows s hs table htable t ht hgroup
    obtain ⟨part, hpart, rfl⟩ := List.mem_map.1 hs
    have hmem := mem_tiles_ofPackage.2 ⟨ht, hgroup⟩
    obtain ⟨hnested, key, hkey, hrow⟩ := hparent part hpart table htable t hmem
    have hy : Rows.materialize (.ofPackage p) o.srid o.language part.schema = .ok part.rows := by
      simpa [hrows] using (hparts part hpart).rows
    have hdata : part.rows.statements ⊆ parts.flatMap fun q => (q.script o).statements .data := by
      intro st hst
      refine List.mem_flatMap.2 ⟨part, hpart, ?_⟩
      rw [Part.statements_data]
      exact List.mem_append_right _ hst
    obtain ⟨fields, hinsert, hlookup⟩ := hrow.insertsKey hy
    refine ⟨hnested, hrow.linksToParent, key, hkey, hdata ?_, fields, hdata hinsert, hlookup⟩
    have htile := Rows.insert_mem_of_tile hy htable hmem
    rw [hkey] at htile
    exact htile
  · intro hschemaNames htableNames hcolumns s hs table htable
    obtain ⟨part, hpart, rfl⟩ := List.mem_map.1 hs
    have hnames := htableNames part.schema hs
    rw [List.map_map] at hschemaNames
    have happly := run_export_apply hparts hschemaNames hpart
    intro row hrow
    rw [happly] at hrow ⊢
    rcases (hparts part hpart).rows_cases with ⟨-, hy⟩ | ⟨-, hempty⟩
    · refine refers_of_parentRow (Schema.isDerived_of_derive (hparts part hpart).derived) hnames
        (hcolumns part.schema hs) hy ?ids ?rows htable row hrow
      case ids =>
        intro table _
        rw [Source.ofPackage_eq]
        exact htiles.sublist (List.filter_sublist.map Tile.id)
      case rows => exact fun table htable t ht => (hparent part hpart table htable t ht).2
    · rw [hempty, List.append_nil, run_table_of_noRows hnames htable] at hrow
      cases hrow

/-- Every row of a site with one phase and one part links to a row that is there. -/
theorem export_parent_keys_sitePackage :
    (Report.of sitePackage).size = 0 ∧ sitePackage.TilesInPlace ∧
      ∃ e warnings, export? (.ofPackage sitePackage) {} = (.ok e, warnings) ∧
        ∃ s ∈ e.schemas, ∃ table ∈ s.tables, table.nodegroup = .ofNat 3 ∧
          s.LinksToParent table ∧
          (Store.empty.run (e.script.statements .data)).Refers ⟨s.name, table.name⟩
            table.parent.column ⟨s.name, table.parent.table⟩ table.parent.column := by
  have hreport : (Report.of sitePackage).size = 0 := by
    rw [Report.size_eq_zero_iff]
    decide +kernel
  have hplace : sitePackage.TilesInPlace := by decide
  have h : ∃ e ∈ (export? (.ofPackage sitePackage) {}).1.toOption,
      ((e.schemas.map Schema.name).Nodup ∧ (∀ s ∈ e.schemas, s.tableNames.Nodup) ∧
        ∀ s ∈ e.schemas, ∀ table ∈ s.tables, table.ColumnsApart) ∧
        ∃ s ∈ e.schemas, ∃ table ∈ s.tables, table.nodegroup = .ofNat 3 := by
    rw [Source.ofPackage_eq]
    decide +kernel
  obtain ⟨e, he, ⟨hschemas, hnames, hcolumns⟩, s, hs, table, htable, hgroup⟩ := h
  have hexport : export? (.ofPackage sitePackage) {} = (.ok e, _) :=
    Prod.ext (mem_toOption_iff.1 he) rfl
  obtain ⟨hlinks, hrefers⟩ :=
    export_parent_keys sitePackage {} e _ (by decide) (by decide) hplace hreport hexport
  obtain ⟨-, hparent, -⟩ := hlinks rfl s hs table htable
    { id := .ofNat 22, resource := .ofNat 20, nodegroup := .ofNat 3, parent := some (.ofNat 21)
      data := [((Uuid.ofNat 4).toString, .string (Uuid.ofNat 5).toString)] }
    (by simp [sitePackage]) hgroup.symm
  exact ⟨hreport, hplace, e, _, hexport, s, hs, table, htable, hgroup, hparent,
    hrefers hschemas hnames hcolumns s hs table htable⟩

/-! ### Links that a review lets pass -/

/-- A package that a review finds nothing wrong with, whose graphs, nodegroups, resources and tiles
have identifiers of their own, and whose graphs are all exported. -/
def Package.IsClean (p : Package) : Prop :=
  (Report.of p).size = 0 ∧ (p.graphs.map Graph.id).Nodup ∧
    ((p.graphs.flatMap Graph.nodegroups).map NodeGroup.id).Nodup ∧
    (p.resources.map Resource.id).Nodup ∧ (p.tiles.map Tile.id).Nodup ∧
    ∀ g ∈ p.graphs, ({} : ExportOptions).selects g = true

instance (p : Package) : Decidable p.IsClean :=
  decidable_of_iff (((∀ g ∈ p.graphs, g.issues = []) ∧ ∀ t ∈ p.tiles, p.IsSettled t) ∧
      (p.graphs.map Graph.id).Nodup ∧
      ((p.graphs.flatMap Graph.nodegroups).map NodeGroup.id).Nodup ∧
      (p.resources.map Resource.id).Nodup ∧ (p.tiles.map Tile.id).Nodup ∧
      ∀ g ∈ p.graphs, ({} : ExportOptions).selects g = true)
    (and_congr Report.size_eq_zero_iff.symm Iff.rfl)

/-- A row of a tile links to a key for which no row is inserted in the parent's table. -/
def Export.LeavesLinkOpen (e : Export) (p : Package) : Prop :=
  ∃ s ∈ e.schemas, ∃ table ∈ s.tables, ∃ t ∈ p.tiles, t.nodegroup = table.nodegroup ∧
    ∃ key ∈ linkOf table t,
      .insert ⟨s.name, table.name⟩ [(table.key, .uuid t.id), (table.parent.column, .uuid key)] ∈
        e.script.statements .data ∧
      ¬ InsertsKey (e.script.statements .data) ⟨s.name, table.parent.table⟩ table.parent.column key

instance (e : Export) (p : Package) : Decidable (e.LeavesLinkOpen p) :=
  inferInstanceAs (Decidable (∃ s ∈ e.schemas, ∃ table ∈ s.tables, ∃ t ∈ p.tiles,
    t.nodegroup = table.nodegroup ∧ ∃ key ∈ linkOf table t,
      .insert ⟨s.name, table.name⟩ [(table.key, .uuid t.id), (table.parent.column, .uuid key)] ∈
        e.script.statements .data ∧
      ¬ InsertsKey (e.script.statements .data) ⟨s.name, table.parent.table⟩ table.parent.column
        key))

/-- A part whose parent tile is another part. -/
def strayPackage : Package :=
  { sitePackage with tiles := sitePackage.tiles ++ [
      { id := .ofNat 23, resource := .ofNat 20, nodegroup := .ofNat 3, parent := some (.ofNat 22) }] }

/-- A graph of one top node. -/
def findGraph : Graph where
  id := .ofNat 19
  name := .single "en" "Find"
  isResource := true
  nodes := [{ id := .ofNat 11, name := "Find", datatype := .semantic, isTop := true }]

/-- A phase that belongs to a find. -/
def foreignPackage : Package where
  graphs := [siteGraph, findGraph]
  resources := [{ id := .ofNat 30, graph := .ofNat 19 }]
  tiles := [{ id := .ofNat 21, resource := .ofNat 30, nodegroup := .ofNat 2 }]

/-- A graph in which a phase nests under the nodegroup of the top node. -/
def topNodegroupGraph : Graph where
  id := .ofNat 9
  name := .single "en" "Site"
  isResource := true
  nodes := [
    { id := .ofNat 1, name := "Site", datatype := .semantic, nodegroup := some (.ofNat 1)
      isTop := true },
    { id := .ofNat 2, name := "Phase", datatype := .date, nodegroup := some (.ofNat 2) }]
  nodegroups := [{ id := .ofNat 1 }, { id := .ofNat 2, parent := some (.ofNat 1) }]

/-- A phase under a tile of the top node. -/
def topNodegroupPackage : Package where
  graphs := [topNodegroupGraph]
  resources := [{ id := .ofNat 20, graph := .ofNat 9 }]
  tiles := [{ id := .ofNat 21, resource := .ofNat 20, nodegroup := .ofNat 1 },
    { id := .ofNat 22, resource := .ofNat 20, nodegroup := .ofNat 2, parent := some (.ofNat 21) }]

/-- A part of a kind that is not among the options. -/
def otherKindPackage : Package :=
  { sitePackage with tiles := [
      { id := .ofNat 21, resource := .ofNat 20, nodegroup := .ofNat 2 },
      { id := .ofNat 22, resource := .ofNat 20, nodegroup := .ofNat 3, parent := some (.ofNat 21)
        data := [((Uuid.ofNat 4).toString, .string (Uuid.ofNat 77).toString)] }] }

/-- A site whose phases have a column of the name of the link to the site. -/
def linkColumnGraph : Graph where
  id := .ofNat 9
  name := .single "en" "Site"
  isResource := true
  nodes := [
    { id := .ofNat 1, name := "Site", datatype := .semantic, isTop := true },
    { id := .ofNat 2, name := "Phase", datatype := .semantic, nodegroup := some (.ofNat 2) },
    { id := .ofNat 3, name := "Site id", datatype := .string, nodegroup := some (.ofNat 2) }]
  nodegroups := [{ id := .ofNat 2 }]

/-- A phase with a text in that column. -/
def linkColumnPackage : Package where
  graphs := [linkColumnGraph]
  resources := [{ id := .ofNat 20, graph := .ofNat 9 }]
  tiles := [
    { id := .ofNat 21, resource := .ofNat 20, nodegroup := .ofNat 2
      data := [((Uuid.ofNat 3).toString, .string "S-1")] }]

/-- A site with two tables of one name, of the parts of its phases and of its own. -/
def sameTableGraph : Graph where
  id := .ofNat 9
  name := .single "en" "Site"
  isResource := true
  nodes := [
    { id := .ofNat 1, name := "Site", datatype := .semantic, isTop := true },
    { id := .ofNat 2, name := "Phase", datatype := .semantic, nodegroup := some (.ofNat 2) },
    { id := .ofNat 3, name := "Part", datatype := .semantic, nodegroup := some (.ofNat 3) },
    { id := .ofNat 4, name := "Phase part", datatype := .semantic, nodegroup := some (.ofNat 4) },
    { id := .ofNat 5, name := "Phase id", datatype := .string, nodegroup := some (.ofNat 4) }]
  nodegroups := [{ id := .ofNat 2 }, { id := .ofNat 3, parent := some (.ofNat 2) },
    { id := .ofNat 4 }]

/-- A part of the site itself, with a text in the column of the name of the other table's link. -/
def sameTablePackage : Package where
  graphs := [sameTableGraph]
  resources := [{ id := .ofNat 20, graph := .ofNat 9 }]
  tiles := [
    { id := .ofNat 21, resource := .ofNat 20, nodegroup := .ofNat 4
      data := [((Uuid.ofNat 5).toString, .string "P-1")] }]

/-- Another site, whose parts have a table of the same name but are not nested. -/
def otherSiteGraph : Graph where
  id := .ofNat 19
  name := .single "en" "Site"
  isResource := true
  nodes := [
    { id := .ofNat 11, name := "Site", datatype := .semantic, isTop := true },
    { id := .ofNat 12, name := "Phase part", datatype := .semantic, nodegroup := some (.ofNat 12) },
    { id := .ofNat 13, name := "Phase id", datatype := .string, nodegroup := some (.ofNat 12) }]
  nodegroups := [{ id := .ofNat 12 }]

/-- A part of the other site, with a text in the column of the name of the first site's link. -/
def sameSchemaPackage : Package where
  graphs := [siteGraph, otherSiteGraph]
  resources := [{ id := .ofNat 30, graph := .ofNat 19 }]
  tiles := [
    { id := .ofNat 21, resource := .ofNat 30, nodegroup := .ofNat 12
      data := [((Uuid.ofNat 13).toString, .string "P-1")] }]

/-- A foreign key of the script does not hold once the rows are written to empty tables. -/
def Export.BreaksForeignKey (e : Export) (t : TableName) (name column : String)
    (target : TableName) (targetColumn : String) : Prop :=
  .addForeignKey t name column target targetColumn ∈ e.script.statements .constraints ∧
    ¬ (Store.empty.run (e.script.statements .data)).Refers t column target targetColumn

instance (e : Export) (t : TableName) (name column : String) (target : TableName)
    (targetColumn : String) : Decidable (e.BreaksForeignKey t name column target targetColumn) :=
  inferInstanceAs (Decidable (_ ∧ _))

/-- It is that of a link column. -/
def Export.BreaksLink (e : Export) : Prop :=
  ∃ s ∈ e.schemas, ∃ table ∈ s.tables,
    e.BreaksForeignKey ⟨s.name, table.name⟩ (({} : Names).foreignKey table.parent.column)
      table.parent.column ⟨s.name, table.parent.table⟩ table.parent.column

/-- It is that of a lookup column. -/
def Export.BreaksLookup (e : Export) : Prop :=
  ∃ s ∈ e.schemas, ∃ table ∈ s.tables, ∃ c ∈ table.columns, ∃ l ∈ c.lookup,
    e.BreaksForeignKey ⟨s.name, table.name⟩ (({} : Names).foreignKey c.name) c.name
      ⟨s.name, l.name⟩ Schema.lookupKey

instance (e : Export) : Decidable e.BreaksLink :=
  inferInstanceAs (Decidable (∃ s ∈ e.schemas, ∃ table ∈ s.tables,
    e.BreaksForeignKey ⟨s.name, table.name⟩ (({} : Names).foreignKey table.parent.column)
      table.parent.column ⟨s.name, table.parent.table⟩ table.parent.column))

instance (e : Export) : Decidable e.BreaksLookup :=
  inferInstanceAs (Decidable (∃ s ∈ e.schemas, ∃ table ∈ s.tables, ∃ c ∈ table.columns,
    ∃ l ∈ c.lookup, e.BreaksForeignKey ⟨s.name, table.name⟩ (({} : Names).foreignKey c.name) c.name
      ⟨s.name, l.name⟩ Schema.lookupKey))

/-- A review lets links pass that lead nowhere: to a tile of another nodegroup, to a resource of
another graph, and to a tile of a nodegroup without a table. Where names collide, a value is written
into a link column. And as a review does not look at values at all, a lookup column may hold one that
its lookup table has no row for. -/
theorem not_export_parent_keys :
    (∀ p ∈ [strayPackage, foreignPackage, topNodegroupPackage], p.IsClean ∧
      ∃ e warnings, export? (.ofPackage p) {} = (.ok e, warnings) ∧ e.LeavesLinkOpen p) ∧
    (∀ p ∈ [linkColumnPackage, sameTablePackage, sameSchemaPackage], p.IsClean ∧ p.TilesInPlace ∧
      ∃ e warnings, export? (.ofPackage p) {} = (.ok e, warnings) ∧ e.BreaksLink) ∧
    otherKindPackage.IsClean ∧ otherKindPackage.TilesInPlace ∧
      ∃ e warnings, export? (.ofPackage otherKindPackage) {} = (.ok e, warnings) ∧
        e.BreaksLookup := by
  have hexport {p : Package} {P : Export → Prop}
      (h : ∃ e ∈ (export? (.ofPackage p) {}).1.toOption, P e) :
      ∃ e warnings, export? (.ofPackage p) {} = (.ok e, warnings) ∧ P e := by
    obtain ⟨e, he, hP⟩ := h
    exact ⟨e, _, Prod.ext (mem_toOption_iff.1 he) rfl, hP⟩
  simp only [List.forall_mem_cons, List.not_mem_nil, false_imp_iff, implies_true, and_true]
  refine ⟨⟨⟨by decide +kernel, hexport ?_⟩, ⟨by decide +kernel, hexport ?_⟩,
    ⟨by decide +kernel, hexport ?_⟩⟩, ⟨⟨by decide +kernel, by decide, hexport ?_⟩,
    ⟨by decide +kernel, by decide, hexport ?_⟩, ⟨by decide +kernel, by decide, hexport ?_⟩⟩,
    by decide +kernel, by decide, hexport ?_⟩ <;>
  · rw [Source.ofPackage_eq]
    decide +kernel

end ResourceTables
