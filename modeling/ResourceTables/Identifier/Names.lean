import ResourceTables.Identifier.Slug
import ResourceTables.ExportError
import ResourceTables.Graph

/-!
# ResourceTables.Identifier.Names

The identifiers of a derived schema: of tables, key columns, lookup tables, spatial indexes and
foreign keys. All of them but the key columns are slugs of at most a given length.

Design points:

* A node is qualified by the names of the collectors above it (`Graph.ancestry`). The walk upwards
  goes to a nodegroup that was not visited before or stops, so it ends after at most as many steps
  as there are nodegroups.
* In a name for a column the column comes last and is kept; only the table's part is shortened.
-/

namespace ResourceTables

/-! ### Ancestry -/

/-- The collectors of the nodegroups from `parent` upwards, nearest first. It fails at the first
nodegroup that was visited before, is not known or has no collector. -/
def Graph.ancestry (g : Graph) (visited : List Uuid) :
    (parent : Option Uuid) → Except ExportError (List Node)
  | none => .ok []
  | some id =>
    if _hv : id ∈ visited then .error (.cyclicNodegroups id)
    else match _hg : g.nodegroup? id with
      | none => .error (.unknownNodegroup id)
      | some group => match g.collector? id with
        | none => .error (.missingCollector id)
        | some collector => (ancestry g (id :: visited) group.parent).map (collector :: ·)
termination_by (g.nodegroups.filter fun group => group.id ∉ visited).length
decreasing_by
  have hmem := List.mem_of_find?_eq_some _hg
  have hid : group.id = id := by simpa using List.find?_some _hg
  have hsub : (g.nodegroups.filter fun x => x.id ∉ id :: visited) =
      (g.nodegroups.filter fun x => x.id ∉ visited).filter fun x => x.id ≠ id := by
    rw [List.filter_filter]
    congr 1
    funext x
    simp
  rw [hsub]
  exact List.length_filter_lt_length_iff_exists.2
    ⟨group, List.mem_filter.2 ⟨hmem, by simpa [hid] using _hv⟩, by simp [hid]⟩

/-- The name of a node after the names of the collectors above its nodegroup, from the top down. -/
def Graph.qualifiedName (g : Graph) (node : Node) : Except ExportError String :=
  match node.nodegroup with
  | none => .ok node.name
  | some start => match g.nodegroup? start with
    | none => .error (.unknownNodegroup start)
    | some group => (g.ancestry [start] group.parent).map fun above =>
      "-".intercalate ((node :: above).reverse.map Node.name)

/-! ### Names -/

/-- The names of a schema, given how long they may be. -/
structure Names where
  maxLength : Nat := 60

namespace Names

/-- The slug of a name. -/
def slug (names : Names) (name : String) : String := slugify name names.maxLength

/-- The name of a node that is unique in its graph as far as the names in it are. -/
def qualify (names : Names) (g : Graph) (node : Node) : Except ExportError String :=
  (g.qualifiedName node).map names.slug

/-- The primary key column of a table. -/
def keyColumn (_ : Names) (table : String) : String := table ++ "_id"

/-- The name of a foreign key on a column. -/
def foreignKey (names : Names) (column : String) : String := names.slug ("fk-" ++ column)

/-- The beginning of a table's slug that leaves room for a label, a column's slug and two
separators. -/
def tablePart (names : Names) (label table column : String) : String :=
  let room := names.maxLength - (label.length + column.length + 2)
  String.ofList (Slug.cut room (names.slug table).toList)

/-- A label, a table and a column in one name. -/
def perColumn (names : Names) (label table column : String) : String :=
  let column := names.slug column
  let table := names.tablePart label table column
  names.slug (if table.isEmpty then label ++ "-" ++ column
    else label ++ "-" ++ table ++ "-" ++ column)

/-- The table of the values a column may have. -/
def lookupTable (names : Names) (table column : String) : String :=
  names.perColumn "dom" table column

/-- The spatial index of a column. -/
def spatialIndex (names : Names) (table column : String) : String :=
  names.perColumn "gix" table column

end Names

end ResourceTables
