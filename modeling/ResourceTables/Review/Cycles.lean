import ResourceTables.Graph

/-!
# ResourceTables.Review.Cycles

Circles in the nesting of nodegroups. Two nodegroups are in one circle if each is above the other,
and a nodegroup is in a circle of its own if it is above itself.

Design points:

* The identifiers of nodegroups may repeat, so one nodegroup may have several parents. Parents that
  are no nodegroups of the graph do not count.
* What is above a nodegroup is found level by level (`above`). Each level but the last one finds a
  nodegroup that was not found before, so the levels are bounded by the number of nodegroups.
* Circles are told in the order in which a walk upwards from every nodegroup leaves them
  (`leavingOrder`): one that others lead into comes before those.
-/

namespace ResourceTables.Graph

/-- The known parents of a nodegroup, later ones first. -/
def parents (g : Graph) (id : Uuid) : List Uuid :=
  (g.nodegroups.filterMap fun group =>
    if group.id = id then group.parent.filter fun p => (g.nodegroup? p).isSome else none).reverse

/-! ### What is above -/

/-- The nodegroups found from those of the last level, together with all found before. -/
def aboveFrom (g : Graph) : (fuel : Nat) → (level found : List Uuid) → List Uuid
  | 0, _, found => found
  | fuel + 1, level, found =>
    match ((level.flatMap g.parents).filter fun id => id ∉ found).eraseDups with
    | [] => found
    | next => aboveFrom g fuel next (found ++ next)

/-- The nodegroups that one or more steps upwards lead to. -/
def above (g : Graph) (id : Uuid) : List Uuid := g.aboveFrom g.nodegroups.length [id] []

/-- The nodegroups in a circle with a given one. -/
def circle (g : Graph) (id : Uuid) : List Uuid :=
  (g.above id).filter fun other => id ∈ g.above other

/-! ### Order -/

/-- A walk upwards: where it has been, and what it has left, last one first. -/
structure Walk where
  seen : List Uuid := []
  left : List Uuid := []

/-- Walks to a nodegroup and, unless it was seen before, on to its parents, and then leaves it. -/
def visit (g : Graph) : (fuel : Nat) → Walk → Uuid → Walk
  | 0, w, _ => w
  | fuel + 1, w, id =>
    if id ∈ w.seen then w
    else
      let w := (g.parents id).foldl (visit g fuel) { w with seen := id :: w.seen }
      { w with left := id :: w.left }

/-- The nodegroups in the order in which a walk from each of them leaves them. -/
def leavingOrder (g : Graph) : List Uuid :=
  ((g.nodegroups.map NodeGroup.id).foldl (g.visit (g.nodegroups.length + 1)) {}).left.reverse

/-! ### Circles -/

/-- The circles of nodegroups in a given order, each where its last nodegroup stands. -/
def cyclesIn (g : Graph) : List Uuid → List (List Uuid)
  | [] => []
  | id :: rest =>
    let members := g.circle id
    if members.isEmpty || rest.any (members.contains ·) then g.cyclesIn rest
    else members.mergeSort Uuid.le :: g.cyclesIn rest

/-- The circles of a graph's nodegroups, each in ascending order. -/
def cycles (g : Graph) : List (List Uuid) := g.cyclesIn g.leavingOrder

end ResourceTables.Graph
