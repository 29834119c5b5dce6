import ResourceTables.Json.Value

/-!
# ResourceTables.Toml.Value

Values of TOML documents, and the rules by which a document's tables grow.

Design points:

* A table remembers how it came to be (`Origin`), since that decides what may be added to it: a
  table with a header of its own is closed to dotted keys, one that dotted keys made is closed to a
  header, and an inline table is closed to everything.
* Where a path leads through an array of tables, it leads through the last of them.
-/

namespace ResourceTables.Toml

/-- How a table came to be. -/
inductive Origin
  /-- By a header. -/
  | header
  /-- By the header of a table inside of it. -/
  | implied
  /-- By a dotted key. -/
  | dotted
  /-- Inside a value. -/
  | inline
  deriving DecidableEq

/-- A value. -/
inductive Value
  | string (s : String)
  | integer (n : Int)
  /-- A number with a fraction or an exponent, as it was written. -/
  | float (text : String)
  | boolean (b : Bool)
  /-- A date, a time or both, as it was written. -/
  | dateTime (text : String)
  | array (items : List Value)
  | table (origin : Origin) (members : List (String × Value))
  /-- Tables with a header each. -/
  | tables (items : List (List (String × Value)))

/-- The members of a table, in the order in which they were added. -/
abbrev Members := List (String × Value)

/-- Sets the value of a key, at its place or at the end. -/
def setMember (key : String) (value : Value) : Members → Members
  | [] => [(key, value)]
  | (k, v) :: rest => if k = key then (key, value) :: rest else (k, v) :: setMember key value rest

/-- Changes the table at the end of a path; nothing if the path or the change is refused. Tables
that are not there are made on the way. A dotted path does not lead into tables with a header. -/
def alter (dotted : Bool) (f : Origin → Members → Option (Origin × Members)) :
    (path : List String) → Origin → Members → Option (Origin × Members)
  | [], origin, members => f origin members
  | key :: path, origin, members =>
    let set (v : Value) := (origin, setMember key v members)
    match members.lookup key with
    | none => do
      let (o, ms) ← alter dotted f path (if dotted then .dotted else .implied) []
      return set (.table o ms)
    | some (.table o ms) => do
      if o = .inline || (dotted && o = .header) then none
      else
        let (o, ms) ← alter dotted f path o ms
        return set (.table o ms)
    | some (.tables items) =>
      match items.reverse with
      | [] => none
      | last :: before => do
        let (_, ms) ← alter dotted f path .header last
        return set (.tables (ms :: before).reverse)
    | some _ => none

/-- Adds a member under a key, which may be dotted, to a table. -/
def addMember (path : List String) (key : String) (value : Value) :
    Origin → Members → Option (Origin × Members) :=
  alter true (fun o ms =>
    if (!path.isEmpty && o != .dotted) || (ms.lookup key).isSome then none
    else some (o, ms ++ [(key, value)])) path

/-- Opens the table of a header: a new one, or one that is only implied so far. -/
def openTable (path : List String) (key : String) : Members → Option Members := fun root =>
  (alter false (fun o ms =>
    match ms.lookup key with
    | none => some (o, ms ++ [(key, .table .header [])])
    | some (.table .implied inner) => some (o, setMember key (.table .header inner) ms)
    | some _ => none) path .header root).map Prod.snd

/-- Adds a table to the array of tables of a header. -/
def openArrayTable (path : List String) (key : String) : Members → Option Members := fun root =>
  (alter false (fun o ms =>
    match ms.lookup key with
    | none => some (o, ms ++ [(key, .tables [[]])])
    | some (.tables items) => some (o, setMember key (.tables (items ++ [[]])) ms)
    | some _ => none) path .header root).map Prod.snd

mutual
/-- A value in terms of JSON. Of numbers that are no integers only their kind is kept, and a date is
a record of its own. -/
def Value.toJson : Value → Json.Value
  | .string s => .string s
  | .integer n => .number (.integer n)
  | .float _ => .number (.double ⟨0⟩)
  | .boolean b => .bool b
  | .dateTime text => .object [("date and time", .string text)]
  | .array items => .array (itemsToJson items)
  | .table _ members => .object (Json.Members.ofList (membersToJson members))
  | .tables items => .array (tablesToJson items)

/-- Items in terms of JSON. -/
def itemsToJson : List Value → List Json.Value
  | [] => []
  | v :: rest => v.toJson :: itemsToJson rest

/-- Members in terms of JSON. -/
def membersToJson : List (String × Value) → List (String × Json.Value)
  | [] => []
  | (key, v) :: rest => (key, v.toJson) :: membersToJson rest

/-- Tables in terms of JSON. -/
def tablesToJson : List (List (String × Value)) → List Json.Value
  | [] => []
  | members :: rest => .object (Json.Members.ofList (membersToJson members)) :: tablesToJson rest
end

end ResourceTables.Toml
