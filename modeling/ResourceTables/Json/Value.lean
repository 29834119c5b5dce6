import ResourceTables.Number.Double

/-!
# ResourceTables.Json.Value

JSON values. A number is an integer or a double and stays what it was read as. The members of an
object that was read stand in ascending order of their names, each name once; `Members.insert`
keeps it so.

The order of names is the order of code points, which is also the order of their UTF-8 bytes.
-/

namespace ResourceTables.Json

/-- A number as read: an integer that fits sixty-four bits, or a double. -/
inductive Number
  | integer (n : Int)
  | double (d : Number.Double)
  deriving DecidableEq

/-- A JSON value. -/
inductive Value
  | null
  | bool (b : Bool)
  | number (n : Number)
  | string (s : String)
  | array (items : List Value)
  | object (members : List (String × Value))

instance : Inhabited Value := ⟨.null⟩

/-- The members of an object. -/
abbrev Members := List (String × Value)

namespace Members

/-- Sets a member: at its place in the order of names, or in place of the member of that name. -/
def insert (name : String) (value : Value) : Members → Members
  | [] => [(name, value)]
  | (n, v) :: rest =>
    if name < n then (name, value) :: (n, v) :: rest
    else if name = n then (name, value) :: rest
    else (n, v) :: insert name value rest

/-- The members in order; of several with one name the last one counts. -/
def ofList (members : List (String × Value)) : Members :=
  members.foldl (fun ms (name, value) => insert name value ms) []

end Members

namespace Value

/-- The member of an object; nothing for any other value. -/
def get? (v : Value) (name : String) : Option Value :=
  match v with
  | object members => members.lookup name
  | _ => none

/-- The text of a string. -/
def text? : Value → Option String
  | string s => some s
  | _ => none

/-- The items of an array. -/
def items? : Value → Option (List Value)
  | array items => some items
  | _ => none

/-- Whether the value is `null`. -/
def isNull : Value → Bool
  | null => true
  | _ => false

/-- A natural number as a value. -/
def nat (n : Nat) : Value := number (.integer n)

/-- An optional value, `null` if there is none. -/
def orNull {α : Type} (f : α → Value) : Option α → Value
  | some a => f a
  | none => null

end Value

end ResourceTables.Json
