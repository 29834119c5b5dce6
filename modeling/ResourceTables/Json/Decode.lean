import ResourceTables.Json.Value
import ResourceTables.Uuid

/-!
# ResourceTables.Json.Decode

Reading of typed data from JSON values: records, which are objects or arrays in the order of their
fields, variants by name, and the values in them.

Design points:

* A cause of failure is a value (`DecodeError`). Two causes have a wording of their own; all others
  only say that the value does not fit.
* A record's fields are all read before anything is decided (`Slot`). `Fields.settle` then picks the
  failure that counts: in an object the one whose name is first in order, in an array the one that
  stands first. Only when every field that is there could be read is a missing one a failure, and
  then the first one of the declaration counts (`Slot.get`).
-/

namespace ResourceTables.Json

/-- Why a value could not be read. -/
inductive DecodeError
  /-- A record lacks a field that has no default. -/
  | missingField (name : String)
  /-- A name is none of the expected ones. -/
  | unknownVariant (name : String) (expected : List String)
  /-- The value has another shape. -/
  | unfit
  deriving DecidableEq

/-- A name in grave accents. -/
def named (name : String) : String :=
  let accent := String.ofList [Char.ofNat 0x60]
  accent ++ name ++ accent

/-- The wording of a cause that has one. -/
def DecodeError.diagnostic? : DecodeError → Option String
  | missingField name => some ("missing field " ++ named name)
  | unknownVariant name expected =>
    let listed := match expected with
      | [a, b] => named a ++ " or " ++ named b
      | [a] => named a
      | names => "one of " ++ ", ".intercalate (names.map named)
    some ("unknown variant " ++ named name ++ ", expected " ++ listed)
  | unfit => none

/-- A reader of a type. -/
abbrev Decoder (α : Type) := Value → Except DecodeError α

/-! ### Plain values -/

namespace Decoder

/-- A string. -/
def string : Decoder String
  | .string s => .ok s
  | _ => .error .unfit

/-- `true` or `false`. -/
def bool : Decoder Bool
  | .bool b => .ok b
  | _ => .error .unfit

/-- A natural number of a width. -/
def unsigned (bits : Nat) : Decoder Nat
  | .number (.integer (.ofNat n)) =>
    if ResourceTables.Number.fitsUnsigned bits n then .ok n else .error .unfit
  | _ => .error .unfit

/-- An identifier in any of its forms. -/
def uuid : Decoder Uuid
  | .string s => match Uuid.parse? s with
    | some id => .ok id
    | none => .error .unfit
  | _ => .error .unfit

/-- A value or `null`. -/
def nullable {α : Type} (decode : Decoder α) : Decoder (Option α)
  | .null => .ok none
  | v => (decode v).map some

/-- An array whose items are read in order. -/
def list {α : Type} (decode : Decoder α) : Decoder (List α)
  | .array items => items.mapM decode
  | _ => .error .unfit

end Decoder

/-! ### Variants -/

/-- A variant by its name alone, or as an object of one member that holds its content. -/
def Decoder.variant (names : List String) : Decoder (String × Option Value)
  | .string s => if s ∈ names then .ok (s, none) else .error (.unknownVariant s names)
  | .object [(s, v)] => if s ∈ names then .ok (s, some v) else .error (.unknownVariant s names)
  | _ => .error .unfit

/-- One of several names, which carry no content. -/
def Decoder.name {α : Type} (choices : List (String × α)) : Decoder α := fun v => do
  match ← Decoder.variant (choices.map Prod.fst) v with
  | (s, none) | (s, some .null) => match choices.lookup s with
    | some a => .ok a
    | none => .error .unfit
  | _ => .error .unfit

/-- A record with a member that names its variant; the other members, or the items after the name,
are the variant's own. -/
def Decoder.tagged (tag : String) (names : List String) : Decoder (String × Value) := fun v => do
  let (name, content) ← match v with
    | .object members => match members.lookup tag with
      | some name => .ok (name, .object (members.filter (·.1 != tag)))
      | none => .error (.missingField tag)
    | .array (name :: rest) => .ok (name, .array rest)
    | .array [] => .error (.missingField tag)
    | _ => .error .unfit
  let name ← Decoder.string name
  if name ∈ names then .ok (name, content) else .error (.unknownVariant name names)

/-! ### Records -/

/-- What is done with items of an array beyond the last field. -/
inductive Surplus
  | refused
  | ignored
  deriving DecidableEq

/-- A record's members by name, or its items by position in the declaration. -/
inductive Fields
  | members (members : Members)
  | items (names : List String) (items : List Value) (surplus : Surplus)

/-- A field as it was found. -/
structure Slot (α : Type) where
  name : String
  outcome : Except DecodeError (Option α)

namespace Slot

variable {α : Type}

/-- The failure to read the field, if there is one. -/
def failure? (slot : Slot α) : String × Option DecodeError :=
  (slot.name, match slot.outcome with
    | .ok _ => none
    | .error e => some e)

/-- The field, which has no default. -/
def get (slot : Slot α) : Except DecodeError α :=
  match slot.outcome with
  | .ok (some a) => .ok a
  | .ok none => .error (.missingField slot.name)
  | .error e => .error e

/-- The field, or its default where it is not there. -/
def getD (slot : Slot α) (default : α) : α :=
  match slot.outcome with
  | .ok (some a) => a
  | _ => default

end Slot

namespace Fields

variable {α : Type}

/-- The fields of a value, given their names in the order of the declaration. -/
def of (names : List String) (v : Value) (surplus : Surplus := .refused) :
    Except DecodeError Fields :=
  match v with
  | .object ms => .ok (members ms)
  | .array vs => .ok (items names vs surplus)
  | _ => .error .unfit

/-- The value of a field. -/
def find? : Fields → String → Option Value
  | members ms, name => ms.lookup name
  | items names vs _, name => (names.zip vs).lookup name

/-- A field that may be missing. -/
def optional (fields : Fields) (name : String) (decode : Decoder α) : Slot α :=
  ⟨name, match fields.find? name with
    | some v => (decode v).map some
    | none => .ok none⟩

/-- A field that may not be missing; an array that ends before it does not fit. -/
def required (fields : Fields) (name : String) (decode : Decoder α) : Slot α :=
  ⟨name, match fields, fields.find? name with
    | _, some v => (decode v).map some
    | members _, none => .ok none
    | items .., none => .error .unfit⟩

/-- The failure that counts, among those of the fields in the order of the declaration. -/
def settle (fields : Fields) (failures : List (String × Option DecodeError)) :
    Except DecodeError Unit :=
  match fields with
  | members _ =>
    match (failures.mergeSort fun a b => a.1 ≤ b.1).findSome? Prod.snd with
    | some e => .error e
    | none => .ok ()
  | items names vs surplus =>
    match failures.findSome? Prod.snd with
    | some e => .error e
    | none => if surplus = .refused && names.length < vs.length then .error .unfit else .ok ()

end Fields

end ResourceTables.Json
