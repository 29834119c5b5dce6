import ResourceTables.Json.Value
import ResourceTables.Text.Decimal
import ResourceTables.Yaml.Node
import ResourceTables.Yaml.Token.Lexer

/-!
# ResourceTables.Yaml.Document

The value of a YAML document as a JSON value.

Design points:

* A plain scalar without a tag is what its text spells: null, a truth value, a number, or else a
  string. The tags of the core schema ask for one of these; any other scalar is a string.
* A key is the text of a scalar, whatever it spells. Of several pairs with one key the last counts.
* Collections may be nested `maxDepth` deep, also by way of aliases, and aliases may be followed
  `followedPerNode` times as often as the nodes of the document count. A document that goes beyond
  has no value, so the value of any document is found in bounded time.
-/

namespace ResourceTables.Yaml

open Json (Value)

/-! ### What a scalar spells -/

/-- Whether a text spells null. -/
def isNull (text : String) : Bool := ["null", "Null", "NULL", "~"].contains text

/-- The truth value a text spells. -/
def bool? (text : String) : Option Bool :=
  if ["true", "True", "TRUE"].contains text then some true
  else if ["false", "False", "FALSE"].contains text then some false
  else none

/-- The number that the digits of a base spell. -/
def inBase? (base : Nat) (cs : List Char) : Option Nat :=
  if cs.isEmpty then none
  else cs.foldlM (fun n c => match Text.hexValue? c with
    | some v => if v < base then some (base * n + v) else none
    | none => none) 0

/-- Whether a text is a zero with more digits after it, which is no number. -/
def isPadded (cs : List Char) : Bool :=
  match Text.afterSign cs with
  | '0' :: c :: rest => (c :: rest).all Char.isDigit
  | _ => false

/-- The magnitude of an integer after its sign, in one of four bases. -/
def magnitude? : List Char → Option Nat
  | '0' :: 'x' :: cs => inBase? 16 cs
  | '0' :: 'o' :: cs => inBase? 8 cs
  | '0' :: 'b' :: cs => inBase? 2 cs
  | cs => if isPadded cs then none else inBase? 10 cs

/-- The integer a text spells. -/
def integer? (text : String) : Option Int :=
  match text.toList with
  | '-' :: cs => (magnitude? cs).map fun n => -(n : Int)
  | '+' :: cs => (magnitude? cs).map Int.ofNat
  | cs => (magnitude? cs).map Int.ofNat

/-- The finite number a text spells with a point or an exponent, or without. -/
def double? (text : String) : Option Number.Double :=
  let cs := text.toList
  (Text.decimal? (Text.afterSign cs)).bind fun (digits, exponent) =>
    Number.Double.ofDecimal (cs.head? = some '-') digits exponent

/-- The value of a float; infinities and what is not a number have no value of their own. -/
def float? (text : String) : Option Value :=
  let isInfinite := [".inf", ".Inf", ".INF", "+.inf", "+.Inf", "+.INF", "-.inf", "-.Inf",
    "-.INF"].contains text
  if isInfinite || [".nan", ".NaN", ".NAN"].contains text then some .null
  else (double? text).map fun d => .number (.double d)

/-- Whether an integer fits a word with a sign or without one. -/
def fits (bits : Nat) (n : Int) : Bool :=
  Number.fitsSigned bits n || (0 ≤ n && Number.fitsUnsigned bits n.toNat)

/-- The value of an integer: an integer of sixty-four bits, nothing where it has more, and no
integer beyond a hundred and twenty-eight bits. -/
inductive IntegerValue
  | fitting (n : Int)
  | tooLarge
  | noInteger

/-- The value of a text as an integer. -/
def integerValue (text : String) : IntegerValue :=
  match integer? text with
  | some n =>
    if fits 64 n then .fitting n else if fits 128 n then .tooLarge else .noInteger
  | none => .noInteger

/-- The value of a plain scalar. -/
def plainValue? (text : String) : Option Value :=
  if text.isEmpty || isNull text then some .null
  else match bool? text, integerValue text with
    | some b, _ => some (.bool b)
    | none, .fitting n => some (.number (.integer n))
    | none, .tooLarge => none
    | none, .noInteger =>
      some (((if isPadded text.toList then none else float? text)).getD (.string text))

/-- The value of a scalar. -/
def scalarValue? (tag : Option String) (isPlain : Bool) (text : String) : Option Value :=
  match tag with
  | none => if isPlain then plainValue? text else some (.string text)
  | some "tag:yaml.org,2002:bool" => (bool? text).map .bool
  | some "tag:yaml.org,2002:int" => match integerValue text with
    | .fitting n => some (.number (.integer n))
    | _ => none
  | some "tag:yaml.org,2002:float" => float? text
  | some "tag:yaml.org,2002:null" => if isNull text then some .null else none
  | some _ => some (.string text)

/-! ### Documents -/

/-- How deep collections may be nested. -/
def maxDepth : Nat := 128

/-- How often aliases may be followed for each node. -/
def followedPerNode : Nat := 100

/-- Whether a tag is one of the document's own, for which there is no value. -/
def isOwnTag (tag : Option String) : Bool := tag.any (·.startsWith "!")

namespace Document

/-- A computation that counts the aliases it follows. -/
abbrev Following := StateT Nat Option

/-- The node that an alias stands for, and any other node itself. -/
def follow (d : Document) : Node → Following Node
  | .alias number => do
    modify (· + 1)
    if followedPerNode * d.size < (← get) then failure
    else match d.anchors.node? number with
      | some n => return n
      | none => failure
  | n => return n

/-- The text of a key. -/
def key (d : Document) (n : Node) : Following String := do
  match ← d.follow n with
  | .scalar _ _ text => return text
  | _ => failure

/-- The value of a node with collections nested up to a depth. -/
def value (d : Document) (depth : Nat) (n : Node) : Following Value := do
  match ← d.follow n, depth with
  | .scalar tag isPlain text, _ =>
    if isOwnTag tag then failure
    else match scalarValue? tag isPlain text with
      | some v => return v
      | none => failure
  | .sequence tag items, depth + 1 =>
    if isOwnTag tag then failure
    else return .array (← items.mapM (d.value depth))
  | .mapping tag pairs, depth + 1 =>
    if isOwnTag tag then failure
    else
      let members ← pairs.mapM fun (k, v) => return (← d.key k, ← d.value depth v)
      return .object (Json.Members.ofList members)
  | _, _ => failure

/-- The value of a document; a text without one is null. -/
def toJson? (d : Document) : Option Value :=
  match d.root with
  | none => some .null
  | some n => ((d.value maxDepth n).run 0).map Prod.fst

end Document

/-- The value of the document that is a text. -/
def parse? (text : String) : Option Value := do
  (← Document.ofTokens? (← tokens? text)).toJson?

end ResourceTables.Yaml
