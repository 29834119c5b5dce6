import ResourceTables.Yaml.Token

/-!
# ResourceTables.Yaml.Node

The nodes of a YAML document, read from its tokens.

Design points:

* An alias holds the number of its anchor. Anchors are numbered by how many different names were
  there before, so a name that is used again takes a number that another name may get too; the node
  that begins last has the number then.
* Nodes are counted as they are read: a scalar or alias as one, a collection as two and its
  members. The count before a node is its **place**.
* A node may be left out in most places and is an empty plain scalar then.
-/

namespace ResourceTables.Yaml

/-- A node. Tags are whole, with the text their handle stands for. -/
inductive Node
  | scalar (tag : Option String) (isPlain : Bool) (text : String)
  | sequence (tag : Option String) (items : List Node)
  | mapping (tag : Option String) (pairs : List (Node × Node))
  | alias (number : Nat)

instance : Inhabited Node := ⟨.alias 0⟩

/-- What is known about anchors. -/
structure Anchors where
  /-- The numbers of the names. -/
  numbers : List (String × Nat) := []
  /-- The places of the nodes that have the numbers. -/
  places : List (Nat × Nat) := []
  /-- The nodes that have an anchor, by their places. -/
  nodes : List (Nat × Node) := []

namespace Anchors

/-- Gives a name to the node at a place. -/
def add (name : String) (place : Nat) (a : Anchors) : Anchors :=
  let number := a.numbers.length
  { a with
    numbers := (name, number) :: a.numbers.filter (·.1 != name)
    places := (number, place) :: a.places }

/-- The node that has a number. -/
def node? (a : Anchors) (number : Nat) : Option Node :=
  (a.places.lookup number).bind fun place => a.nodes.lookup place

end Anchors

/-- A document: its node, or nothing if there is none in the text. -/
structure Document where
  root : Option Node
  anchors : Anchors := {}
  /-- How much the nodes count. -/
  size : Nat := 0

/-! ### Reading tokens -/

/-- The tokens that are left, and what is known from the others. -/
structure Reading where
  tokens : List Token
  /-- What the handles of tags stand for. -/
  handles : List (String × String)
  anchors : Anchors := {}
  size : Nat := 0

/-- A reader of tokens. -/
abbrev Reader := StateT Reading Option

namespace Reader

/-- The next token. -/
def peek : Reader (Option Token) := return (← get).tokens.head?

/-- Goes past a token. -/
def skip : Reader Unit := modify fun r => { r with tokens := r.tokens.tail }

/-- Whether one of some tokens is next. -/
def atOneOf (choices : List Token) : Reader Bool := return (← peek).any choices.contains

/-- Goes past a token if it is next, and tells whether it was. -/
def take (token : Token) : Reader Bool := do
  if (← peek) = some token then
    skip
    return true
  else return false

/-- Counts one more, and tells the count before. -/
def count : Reader Nat := modifyGet fun r => (r.size, { r with size := r.size + 1 })

/-- An empty node. -/
def empty : Reader Node := do
  let _ ← count
  return .scalar none true ""

/-- The end of a collection. -/
def finish {α : Type} (done : List α) : Reader (List α) := do
  let _ ← count
  return done.reverse

/-! ### Properties -/

/-- What stands in front of a node. -/
structure Properties where
  anchor : Option String := none
  tag : Option TagName := none

/-- Reads an anchor, a tag or both. -/
def properties : Reader Properties := do
  match ← peek with
  | some (.anchor name) =>
    skip
    match ← peek with
    | some (.tag tag) =>
      skip
      return ⟨name, tag⟩
    | _ => return ⟨name, none⟩
  | some (.tag tag) =>
    skip
    match ← peek with
    | some (.anchor name) =>
      skip
      return ⟨name, tag⟩
    | _ => return ⟨none, tag⟩
  | _ => return {}

/-- A tag with what its handle stands for. -/
def wholeTag (tag : TagName) : Reader String := do
  match tag.handle with
  | none => return tag.suffix
  | some handle => match (← get).handles.lookup handle with
    | some text => return text ++ tag.suffix
    | none => failure

/-- The number of an anchor that is there already. -/
def numberOf (name : String) : Reader Nat := do
  match (← get).anchors.numbers.lookup name with
  | some number => return number
  | none => failure

/-- Keeps a node that has an anchor. -/
def keep (place : Nat) (n : Node) : Reader Unit :=
  modify fun r => { r with anchors.nodes := (place, n) :: r.anchors.nodes }

/-! ### Nodes -/

/-- Where a node stands. -/
inductive Position
  /-- At the top or in a block sequence. -/
  | item
  /-- In a block mapping, where a sequence need not be indented. -/
  | member
  /-- In a flow collection. -/
  | flow
  deriving DecidableEq

mutual

/-- Reads a node. -/
def node : (fuel : Nat) → Position → Reader Node
  | 0, _ => failure
  | fuel + 1, position => do
    match ← peek with
    | some (.alias name) =>
      skip
      let _ ← count
      return .alias (← numberOf name)
    | _ =>
      let p ← properties
      let tag ← p.tag.mapM wholeTag
      let place ← count
      if let some name := p.anchor then
        modify fun r => { r with anchors := r.anchors.add name place }
      let n ← content fuel position tag (p.anchor.isSome || p.tag.isSome)
      if p.anchor.isSome then keep place n
      return n

/-- Reads a node after its properties. If it has some, it may be left out. -/
def content : (fuel : Nat) → Position → (tag : Option String) → (hasProperties : Bool) →
    Reader Node
  | 0, _, _, _ => failure
  | fuel + 1, position, tag, hasProperties => do
    match ← peek, position with
    | some .blockEntry, .member => return .sequence tag (← bareItems fuel [])
    | some .blockSequenceStart, .item | some .blockSequenceStart, .member =>
      skip
      return .sequence tag (← blockItems fuel [])
    | some .blockMappingStart, .item | some .blockMappingStart, .member =>
      skip
      return .mapping tag (← blockPairs fuel [])
    | some .flowSequenceStart, _ =>
      skip
      return .sequence tag (← flowItems fuel true [])
    | some .flowMappingStart, _ =>
      skip
      return .mapping tag (← flowPairs fuel true [])
    | some (.scalar isPlain text), _ =>
      skip
      return .scalar (tag.filter (· != "!")) isPlain text
    | _, _ => if hasProperties then return .scalar tag true "" else failure

/-- Reads a node unless it is left out before one of some tokens. -/
def nodeBefore : (fuel : Nat) → Position → List Token → Reader Node
  | 0, _, _ => failure
  | fuel + 1, position, stops => do
    if ← atOneOf stops then empty else node fuel position

/-- Reads the value of a pair, if its mark is next. -/
def valueBefore : (fuel : Nat) → Position → List Token → Reader Node
  | 0, _, _ => failure
  | fuel + 1, position, stops => do
    if ← take .value then nodeBefore fuel position stops else empty

/-- Reads the items of a block sequence. -/
def blockItems : (fuel : Nat) → List Node → Reader (List Node)
  | 0, _ => failure
  | fuel + 1, done => do
    if ← take .blockEntry then
      let n ← nodeBefore fuel .item [.blockEntry, .blockEnd]
      blockItems fuel (n :: done)
    else if ← take .blockEnd then finish done
    else failure

/-- Reads the items of a sequence that has the column of the mapping around it. -/
def bareItems : (fuel : Nat) → List Node → Reader (List Node)
  | 0, _ => failure
  | fuel + 1, done => do
    if ← take .blockEntry then
      let n ← nodeBefore fuel .item [.blockEntry, .key, .value, .blockEnd]
      bareItems fuel (n :: done)
    else finish done

/-- Reads the pairs of a block mapping. -/
def blockPairs : (fuel : Nat) → List (Node × Node) → Reader (List (Node × Node))
  | 0, _ => failure
  | fuel + 1, done => do
    if ← take .key then
      let stops := [.key, .value, .blockEnd]
      let k ← nodeBefore fuel .member stops
      let v ← valueBefore fuel .member stops
      blockPairs fuel ((k, v) :: done)
    else if ← take .blockEnd then finish done
    else failure

/-- Reads the items of a flow sequence. A pair among them is a mapping of its own. Where its key is
left out, the token that shows it is passed over. -/
def flowItems : (fuel : Nat) → (isFirst : Bool) → List Node → Reader (List Node)
  | 0, _, _ => failure
  | fuel + 1, isFirst, done => do
    if ← take .flowSequenceEnd then finish done
    else if isFirst || (← take .flowEntry) then
      if ← take .key then
        let _ ← count
        let k ← if ← atOneOf [.value, .flowEntry, .flowSequenceEnd] then
            skip
            empty
          else node fuel .flow
        let v ← valueBefore fuel .flow [.flowEntry, .flowSequenceEnd]
        let pairs ← finish [(k, v)]
        flowItems fuel false (.mapping none pairs :: done)
      else if ← take .flowSequenceEnd then finish done
      else
        let n ← node fuel .flow
        flowItems fuel false (n :: done)
    else failure

/-- Reads the pairs of a flow mapping. An item among them is a key without a value. -/
def flowPairs : (fuel : Nat) → (isFirst : Bool) → List (Node × Node) →
    Reader (List (Node × Node))
  | 0, _, _ => failure
  | fuel + 1, isFirst, done => do
    if ← take .flowMappingEnd then finish done
    else if isFirst || (← take .flowEntry) then
      if ← take .key then
        let k ← nodeBefore fuel .flow [.value, .flowEntry, .flowMappingEnd]
        let v ← valueBefore fuel .flow [.flowEntry, .flowMappingEnd]
        flowPairs fuel false ((k, v) :: done)
      else if ← take .flowMappingEnd then finish done
      else
        let k ← node fuel .flow
        let v ← empty
        flowPairs fuel false ((k, v) :: done)
    else failure

end

end Reader

/-! ### Documents -/

/-- Reads the directives in front of a document: what the handles stand for, and the tokens after
them. There is at most one version, which is 1.1 or 1.2, and one directive for a handle. -/
def readDirectives? (hasVersion : Bool) (handles : List (String × String)) :
    List Token → Option (List (String × String) × List Token)
  | .version major minor :: rest =>
    if hasVersion || major ≠ 1 || (minor ≠ 1 && minor ≠ 2) then none
    else readDirectives? true handles rest
  | .handle name text :: rest =>
    if (handles.lookup name).isSome then none
    else readDirectives? hasVersion ((name, text) :: handles) rest
  | tokens => some (handles ++ [("!", "!"), ("!!", "tag:yaml.org,2002:")], tokens)

/-- Whether a document that was begun has no node before these tokens. -/
def endsDocument : List Token → Bool
  | [] | .version .. :: _ | .handle .. :: _ | .documentStart :: _ | .documentEnd :: _ => true
  | _ => false

/-- Reads the node of a document. Between two steps of the reader that take no token there is at
most one that takes none, so `fuel` is enough. -/
def readRoot? (handles : List (String × String)) (tokens : List Token) :
    Option (Node × Reading) :=
  (Reader.node (3 * tokens.length + 3) .item).run { tokens, handles }

/-- Reads a document, the only one among some tokens. Directives need a mark for the start. -/
def Document.ofTokens? (tokens : List Token) : Option Document := do
  if tokens.isEmpty then return { root := none }
  else
    let (handles, rest) ← readDirectives? false [] tokens
    let (root, r) ← match rest with
      | .documentStart :: rest =>
        if endsDocument rest then
          some (.scalar none true "", { tokens := rest, handles, size := 1 })
        else readRoot? handles rest
      | _ => if rest.length = tokens.length then readRoot? handles rest else none
    if (r.tokens.dropWhile (· == .documentEnd)).isEmpty then
      return { root, anchors := r.anchors, size := r.size }
    else none

end ResourceTables.Yaml
