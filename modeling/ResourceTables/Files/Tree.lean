import ResourceTables.Files.Access

/-!
# ResourceTables.Files.Tree

Trees of files as values, with the rules by which paths lead through them.

Design points:

* A path is followed name by name, and every step but the first starts from a directory that is
  there. So `a/..` leads nowhere if there is no `a`, and a slash at the end asks for a directory.
* What is made or changed is named by the last name of a path; the rest of the path must lead to a
  directory.
-/

namespace ResourceTables.Files

/-- A file with its content, or a directory with its members. -/
inductive Tree
  | file (content : ByteArray)
  | directory (members : List (String × Tree))

/-- A tree, and the names that lead to the working directory. -/
structure Volume where
  root : Tree := .directory []
  working : List String := []

namespace Tree

instance : Inhabited Tree := ⟨directory []⟩

/-- The member of a directory. -/
def member? (name : String) : Tree → Option Tree
  | directory members => members.lookup name
  | file _ => none

/-- The tree some names lead to. -/
def at? (t : Tree) : List String → Option Tree
  | [] => some t
  | name :: rest => (t.member? name).bind (at? · rest)

/-- Whether a tree is a directory. -/
def isDirectory : Tree → Bool
  | directory _ => true
  | file _ => false

/-- The members with one of them set. -/
def setMember (name : String) (t : Tree) : List (String × Tree) → List (String × Tree)
  | [] => [(name, t)]
  | (n, s) :: rest => if n = name then (name, t) :: rest else (n, s) :: setMember name t rest

/-- The tree with another one at the end of some names, of which all but the last lead to a
directory. -/
def put : Tree → List String → (new : Tree) → Tree
  | _, [], new => new
  | file content, _ :: _, _ => file content
  | directory members, name :: rest, new =>
    directory (setMember name (put ((members.lookup name).getD (directory [])) rest new) members)

end Tree

namespace Volume

/-- One step of a path from a place that was reached; places are the names that lead to them. -/
def step (v : Volume) (place : List String) (name : String) : Except FileError (List String) :=
  match v.root.at? place with
  | some (.directory members) =>
    if name = "" || name = "." then .ok place
    else if name = ".." then .ok place.dropLast
    else if (members.lookup name).isSome then .ok (place ++ [name])
    else .error .notFound
  | _ => .error .notDirectory

/-- Where a path starts, and its names. -/
def start (v : Volume) (path : String) : Except FileError (List String × List String) :=
  if path.isEmpty then .error .notFound
  else if path.toList.contains '\x00' then .error .badName
  else .ok (if path.startsWith "/" then [] else v.working, path.splitOn "/")

/-- The place a path leads to. -/
def place (v : Volume) (path : String) : Except FileError (List String) := do
  let (origin, names) ← v.start path
  names.foldlM v.step origin

/-- What a path leads to. -/
def find (v : Volume) (path : String) : Except FileError Tree := do
  match v.root.at? (← v.place path) with
  | some t => return t
  | none => throw .notFound

/-- The names of a path without slashes at its end, as those that lead to a directory and the last
one. -/
def lastName (names : List String) : List String × String :=
  let names := (names.reverse.dropWhile (· == "")).reverse
  (names.dropLast, names.getLast?.getD "")

/-- Whether a name stands for a directory that is there already. -/
def isFixed (name : String) : Bool := name == "" || name == "." || name == ".."

/-- The place that the last name of a path is to have. -/
def placeOfNew (v : Volume) (path : String) : Except FileError (List String × String) := do
  let (origin, names) ← v.start path
  let (before, last) := lastName names
  let place ← before.foldlM v.step origin
  let _ ← v.step place "."
  return (place, last)

/-! ### Changes -/

/-- Makes a directory. -/
def makeDirectory (v : Volume) (path : String) : Except FileError Volume := do
  let (place, name) ← v.placeOfNew path
  if isFixed name || (v.root.at? (place ++ [name])).isSome then throw .alreadyThere
  else return { v with root := v.root.put (place ++ [name]) (.directory []) }

/-- Writes a file in place of its content, if it is there. -/
def writeFile (v : Volume) (path : String) (content : ByteArray) : Except FileError Volume := do
  let (place, name) ← v.placeOfNew path
  if isFixed name || path.endsWith "/" then throw .isDirectory
  else match v.root.at? (place ++ [name]) with
    | some (.directory _) => throw .isDirectory
    | _ => return { v with root := v.root.put (place ++ [name]) (.file content) }

/-- Whether a path leads to a directory. -/
def isDirectory (v : Volume) (path : String) : Bool :=
  match v.find path with
  | .ok t => t.isDirectory
  | .error _ => false

/-- Makes a directory unless it is there. -/
def ensureDirectory (v : Volume) (path : String) : Except FileError Volume :=
  match v.makeDirectory path with
  | .ok v => .ok v
  | .error e => if v.isDirectory path then .ok v else .error e

/-- Makes the directory of a path, and before it, if it has none to lie in, the one of the path
without the last name. What was made stays made if a later step fails. The names stand in reverse
order. -/
def makeAll (absolute : Bool) (v : Volume) : List String → Except FileError Unit × Volume
  | [] => (.ok (), v)
  | last :: before =>
    let path := ofNames absolute (last :: before).reverse
    let settle (v : Volume) : Except FileError Unit × Volume :=
      match v.ensureDirectory path with
      | .ok v => (.ok (), v)
      | .error e => (.error e, v)
    match v.ensureDirectory path with
    | .ok v => (.ok (), v)
    | .error .notFound => match makeAll absolute v before with
      | (.ok (), v) => settle v
      | failed => failed
    | .error e => (.error e, v)

/-- Makes a directory and those it lies in, as far as they are not there. -/
def makeDirectories (v : Volume) (path : String) : Except FileError Unit × Volume :=
  if path.toList.contains '\x00' then (.error .badName, v)
  else makeAll (path.startsWith "/") v (names path).reverse

/-! ### Access -/

/-- The names in a directory. -/
def list (v : Volume) (path : String) : Except FileError (List String) := do
  match ← v.find path with
  | .directory members => return members.map Prod.fst
  | .file _ => throw .notDirectory

/-- The text of a file. -/
def readText (v : Volume) (path : String) : Except FileError String := do
  match ← v.find path with
  | .directory _ => throw .isDirectory
  | .file content => match String.fromUTF8? content with
    | some text => return text
    | none => throw .notText

instance : FileReader (StateM Volume) where
  isThere path := return ((← get).find path).toOption.isSome
  isDirectory path := return (← get).isDirectory path
  isFile path := return ((← get).find path).toOption.any fun t => !t.isDirectory
  list path := return (← get).list path
  readText path := return (← get).readText path

instance : FileWriter (StateM Volume) where
  makeDirectories path := modifyGet fun v => v.makeDirectories path
  writeText path text := modifyGet fun v =>
    match v.writeFile path text.toUTF8 with
    | .ok v => (.ok (), v)
    | .error e => (.error e, v)

end Volume

end ResourceTables.Files
