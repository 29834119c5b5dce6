/-!
# ResourceTables.Files.Path

Paths as texts: names with slashes between them. Empty names and single points stand for nothing,
but for a point in front, which stands for the working directory.
-/

namespace ResourceTables.Files

/-- A path in a directory, from the path of the directory and what is to follow it. -/
def join (directory rest : String) : String :=
  if rest.startsWith "/" || directory.isEmpty then rest
  else if directory.endsWith "/" then directory ++ rest
  else directory ++ "/" ++ rest

/-- The names of a path that stand for something. -/
def names (path : String) : List String :=
  let parts := path.splitOn "/"
  (if parts.head? = some "." then ["."] else []) ++ parts.filter fun p => p != "" && p != "."

/-- The path of some names, from the root if the path began there. -/
def ofNames (absolute : Bool) (names : List String) : String :=
  (if absolute then "/" else "") ++ "/".intercalate names

/-- The path of the directory a path lies in; nothing for a path that lies in none. -/
def parent? (path : String) : Option String :=
  match names path with
  | [] => none
  | ns => some (ofNames (path.startsWith "/") ns.dropLast)

/-- What follows the last point of a file's name; nothing if there is no point but in front. -/
def extension? (name : String) : Option String :=
  match (name.toList.splitOn '.').reverse with
  | last :: before =>
    if (['.'].intercalate before.reverse).isEmpty then none else some (String.ofList last)
  | [] => none

end ResourceTables.Files
