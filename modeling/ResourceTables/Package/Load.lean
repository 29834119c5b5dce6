import ResourceTables.Files.Access
import ResourceTables.Json.Read
import ResourceTables.Package
import ResourceTables.Yaml.Document

/-!
# ResourceTables.Package.Load

Packages in directories. A package has up to three directories, for graphs, for resources with their
tiles and for collections; each holds documents in JSON or YAML.

Design points:

* Documents are read in the order of their names, whatever order a directory tells them in.
* The first document that cannot be read stops the loading, so a package is never loaded in part.
-/

namespace ResourceTables

open Files (FileReader FileError)
open Json (Decoder DecodeError Value Fields)

/-- Why a package cannot be loaded. -/
inductive LoadError
  | io (path : String) (cause : FileError)
  /-- The text of a file is no document; what is wrong with it is not told. -/
  | malformed (path : String)
  | unfit (path : String) (cause : DecodeError)
  | notFound (path : String)
  deriving DecidableEq

/-- The wording of a cause. -/
def LoadError.message : LoadError → String
  | io path cause => "Failed to read " ++ path ++ ": " ++ cause.message
  | malformed path => "Failed to parse " ++ path
  | unfit path cause => "Failed to parse " ++ path ++ match cause.diagnostic? with
    | some text => ": " ++ text
    | none => ""
  | notFound path => "Package directory not found: " ++ path

namespace Package

/-! ### Documents -/

/-- A resource with its tiles, as resources are documented. -/
structure Record where
  resource : Resource
  tiles : List Tile := []

/-- Reads a resource with its tiles. -/
def Record.ofJson : Decoder Record := fun v => do
  let fields ← Fields.of ["resourceinstance", "tiles"] v
  let resource := fields.required "resourceinstance" Resource.ofJson
  let tiles := fields.optional "tiles" (Decoder.list Tile.ofJson)
  fields.settle [resource.failure?, tiles.failure?]
  return { resource := ← resource.get, tiles := tiles.getD [] }

/-- Reads a list that is a member of an object, a list on its own, or one element. -/
def listOrOne {α : Type} (member : String) (decode : Decoder α) : Decoder (List α) := fun v =>
  match v, v.get? member with
  | _, some items => Decoder.list decode items
  | .array _, none => Decoder.list decode v
  | _, none => return [← decode v]

/-- The graphs of a document. -/
def graphsOfJson : Decoder (List Graph) := listOrOne "graph" Graph.ofJson

/-- The resources of a document with their tiles; there may be none. -/
def recordsOfJson : Decoder (List Record) := fun v =>
  match ((v.get? "business_data").getD v).get? "resources" with
  | some records => Decoder.list Record.ofJson records
  | none => .ok []

/-- The collections of a document. -/
def collectionsOfJson : Decoder (List Collection) := listOrOne "collections" Collection.ofJson

/-! ### Files -/

/-- Whether a file holds a document, by its name. -/
def isDocument (name : String) : Bool :=
  match Files.extension? name with
  | some "json" | some "yaml" | some "yml" => true
  | _ => false

/-- The value of a text in the format that the name of its file says. -/
def parseDocument (name text : String) : Option Value :=
  if Files.extension? name = some "json" then Value.parse? text else Yaml.parse? text

variable {m : Type → Type} [Monad m] [FileReader m]

/-- An action on files, whose failure is told with the path it was asked for. -/
def access {α : Type} (path : String) (action : m (Except FileError α)) :
    ExceptT LoadError m α :=
  ExceptT.mk (return (← action).mapError (LoadError.io path))

/-- The names of a directory's documents, in their order; a directory that is not there has none. -/
def documentNames (directory : String) : ExceptT LoadError m (List String) := do
  if ← FileReader.isDirectory directory then
    let names ← access directory (FileReader.list directory)
    let files ← names.filterM fun name =>
      return isDocument name && (← FileReader.isFile (Files.join directory name))
    return files.mergeSort
  else return []

/-- The content of a document. -/
def loadDocument {α : Type} (decode : Decoder α) (directory name : String) :
    ExceptT LoadError m α := do
  let path := Files.join directory name
  let text ← access path (FileReader.readText path)
  match parseDocument name text with
  | none => throw (.malformed path)
  | some v => match decode v with
    | .ok a => return a
    | .error e => throw (.unfit path e)

/-- The content of all documents of a directory. -/
def loadDirectory {α : Type} (decode : Decoder (List α)) (directory : String) :
    ExceptT LoadError m (List α) := do
  let parts ← (← documentNames directory).mapM (loadDocument decode directory)
  return parts.flatten

/-- Loads the package in a directory. -/
def load (root : String) : ExceptT LoadError m Package := do
  if !(← FileReader.isDirectory root) then throw (.notFound root)
  let graphs ← loadDirectory graphsOfJson (Files.join root "graphs")
  let records ← loadDirectory recordsOfJson (Files.join root "business_data")
  let collections ← loadDirectory collectionsOfJson (Files.join root "collections")
  return {
    graphs
    resources := records.map Record.resource
    tiles := records.flatMap Record.tiles
    collections }

end Package

end ResourceTables
