import ResourceTables.Settings
import ResourceTables.Files.Access
import ResourceTables.Text.Visible

/-!
# ResourceTables.Shapefile

The export of one table of geometries to shapefiles, by a converter program that is run once for
each kind of geometry that the table holds.

Design points:

* A plan is made from numbers of rows that a database tells (`TableCounts`), and says what to run.
* The password goes to the converter by a variable of its environment and never as an argument, so
  it is in no text of a command.
-/

namespace ResourceTables

open Json (Decoder Value)
open Files (FileReader FileWriter FileError)

/-! ### Kinds of geometries -/

/-- A kind of geometries that has a shapefile of its own. -/
inductive GeometryKind
  | lineString
  | point
  | polygon
  deriving DecidableEq

namespace GeometryKind

/-- The kinds in the order in which they are exported. -/
def all : List GeometryKind := [lineString, point, polygon]

/-- The name of a kind, and of its shapefile. -/
def name : GeometryKind → String
  | lineString => "linestring"
  | point => "point"
  | polygon => "polygon"

/-- The name of a kind in texts of commands. -/
def title : GeometryKind → String
  | lineString => "LineString"
  | point => "Point"
  | polygon => "Polygon"

/-- The types of geometries that belong to a kind. -/
def types : GeometryKind → List String
  | lineString => ["ST_MultiLineString", "ST_LineString"]
  | point => ["ST_Point", "ST_MultiPoint"]
  | polygon => ["ST_MultiPolygon", "ST_Polygon"]

/-- The condition for rows of a kind. -/
def condition (k : GeometryKind) : String :=
  "geom_type IN (" ++ Sql.Phrase.listed (k.types.map Sql.literal) ++ ")"

/-- Reads a kind from its name. -/
def ofJson : Decoder GeometryKind := Decoder.name (all.map fun k => (k.name, k))

/-- The name as a value. -/
def toJson (k : GeometryKind) : Value := .string k.name

end GeometryKind

/-! ### Tables -/

/-- The parts of a table's name between points, without blanks around them. -/
def tableParts (table : String) : List String :=
  (table.toList.splitOn '.').map fun part => Text.trim (String.ofList part)

/-- A table's name with every part quoted; up to two parts may stand before the table itself. -/
def quoteTableName (table : String) : Except ExportError String :=
  let parts := tableParts table
  if 3 < parts.length || parts.any String.isEmpty then
    .error (.validation ("Invalid table name: '" ++ table ++ "'"))
  else .ok (".".intercalate (parts.map Sql.identifier))

/-- Why a database does not answer. -/
inductive DatabaseError
  | connection (text : String)
  | query (text : String)
  | input (text : String)
  deriving DecidableEq

/-- The wording of a cause. -/
def DatabaseError.message : DatabaseError → String
  | connection text => "Connection failed: " ++ text
  | query text => "Query failed: " ++ text
  | input text => "Invalid input: " ++ text

/-- What a database tells about tables, whose names are quoted already. -/
structure TableCounts where
  /-- How many rows a table has. -/
  rows : String → Except DatabaseError Nat
  /-- How many of its rows are of a kind. -/
  ofKind : String → GeometryKind → Except DatabaseError Nat

/-! ### Commands -/

/-- One run of the converter. -/
structure ShapefileCommand where
  kind : GeometryKind
  program : String
  arguments : List String
  password : Option String

namespace ShapefileCommand

/-- The variables that are set for the run. -/
def environment (c : ShapefileCommand) : List (String × String) :=
  (c.password.map ("PGPASSWORD", ·)).toList

/-- The command as a line. -/
def line (c : ShapefileCommand) : String := c.program ++ " " ++ " ".intercalate c.arguments

/-- The parts of the command, with a mask in place of the password. -/
def text (c : ShapefileCommand) : String :=
  "Pgsql2Shp \x7b kind: " ++ c.kind.title ++ ", program: " ++ Text.visible c.program ++
    ", args: [" ++ ", ".intercalate (c.arguments.map Text.visible) ++ "], password: " ++
    (if c.password.isSome then "Some(\"****\")" else "None") ++ " \x7d"

end ShapefileCommand

/-! ### Plans -/

/-- What to export, and where to. -/
structure ShapefileRequest where
  table : String
  destination : String

/-- What an export will do. -/
inductive ShapefilePlan
  /-- The table is empty, and nothing is written. -/
  | noRecords
  | run (commands : List ShapefileCommand)

/-- An export with a given converter. -/
structure ShapefileExporter where
  connection : Connection
  program : String := "pgsql2shp"

namespace ShapefileExporter

/-- The command that exports the rows of a kind. -/
def command (x : ShapefileExporter) (table destination : String) (kind : GeometryKind) :
    ShapefileCommand where
  kind := kind
  program := x.program
  arguments := ["-f", Files.join destination kind.name, "-h", x.connection.host, "-p",
    toString x.connection.port, "-u", x.connection.user, "-g", "geom", x.connection.name,
    "SELECT * FROM " ++ table ++ " WHERE " ++ kind.condition ++ ";"]
  password := x.connection.password

/-- The commands for the kinds of which there are rows. -/
def commands (x : ShapefileExporter) (counts : TableCounts) (table destination : String) :
    List GeometryKind → Except DatabaseError (List ShapefileCommand)
  | [] => .ok []
  | kind :: rest => do
    let n ← counts.ofKind table kind
    let others ← x.commands counts table destination rest
    return if 0 < n then x.command table destination kind :: others else others

/-- The plan for a request. A destination that is there already is refused, so that no earlier
export is written over. -/
def plan (x : ShapefileExporter) (counts : TableCounts) (isThere : Bool) (r : ShapefileRequest) :
    Except ExportError ShapefilePlan := do
  if isThere then
    throw (.io ("Cannot export data. Destination directory " ++ r.destination ++
      " already exists"))
  let table ← quoteTableName r.table
  let told {α : Type} (answer : Except DatabaseError α) : Except ExportError α :=
    answer.mapError fun e => .failed e.message
  if (← told (counts.rows table)) = 0 then return .noRecords
  else return .run (← told (x.commands counts table r.destination GeometryKind.all))

end ShapefileExporter

/-! ### Execution -/

/-- The words for a table without rows. -/
def noRecordsText (table : String) : String := "No records in table " ++ table ++ " for export"

/-- Runs commands in order up to one that fails; `run` tells the status a program ended with. -/
def runCommands {m : Type → Type} [Monad m]
    (run : ShapefileCommand → m (Except FileError Nat)) :
    List ShapefileCommand → m (Except ExportError Nat)
  | [] => return .ok 0
  | c :: rest => do
    match ← run c with
    | .error e => return .error (.io ("Failed to run " ++ c.program ++ ": " ++ e.message))
    | .ok 0 => return (← runCommands run rest).map (· + 1)
    | .ok status =>
      return .error (.failed (c.program ++ " failed for " ++ c.kind.name ++
        " geometries: exit status: " ++ toString status))

/-- Makes the destination and runs the commands of a plan; it tells how many were run. -/
def ShapefilePlan.execute {m : Type → Type} [Monad m] [FileWriter m]
    (run : ShapefileCommand → m (Except FileError Nat)) (destination : String) :
    ShapefilePlan → m (Except ExportError Nat)
  | .noRecords => return .ok 0
  | .run commands => do
    match ← FileWriter.makeDirectories destination with
    | .error e => return .error (.io ("Failed to create " ++ destination ++ ": " ++ e.message))
    | .ok () => runCommands run commands

end ResourceTables
