import ResourceTables.Package.Load
import ResourceTables.Review
import ResourceTables.Settings.Load
import ResourceTables.Shapefile

/-!
# ResourceTables.Command

The commands of the program: to write the script of a package's export, to export a table to
shapefiles, and to review a package.

Design points:

* A command works on files by the classes of `Files.Access` and does nothing else to its
  surroundings. What it has to say is its `Outcome`.
* An export is prepared (settings, then the package, then the options) before any of it is made, and
  a file is only written once the whole script is there.
-/

namespace ResourceTables

open Files (FileReader FileWriter)

/-- Why a command fails. -/
inductive CommandError
  | noPackage (path : String)
  | unwritable (path text : String)
  | badIdentifier (text : String)
  | badArgument (text : String)
  | issuesFound (count : Nat)
  | loading (cause : LoadError)
  | settings (cause : SettingsError)
  | exporting (cause : ExportError)
  deriving DecidableEq

namespace CommandError

/-- The wording of the cause that a failure is owed to, if it is another part's failure. -/
def cause? : CommandError → Option String
  | loading e => some e.message
  | settings e => some e.message
  | exporting e => some e.message
  | _ => none

/-- The wording of a failure. -/
def message : CommandError → String
  | noPackage path => "Package directory not found: " ++ path
  | unwritable path text => "Failed to write file " ++ path ++ ": " ++ text
  | badIdentifier text => "Invalid UUID format: " ++ text
  | badArgument text => "Invalid argument: " ++ text
  | issuesFound count => "Validation found " ++ toString count ++ " issue(s)"
  | loading e => "Load error: " ++ e.message
  | settings e => "Configuration error: " ++ e.message
  | exporting e => "Export error: " ++ e.message

/-- The line that tells a failure, with the wording of its cause once more at the end. -/
def line (e : CommandError) : String :=
  "Error: " ++ ": ".intercalate (e.message :: e.cause?.toList)

end CommandError

/-! ### Requests -/

/-- A request for the script of a package's export. -/
structure SchemaRequest where
  package : String := "."
  /-- The file with the settings, if it is not the one of the package. -/
  settings : Option String := none
  /-- The file to write the script to. -/
  output : Option String := none
  /-- Whether a file that is there already may be written over. -/
  overwrites : Bool := false
  /-- The only graphs to export, if there are any. -/
  graphs : List String := []
  /-- Whether rows are left out. -/
  withoutRows : Bool := false
  language : Option String := none

/-- A command. -/
inductive Command
  | schema (request : SchemaRequest)
  | shapefiles (request : ShapefileRequest) (settings : Option String)
  | validate (package : String) (asJson : Bool)

/-- What a command knows of its surroundings. -/
structure Surroundings where
  /-- The variables of the environment. -/
  value? : String → Option String
  /-- The time, as it is written in a script. -/
  time : String

/-- What a command has to say. -/
structure Outcome where
  /-- The text for the standard output. -/
  output : String := ""
  /-- Lines about what was worth a word. -/
  warnings : List String := []
  /-- Lines about what was done. -/
  notes : List String := []
  failure : Option CommandError := none

/-- The status the program ends with. -/
def Outcome.status (o : Outcome) : Nat := if o.failure.isSome then 1 else 0

namespace Command

variable {m : Type → Type} [Monad m]

/-! ### Parts of commands -/

/-- The identifiers that texts spell, which may have blanks around them. -/
def identifiers (texts : List String) : Except CommandError (List Uuid) :=
  texts.mapM fun text => match Uuid.parse? (Text.trim text) with
    | some id => .ok id
    | none => .error (.badIdentifier text)

section Reading

variable [FileReader m]

/-- The settings of a file, which has to be there, or else those of a directory. -/
def loadSettings (s : Surroundings) (directory : String) (file : Option String) :
    ExceptT CommandError m Settings := do
  let path := file.getD (Files.join directory Settings.fileName)
  if file.isSome && !(← FileReader.isThere path) then
    throw (.badArgument ("Config file not found: " ++ path))
  (Settings.load s.value? path).adapt .settings

/-- The package in a directory. -/
def loadPackage (directory : String) : ExceptT CommandError m Package := do
  if !(← FileReader.isDirectory directory) then throw (.noPackage directory)
  (Package.load directory).adapt .loading

/-- A package and the options for its export. -/
def prepare (s : Surroundings) (r : SchemaRequest) :
    ExceptT CommandError m (Package × ExportOptions) := do
  let settings ← loadSettings s r.package r.settings
  let package ← loadPackage r.package
  let only ← if r.graphs.isEmpty then pure none else some <$> liftExcept (identifiers r.graphs)
  let options := settings.exportOptions
  return (package, { options with
    only
    language := r.language.getD options.language
    includeRows := !r.withoutRows })

/-- The script of a package's export, and what was worth a word. -/
def renderSchema (s : Surroundings) (r : SchemaRequest) :
    m (Except CommandError String × List String) := do
  match ← (prepare s r).run with
  | .error e => return (.error e, [])
  | .ok (package, options) =>
    let (result, warnings) := export? (.ofPackage package) options
    return ((result.mapError .exporting).map (·.content s.time), warnings.map Rows.Warning.message)

/-- Refuses a file that is there, unless it may be written over. -/
def checkOutput (path : String) (overwrites : Bool) : ExceptT CommandError m Unit := do
  if (← FileReader.isThere path) && !overwrites then
    throw (.badArgument ("Output file exists: " ++ path ++ ". Use --force to overwrite."))

end Reading

/-- Writes a file, with the directory it lies in. -/
def writeOutput [FileWriter m] (path content : String) : ExceptT CommandError m Unit := do
  let directory := (Files.parent? path).getD ""
  if !directory.isEmpty then
    match ← FileWriter.makeDirectories directory with
    | .ok () => pure ()
    | .error e => throw (.unwritable path ("Failed to create directory: " ++ e.message))
  match ← FileWriter.writeText path content with
  | .ok () => return ()
  | .error e => throw (.unwritable path e.message)

/-! ### Commands -/

variable [FileReader m]

/-- Writes the script of an export to a file or to the output. A file that may not be written over
is refused before anything else is done. -/
def runSchema [FileWriter m] (s : Surroundings) (r : SchemaRequest) : m Outcome := do
  let checked ← match r.output with
    | some path => (checkOutput path r.overwrites).run
    | none => pure (.ok ())
  match checked with
  | .error e => return { failure := some e }
  | .ok () =>
    match ← renderSchema s r, r.output with
    | (.error e, warnings), _ => return { warnings, failure := some e }
    | (.ok script, warnings), none => return { output := script, warnings }
    | (.ok script, warnings), some path =>
      match ← (writeOutput path script).run with
      | .error e => return { warnings, failure := some e }
      | .ok () => return { warnings, notes := ["✅ Wrote relational export to " ++ path] }

/-- Exports a table to shapefiles, which takes a database; no connection to one is part of the
program. -/
def runShapefiles (s : Surroundings) (file : Option String) : m Outcome := do
  match ← (loadSettings s "." file).run with
  | .error e => return { failure := some e }
  | .ok _ => return {
      failure := some (.badArgument ("Shapefile export needs a database connection. Build with " ++
        "--features postgres-backend")) }

/-- Reviews a package. Issues are a failure, after the report. -/
def runValidate (directory : String) (asJson : Bool) : m Outcome := do
  match ← (loadPackage directory).run with
  | .error e => return { failure := some e }
  | .ok package =>
    let report := Report.of package
    let lines := if asJson then [report.toJson.pretty] else report.lines
    return {
      output := String.join (lines.map (· ++ "\n"))
      failure := if report.size = 0 then none else some (.issuesFound report.size) }

/-- Runs a command. -/
def run [FileWriter m] (s : Surroundings) : Command → m Outcome
  | schema request => runSchema s request
  | shapefiles _ file => runShapefiles s file
  | validate package asJson => runValidate package asJson

end Command

end ResourceTables
