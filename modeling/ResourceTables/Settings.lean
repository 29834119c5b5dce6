import ResourceTables.Export
import ResourceTables.Toml.Document

/-!
# ResourceTables.Settings

The settings of an export and of the database connection. They are read from a TOML document, where
everything may be left out, and then overridden by variables of the environment. They are written
back without the password.
-/

namespace ResourceTables

open Json (Decoder Fields Surplus)

/-! ### Sections -/

/-- What the settings say about exports. -/
structure ExportSection where
  maxLength : Nat := 60
  srid : Nat := 4326
  language : String := defaultLanguage
  registrySchema : String := "public"
  registryTable : String := "__arches_relational_registry"
  excluded : List Uuid := [systemSettingsGraph]
  deriving DecidableEq

/-- How to connect to the database. -/
structure Connection where
  host : String := "localhost"
  port : Nat := 5432
  name : String := "arches"
  user : String := "postgres"
  password : Option String := none
  deriving DecidableEq

/-- The settings. -/
structure Settings where
  exports : ExportSection := {}
  database : Connection := {}
  deriving DecidableEq

/-- Why settings cannot be had. -/
inductive SettingsError
  | io (text : String)
  /-- The document is no TOML or does not fit; what is wrong with it is not told. -/
  | unreadable
  /-- A number is too large to be written. -/
  | unwritable
  deriving DecidableEq

/-- The wording of a cause. -/
def SettingsError.message : SettingsError → String
  | io text => "IO error: " ++ text
  | unreadable => "Configuration error: Failed to parse config"
  | unwritable => "Serialization error: Failed to serialize config"

/-! ### Reading -/

/-- Reads the section on exports. -/
def ExportSection.ofJson (surplus : Surplus := .refused) : Decoder ExportSection := fun v => do
  let fields ← Fields.of ["identifier_max_length", "srid", "language", "registry_schema",
    "registry_table", "excluded_graphs"] v surplus
  let standard : ExportSection := {}
  let maxLength := fields.optional "identifier_max_length" (Decoder.unsigned 64)
  let srid := fields.optional "srid" (Decoder.unsigned 32)
  let language := fields.optional "language" Decoder.string
  let schema := fields.optional "registry_schema" Decoder.string
  let table := fields.optional "registry_table" Decoder.string
  let excluded := fields.optional "excluded_graphs" (Decoder.list Decoder.uuid)
  fields.settle [maxLength.failure?, srid.failure?, language.failure?, schema.failure?,
    table.failure?, excluded.failure?]
  return {
    maxLength := maxLength.getD standard.maxLength
    srid := srid.getD standard.srid
    language := language.getD standard.language
    registrySchema := schema.getD standard.registrySchema
    registryTable := table.getD standard.registryTable
    excluded := excluded.getD standard.excluded }

/-- Reads the section on the connection. -/
def Connection.ofJson (surplus : Surplus := .refused) : Decoder Connection := fun v => do
  let fields ← Fields.of ["host", "port", "name", "user", "password"] v surplus
  let standard : Connection := {}
  let host := fields.optional "host" Decoder.string
  let port := fields.optional "port" (Decoder.unsigned 16)
  let name := fields.optional "name" Decoder.string
  let user := fields.optional "user" Decoder.string
  let password := fields.optional "password" (Decoder.nullable Decoder.string)
  fields.settle [host.failure?, port.failure?, name.failure?, user.failure?, password.failure?]
  return {
    host := host.getD standard.host
    port := port.getD standard.port
    name := name.getD standard.name
    user := user.getD standard.user
    password := password.getD none }

/-- Reads settings. -/
def Settings.ofJson (surplus : Surplus := .refused) : Decoder Settings := fun v => do
  let fields ← Fields.of ["export", "database"] v surplus
  let exports := fields.optional "export" (ExportSection.ofJson surplus)
  let database := fields.optional "database" (Connection.ofJson surplus)
  fields.settle [exports.failure?, database.failure?]
  return { exports := exports.getD {}, database := database.getD {} }

/-- The settings of a TOML document. -/
def Settings.parse (text : String) : Except SettingsError Settings :=
  match Toml.parse? text with
  | none => .error .unreadable
  | some document => (Settings.ofJson .ignored document.toJson).mapError fun _ => .unreadable

/-! ### Writing -/

/-- The document of the section on exports. -/
def ExportSection.toJson (s : ExportSection) : Json.Value :=
  .object [("excluded_graphs", ExportOptions.uuids s.excluded),
    ("identifier_max_length", .nat s.maxLength), ("language", .string s.language),
    ("registry_schema", .string s.registrySchema), ("registry_table", .string s.registryTable),
    ("srid", .nat s.srid)]

/-- The document of the section on the connection, without the password. -/
def Connection.toJson (c : Connection) : Json.Value :=
  .object [("host", .string c.host), ("name", .string c.name), ("port", .nat c.port),
    ("user", .string c.user)]

/-- The document of settings. -/
def Settings.toJson (s : Settings) : Json.Value :=
  .object [("database", s.database.toJson), ("export", s.exports.toJson)]

/-- The settings as a TOML document. -/
def Settings.toToml (s : Settings) : Except SettingsError String :=
  if !Number.fitsSigned 64 s.exports.maxLength then .error .unwritable
  else .ok (
    "[export]\n" ++
    Toml.line "identifier_max_length" (toString s.exports.maxLength) ++
    Toml.line "srid" (toString s.exports.srid) ++
    Toml.line "language" (Toml.written s.exports.language) ++
    Toml.line "registry_schema" (Toml.written s.exports.registrySchema) ++
    Toml.line "registry_table" (Toml.written s.exports.registryTable) ++
    Toml.line "excluded_graphs" (Toml.strings (s.exports.excluded.map Uuid.toString)) ++
    "\n[database]\n" ++
    Toml.line "host" (Toml.written s.database.host) ++
    Toml.line "port" (toString s.database.port) ++
    Toml.line "name" (Toml.written s.database.name) ++
    Toml.line "user" (Toml.written s.database.user))

/-! ### Overriding -/

/-- A number of a width, in decimal digits after an optional plus sign. -/
def readNumber? (bits : Nat) (text : String) : Option Nat :=
  let ds := match text.toList with
    | '+' :: ds => ds
    | ds => ds
  let n := Json.digitsValue ds
  if !ds.isEmpty && ds.all Char.isDigit && Number.fitsUnsigned bits n then some n else none

/-- The variables that say something about settings. -/
def Settings.variableNames : List String :=
  ["ARCHES_EXPORT_IDENTIFIER_MAX_LENGTH", "ARCHES_EXPORT_SRID", "ARCHES_EXPORT_LANGUAGE",
    "ARCHES_DB_HOST", "ARCHES_DB_PORT", "ARCHES_DB_NAME", "ARCHES_DB_USER", "ARCHES_DB_PASSWORD"]

/-- The settings with what variables say in place of what they say; a number that cannot be read
changes nothing. -/
def Settings.override (s : Settings) (value? : String → Option String) : Settings :=
  let number (name : String) (bits default : Nat) :=
    ((value? name).bind (readNumber? bits)).getD default
  let text (name default : String) := (value? name).getD default
  { exports := { s.exports with
      maxLength := number "ARCHES_EXPORT_IDENTIFIER_MAX_LENGTH" 64 s.exports.maxLength
      srid := number "ARCHES_EXPORT_SRID" 32 s.exports.srid
      language := text "ARCHES_EXPORT_LANGUAGE" s.exports.language }
    database := {
      host := text "ARCHES_DB_HOST" s.database.host
      port := number "ARCHES_DB_PORT" 16 s.database.port
      name := text "ARCHES_DB_NAME" s.database.name
      user := text "ARCHES_DB_USER" s.database.user
      password := (value? "ARCHES_DB_PASSWORD").or s.database.password } }

/-! ### Use -/

/-- The options of an export. -/
def Settings.exportOptions (s : Settings) : ExportOptions where
  maxLength := s.exports.maxLength
  srid := s.exports.srid
  language := s.exports.language
  registry := ⟨s.exports.registrySchema, s.exports.registryTable⟩
  excluded := s.exports.excluded

/-- The parameters of a connection as one text. -/
def Connection.parameters (c : Connection) : String :=
  " ".intercalate (["host=" ++ c.host, "port=" ++ toString c.port, "dbname=" ++ c.name,
    "user=" ++ c.user] ++ (c.password.map ("password=" ++ ·)).toList)

/-- A document with the standard settings that explains them. -/
def Settings.sample : String := "\n".intercalate [
  "# Arches relational export configuration",
  "",
  "[export]",
  "# Longest identifier generated (key columns add \"_id\")",
  "identifier_max_length = 60",
  "",
  "# Spatial reference of stored GeoJSON",
  "srid = 4326",
  "",
  "# Preferred language for localized text",
  "language = \"en\"",
  "",
  "# Table recording the origin of every derived column",
  "registry_schema = \"public\"",
  "registry_table = \"__arches_relational_registry\"",
  "",
  "# Graphs never exported (the system settings model by default)",
  "excluded_graphs = [\"ff623370-fa12-11e6-b98b-6c4008b05c4c\"]",
  "",
  "# Database read by the shapefile export",
  "[database]",
  "host = \"localhost\"",
  "port = 5432",
  "name = \"arches\"",
  "user = \"postgres\"",
  "# Prefer ARCHES_DB_PASSWORD over storing the password here",
  "# password = \"\"",
  ""]

end ResourceTables
