import ResourceTables.Files.Access
import ResourceTables.Settings

/-!
# ResourceTables.Settings.Load

Settings in files. A file that is not there is no failure: the standard settings hold then. In both
cases variables of the environment go before.
-/

namespace ResourceTables.Settings

open Files (FileReader)

/-- The name of the file with the settings for a package. -/
def fileName : String := ".arches-export.toml"

variable {m : Type → Type} [Monad m] [FileReader m]

/-- Loads the settings of a file. -/
def load (value? : String → Option String) (path : String) : ExceptT SettingsError m Settings := do
  if ← FileReader.isThere path then
    match ← FileReader.readText path with
    | .error e => throw (.io ("Failed to read config: " ++ e.message))
    | .ok text => return (← parse text).override value?
  else return ({} : Settings).override value?

end ResourceTables.Settings
