import Std.Time.Format
import ResourceTables.Command.Arguments

/-!
# ResourceTables.Main

The program: it runs the command of its arguments on the files of the system, prints what the
command has to say, and ends with its status.
-/

namespace ResourceTables

open System (FilePath)
open Files (FileError FileReader FileWriter)

/-- The cause that the system tells. -/
def FileError.ofIO : IO.Error → FileError
  | .noFileOrDirectory .. => .notFound
  | .alreadyExists .. => .alreadyThere
  | .inappropriateType _ 20 _ => .notDirectory
  | .inappropriateType _ 21 _ => .isDirectory
  | e => .other (toString e)

/-- An action on files with its failure as a value. -/
def attempt {α : Type} (action : IO α) : IO (Except FileError α) := do
  return (← action.toBaseIO).mapError FileError.ofIO

instance : FileReader IO where
  isThere path := FilePath.pathExists path
  isDirectory path := FilePath.isDir path
  isFile path := return (← FilePath.pathExists path) && !(← FilePath.isDir path)
  list path := attempt do return ((← FilePath.readDir path).map (·.fileName)).toList
  readText path := do
    match ← attempt (IO.FS.readBinFile path) with
    | .error e => return .error e
    | .ok bytes => match String.fromUTF8? bytes with
      | some text => return .ok text
      | none => return .error .notText

instance : FileWriter IO where
  makeDirectories path := attempt (IO.FS.createDirAll path)
  writeText path text := attempt (IO.FS.writeFile path text)

/-- The time now, as it is written in a script. -/
def timeNow : IO String := do
  let now := Std.Time.PlainDateTime.ofWallTime ((← Std.Time.Timestamp.now).toWallTime .zero)
  return now.format "uuuu-MM-dd'T'HH:mm:ss.SSSSSSSSS" ++ "+00:00"

/-- The variables of the environment that settings take. -/
def environment : IO (List (String × String)) :=
  Settings.variableNames.filterMapM fun name => return (← IO.getEnv name).map (name, ·)

/-- How the program is used. -/
def usage : String :=
  "Usage: arches-relational [-v] <schema | shp | validate | help> [options] [package]"

/-- Runs the program and tells its status. -/
def run (args : List String) : IO UInt32 := do
  match Command.ofArguments args with
  | .error .misuse =>
    IO.eprintln usage
    return 2
  | .error .help =>
    IO.println usage
    return 0
  | .error .version =>
    IO.println Command.versionLine
    return 0
  | .ok command =>
    let known ← environment
    let outcome : Outcome ← command.run ⟨fun name => known.lookup name, ← timeNow⟩
    outcome.warnings.forM IO.eprintln
    IO.print outcome.output
    (outcome.notes ++ outcome.failure.toList.map CommandError.line).forM IO.eprintln
    return outcome.status.toUInt32

end ResourceTables

/-- Runs the program. -/
def main (args : List String) : IO UInt32 := ResourceTables.run args
