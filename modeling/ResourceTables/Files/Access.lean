import ResourceTables.Files.Path

/-!
# ResourceTables.Files.Access

What the program asks of files and directories, for any monad that answers. All of the program's own
work on files is written against these classes, so it can be run on a tree of files that is a value
as well as on the files of a system.
-/

namespace ResourceTables.Files

/-- Why a file or directory cannot be used. -/
inductive FileError
  | notFound
  | alreadyThere
  | notDirectory
  | isDirectory
  /-- The content is no text. -/
  | notText
  /-- The path holds a NUL. -/
  | badName
  | other (text : String)
  deriving DecidableEq

/-- The wording of a cause. -/
def FileError.message : FileError → String
  | notFound => "No such file or directory (os error 2)"
  | alreadyThere => "File exists (os error 17)"
  | notDirectory => "Not a directory (os error 20)"
  | isDirectory => "Is a directory (os error 21)"
  | notText => "stream did not contain valid UTF-8"
  | badName => "file name contained an unexpected NUL byte"
  | other text => text

/-- Files that can be read. -/
class FileReader (m : Type → Type) where
  /-- Whether there is something at a path. -/
  isThere : String → m Bool
  isDirectory : String → m Bool
  isFile : String → m Bool
  /-- The names in a directory, in any order. -/
  list : String → m (Except FileError (List String))
  readText : String → m (Except FileError String)

/-- Files stay what they are where a computation may fail. -/
instance {ε : Type} {m : Type → Type} [Monad m] [FileReader m] : FileReader (ExceptT ε m) where
  isThere path := ExceptT.lift (FileReader.isThere path)
  isDirectory path := ExceptT.lift (FileReader.isDirectory path)
  isFile path := ExceptT.lift (FileReader.isFile path)
  list path := ExceptT.lift (FileReader.list path)
  readText path := ExceptT.lift (FileReader.readText path)

/-- Files that can be written. -/
class FileWriter (m : Type → Type) where
  /-- Makes a directory and those it lies in, as far as they are not there. -/
  makeDirectories : String → m (Except FileError Unit)
  /-- Writes a text in place of a file's content. -/
  writeText : String → String → m (Except FileError Unit)

instance {ε : Type} {m : Type → Type} [Monad m] [FileWriter m] : FileWriter (ExceptT ε m) where
  makeDirectories path := ExceptT.lift (FileWriter.makeDirectories path)
  writeText path text := ExceptT.lift (FileWriter.writeText path text)

end ResourceTables.Files
