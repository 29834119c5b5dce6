import ResourceTables.Command

/-!
# ResourceTables.Command.Arguments

The arguments of the program: options, the name of a command, and the command's own options and
positional arguments.

Design points:

* An option has a name after two hyphens, and it may have a letter. Letters may be gathered after
  one hyphen. A value follows as the next argument, after an equals sign, or right after a letter.
* Arguments are read in order, and the first one that asks for help or the version, or cannot be
  read, settles what is answered. What is missing is only noticed at the end.
-/

namespace ResourceTables.Command

/-! ### Options -/

/-- Why the arguments give no command. -/
inductive Stop
  | misuse
  | help
  | version
  deriving DecidableEq

/-- What an option is followed by, and whether it may be given again. -/
inductive OptionKind
  /-- Given at most once, without a value. -/
  | switch
  /-- Given any number of times, without a value. -/
  | counter
  /-- Given at most once, with a path. -/
  | path
  /-- Given at most once, with a text. -/
  | text
  /-- Given any number of times, with a text each. -/
  | texts
  /-- Asks for something else than a command. -/
  | stop (s : Stop)
  deriving DecidableEq

/-- An option. -/
structure Flag where
  name : String
  letter : Option Char
  kind : OptionKind

namespace Flag

/-- Whether an option has a value. -/
def takesValue (f : Flag) : Bool := f.kind == .path || f.kind == .text || f.kind == .texts

/-- Whether an option may be given again. -/
def isRepeatable (f : Flag) : Bool := f.kind == .counter || f.kind == .texts

end Flag

/-- The option that asks for more words on the way; there are none, but it is known. -/
def verbose : Flag := ⟨"verbose", 'v', .counter⟩

/-- The option that asks for help. -/
def help : Flag := ⟨"help", 'h', .stop .help⟩

/-- The options before the name of a command. -/
def mainFlags : List Flag := [verbose, help, ⟨"version", 'V', .stop .version⟩]

/-- The options of the command for exports. -/
def schemaFlags : List Flag :=
  [verbose, help, ⟨"config", 'c', .path⟩, ⟨"output", 'o', .path⟩, ⟨"force", 'f', .switch⟩,
    ⟨"graph", 'g', .texts⟩, ⟨"schema-only", none, .switch⟩, ⟨"language", 'l', .text⟩]

/-- The options of the command for shapefiles. -/
def shapefilesFlags : List Flag :=
  [verbose, help, ⟨"table", 't', .text⟩, ⟨"dest", 'd', .path⟩, ⟨"config", 'c', .path⟩]

/-- The options of the command for reviews. -/
def validateFlags : List Flag := [verbose, help, ⟨"json", none, .switch⟩]

/-! ### Reading -/

/-- An argument that was read. -/
inductive Argument
  | flag (name : String) (value : String)
  | positional (text : String)

/-- The arguments that were read, last one first. -/
abbrev Arguments := List Argument

namespace Arguments

/-- The values of an option, in order. -/
def values (name : String) (l : Arguments) : List String :=
  l.reverse.filterMap fun
    | .flag n value => if n = name then some value else none
    | .positional _ => none

/-- The value of an option. -/
def value? (name : String) (l : Arguments) : Option String := (l.values name).head?

/-- Whether an option was given. -/
def has (name : String) (l : Arguments) : Bool := !(l.values name).isEmpty

/-- The positional arguments, in order. -/
def positionals (l : Arguments) : List String :=
  l.reverse.filterMap fun
    | .positional text => some text
    | .flag .. => none

/-- One more option. A path is not empty. -/
def addFlag (f : Flag) (value : String) (l : Arguments) : Except Stop Arguments :=
  match f.kind with
  | .stop s => .error s
  | _ =>
    if (!f.isRepeatable && l.has f.name) || (f.kind == .path && value.isEmpty) then .error .misuse
    else .ok (.flag f.name value :: l)

/-- One more positional argument, up to a limit. All of them are paths. -/
def addPositional (limit : Nat) (text : String) (l : Arguments) : Except Stop Arguments :=
  if limit ≤ l.positionals.length || text.isEmpty then .error .misuse
  else .ok (.positional text :: l)

end Arguments

/-- What was read, and the option whose value is to follow. -/
abbrev Pending := Arguments × Option Flag

/-- Reads an option that is given by its name. -/
def readName (flags : List Flag) (l : Arguments) (text : List Char) : Except Stop Pending :=
  let name := String.ofList (text.takeWhile (· != '='))
  match flags.find? (·.name == name), text.dropWhile (· != '=') with
  | none, _ => .error .misuse
  | some f, [] => if f.takesValue then .ok (l, some f) else (l.addFlag f "").map (·, none)
  | some f, _ :: value =>
    if f.takesValue then (l.addFlag f (String.ofList value)).map (·, none) else .error .misuse

/-- Reads options that are given by their letters. -/
def readLetters (flags : List Flag) (l : Arguments) : List Char → Except Stop Pending
  | [] => .ok (l, none)
  | c :: rest =>
    match flags.find? (·.letter == some c) with
    | none => .error .misuse
    | some f =>
      if f.takesValue then match rest with
        | [] => .ok (l, some f)
        | '=' :: value => (l.addFlag f (String.ofList value)).map (·, none)
        | value => (l.addFlag f (String.ofList value)).map (·, none)
      else (l.addFlag f "").bind fun l => readLetters flags l rest

/-- Reads arguments. After two hyphens all of them are positional. -/
def readArguments (flags : List Flag) (limit : Nat) (pending : Pending) :
    List String → Except Stop Arguments
  | [] => if pending.2.isSome then .error .misuse else .ok pending.1
  | arg :: rest =>
    match pending, arg.toList with
    | (_, some _), '-' :: _ :: _ => .error .misuse
    | (l, some f), _ => do readArguments flags limit (← l.addFlag f arg, none) rest
    | (l, none), ['-', '-'] => rest.foldlM (fun l text => l.addPositional limit text) l
    | (l, none), '-' :: '-' :: name => do readArguments flags limit (← readName flags l name) rest
    | (l, none), '-' :: c :: letters => do
      readArguments flags limit (← readLetters flags l (c :: letters)) rest
    | (l, none), _ => do readArguments flags limit (← l.addPositional limit arg, none) rest

/-! ### Commands -/

/-- The command for exports. -/
def schemaOf (l : Arguments) : SchemaRequest where
  package := l.positionals.headD "."
  settings := l.value? "config"
  output := l.value? "output"
  overwrites := l.has "force"
  graphs := l.values "graph"
  withoutRows := l.has "schema-only"
  language := l.value? "language"

/-- The command of a name with its arguments. -/
def ofName (name : String) (args : List String) : Except Stop Command :=
  match name with
  | "schema" => return .schema (schemaOf (← readArguments schemaFlags 1 ([], none) args))
  | "shp" => do
    let l ← readArguments shapefilesFlags 0 ([], none) args
    match l.value? "table", l.value? "dest" with
    | some table, some destination =>
      return .shapefiles ⟨table, destination⟩ (l.value? "config")
    | _, _ => throw .misuse
  | "validate" => do
    let l ← readArguments validateFlags 1 ([], none) args
    return .validate (l.positionals.headD ".") (l.has "json")
  | "help" =>
    match args with
    | [] => throw .help
    | [name] =>
      throw (if ["schema", "shp", "validate", "help"].contains name then .help else .misuse)
    | _ => throw .misuse
  | _ => throw .misuse

/-- The command that arguments give. Options of the program itself come before its name. -/
def ofArguments : List String → Except Stop Command
  | [] => .error .misuse
  | arg :: rest =>
    match arg.toList with
    | ['-', '-'] => .error .misuse
    | '-' :: '-' :: name => do
      let _ ← readName mainFlags [] name
      ofArguments rest
    | '-' :: c :: letters => do
      let _ ← readLetters mainFlags [] (c :: letters)
      ofArguments rest
    | _ => ofName arg rest

/-- The name and version of the program. -/
def versionLine : String := "arches-relational 0.3.0"

end ResourceTables.Command
