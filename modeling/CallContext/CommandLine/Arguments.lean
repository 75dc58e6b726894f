import CallContext.Files.Path

/-!
# Arguments

The command line has a level for the program and one for the command that it names.  Options come
as `--name value`, `--name=value`, `-n value`, `-nvalue` or `-n=value`, and single-letter options
without a value may be written together.  After `--` nothing is an option.  `Arguments.parse?` gives
`none` for arguments that cannot be understood.
-/

namespace CallContext

namespace Arguments

/-- The options. -/
inductive OptionName where
  | root
  | extensions
  | exclude
  | noParallel
  | verbose
  | help
  | version
  | format
  | output
deriving DecidableEq, Repr

namespace OptionName

/-- The letter of an option. -/
def short? : OptionName → Option Char
  | root => some 'r'
  | verbose => some 'v'
  | help => some 'h'
  | version => some 'V'
  | format => some 'f'
  | output => some 'o'
  | _ => none

/-- The name of an option. -/
def long : OptionName → List Char
  | root => ['r', 'o', 'o', 't']
  | extensions => ['e', 'x', 't']
  | exclude => ['e', 'x', 'c', 'l', 'u', 'd', 'e']
  | noParallel => ['n', 'o', '-', 'p', 'a', 'r', 'a', 'l', 'l', 'e', 'l']
  | verbose => ['v', 'e', 'r', 'b', 'o', 's', 'e']
  | help => ['h', 'e', 'l', 'p']
  | version => ['v', 'e', 'r', 's', 'i', 'o', 'n']
  | format => ['f', 'o', 'r', 'm', 'a', 't']
  | output => ['o', 'u', 't', 'p', 'u', 't']

/-- The option has a value. -/
def takesValue : OptionName → Bool
  | root | extensions | exclude | format | output => true
  | _ => false

/-- The option may be given several times. -/
def mayRepeat : OptionName → Bool
  | extensions | exclude | verbose => true
  | _ => false

/-- The options that every level has. -/
def shared : List OptionName := [root, extensions, exclude, noParallel, verbose, help]

end OptionName

/-- The forms in which an analysis is written. -/
inductive OutputFormat where
  | context
  | json
  | jsonPretty
  | jsonMinimal
deriving DecidableEq, Repr

/-- The format of a name. -/
def OutputFormat.ofName? (s : String) : Option OutputFormat :=
  if s = "context" then some .context
  else if s = "json" then some .json
  else if s = "json-pretty" then some .jsonPretty
  else if s = "json-minimal" then some .jsonMinimal
  else none

/-- A value that an option can have. -/
def isValidValue (o : OptionName) (value : String) : Bool :=
  match o with
  | .root | .output => value ≠ ""
  | .format => (OutputFormat.ofName? value).isSome
  | _ => true

/-- What was read of a level. -/
structure Level where
  /-- The options with their values, the last first; without a value they have an empty one. -/
  options : List (OptionName × String)
  /-- The arguments that are no options, the last first. -/
  positionals : List String
  /-- An option that waits for its value. -/
  pending : Option OptionName
  /-- Nothing after this is an option. -/
  trailing : Bool

/-- A level of which nothing was read. -/
def Level.empty : Level := ⟨[], [], none, false⟩

/-- How reading goes on. -/
inductive Reading where
  | bad
  /-- The program is asked for its version or for help. -/
  | asked (option : OptionName)
  | more (level : Level)

/-- Takes an option. -/
def record (level : Level) (o : OptionName) (value : String) : Reading :=
  if o = .help || o = .version then .asked o
  else if (!o.mayRepeat && (level.options.any (·.1 = o))) || !isValidValue o value then .bad
  else .more { level with options := (o, value) :: level.options }

/-- Takes an option by its name, with what stands behind an equals sign. -/
def readLong (known : List OptionName) (level : Level) (chars : List Char) : Reading :=
  let name := chars.takeWhile (· ≠ '=')
  match known.find? (·.long = name), chars.dropWhile (· ≠ '=') with
  | none, _ => .bad
  | some o, '=' :: value => if o.takesValue then record level o (String.ofList value) else .bad
  | some o, _ => if o.takesValue then .more { level with pending := some o } else record level o ""

/-- Takes options by their letters. -/
def readShort (known : List OptionName) (level : Level) : List Char → Reading
  | [] => .more level
  | c :: cs =>
    match known.find? (·.short? = some c) with
    | none => .bad
    | some o =>
      if o.takesValue then
        match cs with
        | [] => .more { level with pending := some o }
        | '=' :: value => record level o (String.ofList value)
        | value => record level o (String.ofList value)
      else
        match record level o "" with
        | .more level => readShort known level cs
        | stopped => stopped

/-- Takes an argument that is no option, if there is room for it. -/
def readPositional (room : Nat) (level : Level) (argument : String) : Reading :=
  if level.positionals.length < room then
    .more { level with positionals := argument :: level.positionals }
  else .bad

/-- Takes one argument that is no command. -/
def readOne (known : List OptionName) (room : Nat) (level : Level) (argument : String) : Reading :=
  if level.trailing then readPositional room level argument
  else
    match level.pending, argument.toList with
    | some _, '-' :: _ :: _ => .bad
    | some o, _ => record { level with pending := none } o argument
    | none, ['-', '-'] => .more { level with trailing := true }
    | none, '-' :: '-' :: chars => readLong known level chars
    | none, '-' :: c :: cs => readShort known level (c :: cs)
    | none, _ => readPositional room level argument

/-- What the arguments of a level come to. -/
inductive Outcome where
  | bad
  | asked (option : OptionName)
  | done (level : Level)
  /-- A command, with the arguments after it. -/
  | command (level : Level) (name : String) (rest : List String)

/-- Reads the arguments of a level up to a command; there is room for some that are no options. -/
def read (known : List OptionName) (room : Nat) (isCommand : String → Bool) :
    Level → List String → Outcome
  | level, [] => if level.pending.isSome then .bad else .done level
  | level, argument :: rest =>
    if !level.trailing && level.pending.isNone && isCommand argument then
      .command level argument rest
    else
      match readOne known room level argument with
      | .bad => .bad
      | .asked o => .asked o
      | .more level => read known room isCommand level rest

/-! ### Requests -/

/-- The options that every command has. -/
structure Options where
  root : Path
  /-- Extensions that replace those of the settings. -/
  extensions : List String
  /-- Directories that are left out besides those of the settings. -/
  exclude : List String
  noParallel : Bool
deriving DecidableEq, Repr

/-- What the program is to do. -/
inductive Command where
  /-- List the elements of a module. -/
  | elements (path : Path)
  /-- List the elements that call a name. -/
  | callers (name : String)
  /-- Analyse an element of a module. -/
  | analyze (path : Path) (element : String) (format : OutputFormat) (output : Option Path)
deriving DecidableEq, Repr

/-- What the arguments ask for. -/
inductive Request where
  | version
  | help
  | run (options : Options) (command : Command)
deriving DecidableEq, Repr

/-- The names of the commands. -/
def isCommandName (s : String) : Bool :=
  s = "elements" || s = "callers" || s = "analyze" || s = "help"

/-- The last value of an option. -/
def value? (options : List (OptionName × String)) (o : OptionName) : Option String :=
  options.lookup o

/-- The values of a list option: those of the command, or else those of the program. -/
def values (inner outer : List (OptionName × String)) (o : OptionName) : List String :=
  let given (options : List (OptionName × String)) : List String :=
    (options.reverse.filter (·.1 = o)).flatMap fun (_, value) =>
      (splitParts ',' value.toList).map String.ofList
  if (value? inner o).isSome then given inner else given outer

/-- The options of a request; those after the command win. -/
def optionsOf (inner outer : List (OptionName × String)) : Options :=
  { root := ⟨(value? inner .root <|> value? outer .root).getD "."⟩
    extensions := values inner outer .extensions
    exclude := values inner outer .exclude
    noParallel := (value? inner .noParallel <|> value? outer .noParallel).isSome }

/-- The command of a name, if the arguments that are no options fit. -/
def commandOf? (name : String) (level : Level) : Option Command :=
  match name, level.positionals.reverse with
  | "elements", [path] => if path = "" then none else some (.elements ⟨path⟩)
  | "callers", [target] => some (.callers target)
  | "analyze", [path, element] =>
    if path = "" then none
    else
      let format := ((value? level.options .format).bind OutputFormat.ofName?).getD .context
      some (.analyze ⟨path⟩ element format ((value? level.options .output).map (⟨·⟩)))
  | _, _ => none

/-- Requests that need no command. -/
def requestOf (o : OptionName) : Request := if o = .version then .version else .help

/-- What the arguments ask for. -/
def parse? (arguments : List String) : Option Request :=
  match read (.version :: OptionName.shared) 0 isCommandName Level.empty arguments with
  | .bad => none
  | .asked o => some (requestOf o)
  | .done _ => none
  | .command outer name rest =>
    if name = "help" then
      match rest with
      | [] => some .help
      | [topic] => if isCommandName topic then some .help else none
      | _ => none
    else
      let (known, room) :=
        if name = "analyze" then (.format :: .output :: OptionName.shared, 2)
        else (OptionName.shared, 1)
      match read known room (fun _ => false) Level.empty rest with
      | .asked o => some (requestOf o)
      | .done inner =>
        (commandOf? name inner).map (.run (optionsOf inner.options outer.options))
      | _ => none

end Arguments

end CallContext
