import CallContext.CommandLine.Arguments
import CallContext.Project.Config
import CallContext.Report.Context
import CallContext.Report.Record
import CallContext.Text.Blank

/-!
# Running a command

`CommandLine.run` carries out what the arguments ask for on a file system, and says what is printed,
which file is written and with which code the program ends.
-/

namespace CallContext

namespace CommandLine

open Arguments

/-- Why a command fails. -/
inductive Failure where
  | config (e : ConfigError)
  /-- The project at a path cannot be used. -/
  | root (path : Path) (e : AnalysisError)
  | analysis (e : AnalysisError)
  /-- The module at a path has no elements. -/
  | noElements (path : Path)
  /-- The file at a path cannot be written. -/
  | output (path : Path) (e : FileError)
deriving DecidableEq, Repr

/-- The words for a failure, and for what is behind it. -/
def Failure.chain : Failure → String × List String
  | config e => (e.message, [])
  | root path e => ("cannot open project root " ++ path.text, e.message :: e.cause?.toList)
  | analysis e => (e.message, e.cause?.toList)
  | noElements path => ("No functions or classes found in " ++ path.text ++ ".", [])
  | output path e => ("cannot write " ++ path.text, [e.message])

/-- Puts something before each further line of a text. -/
def indentLines (indent text : String) : String :=
  joinTexts ("\n" ++ indent) ((splitParts '\n' text.toList).map String.ofList)

/-- The causes with their numbers. -/
def numbered : Nat → List String → List String
  | _, [] => []
  | n, cause :: more =>
    ("    " ++ toString n ++ ": " ++ indentLines "       " cause) :: numbered (n + 1) more

/-- The report of a failure. -/
def Failure.display (f : Failure) : String :=
  let (message, causes) := f.chain
  let lines :=
    match causes with
    | [] => []
    | [cause] => ["", "Caused by:", "    " ++ indentLines "    " cause]
    | causes => "" :: "Caused by:" :: numbered 0 causes
  joinTexts "\n" (("Error: " ++ message) :: lines) ++ "\n"

/-- What a command does. -/
structure Effect where
  code : Nat := 0
  stdout : String := ""
  stderr : String := ""
  /-- A file that is written. -/
  written : Option (Path × String) := none
  /-- The file system afterwards. -/
  files : FileSystem

/-- The settings with what the options change. -/
def settingsOf (options : Options) (settings : Settings) : Settings :=
  let extensions :=
    (options.extensions.map fun s =>
      String.ofList ((trimBlanks s).toList.dropWhile (· = '.'))).filter (· ≠ "")
  let excluded := (options.exclude.map trimBlanks).filter (· ≠ "")
  { scan :=
      { settings.scan with
        extensions := if extensions.isEmpty then settings.scan.extensions else extensions
        excludedDirectories := settings.scan.excludedDirectories ++ excluded }
    parallel := settings.parallel && !options.noParallel }

/-- The project that the options name. -/
def projectOf (fs : FileSystem) (options : Options) : Except Failure Project :=
  match Config.load fs options.root with
  | .error e => .error (.config e)
  | .ok settings =>
    match Project.load fs options.root (settingsOf options settings).scan with
    | .error e => .error (.root options.root e)
    | .ok p => .ok p

/-- One line for each problem. -/
def warnings (ds : List Diagnostic) : String :=
  String.join (ds.map fun d => "Warning: " ++ d.display ++ "\n")

/-- Lists the elements of a module. -/
def listElements (fs : FileSystem) (p : Project) (path : Path) : Except Failure Effect :=
  match p.catalog fs path with
  | .error e => .error (.analysis e)
  | .ok c =>
    if c.isEmpty then .error (.noElements path)
    else
      let line (e : Element) : String :=
        e.kind.name ++ ": " ++ e.name ++ " (line " ++ toString e.startLine ++ ")\n"
      .ok { stdout := String.join (c.elements.map line), files := fs }

/-- Lists the elements that call a name. -/
def listCallers (fs : FileSystem) (p : Project) (name : String) : Effect :=
  let report := p.findCallers fs name
  let line (entry : ElementId × Element) : String :=
    entry.1.display ++ " (line " ++ toString entry.2.startLine ++ ")\n"
  { stdout := String.join (report.callers.map line)
    stderr := warnings report.diagnostics ++ toString report.callers.length ++
      " caller functions found in " ++ toString report.filesScanned ++ " files\n"
    files := fs }

/-- The text of an analysis in a format. -/
def renderAs (format : OutputFormat) (a : Analysis) : String :=
  match format with
  | .context => ContextFormat.render {} a
  | .json => JsonFormat.render {} a
  | .jsonPretty => JsonFormat.render { pretty := true } a
  | .jsonMinimal => JsonFormat.render { minimal := true } a

/-- Writes an analysis to a file or prints it. -/
def printAnalysis (fs : FileSystem) (a : Analysis) (format : OutputFormat)
    (output : Option Path) : Except Failure Effect :=
  let text := renderAs format a
  let notes := warnings a.diagnostics ++ a.summary ++ "\n"
  match output with
  | none => .ok { stdout := text ++ "\n", stderr := notes, files := fs }
  | some path =>
    match fs.write path text with
    | .error e => .error (.output path e)
    | .ok files =>
      .ok
        { stderr := "Generated " ++ path.text ++ "\n" ++ notes
          written := some (path, text)
          files := files }

/-- Carries out a command. -/
def execute (fs : FileSystem) (options : Options) (command : Command) : Except Failure Effect :=
  match projectOf fs options with
  | .error f => .error f
  | .ok p =>
    match command with
    | .elements path => listElements fs p path
    | .callers name => .ok (listCallers fs p name)
    | .analyze path element format output =>
      match p.analyze fs path element with
      | .error e => .error (.analysis e)
      | .ok a => printAnalysis fs a format output

/-- The name and version of the program. -/
def versionText : String := "pyqa 0.1.0\n"

/-- How the program is used. -/
def usageText : String :=
  joinTexts "\n"
    ["Extract the call context of a Python function or class", "",
      "Usage: pyqa [OPTIONS] <COMMAND>", "",
      "Commands:",
      "  elements <MODULE>            List the top-level functions and classes of a module",
      "  callers <NAME>               List every element in the project that calls NAME",
      "  analyze <MODULE> <ELEMENT>   Collect source, callees, callers and imports of one element",
      "", "Options:",
      "  -r, --root <DIR>       Project root directory",
      "      --ext <EXTS>       Comma-separated source extensions",
      "      --exclude <DIRS>   Comma-separated directory names to skip",
      "      --no-parallel      Scan files on a single thread",
      "  -v, --verbose...       Increase log verbosity",
      "  -f, --format <FORMAT>  Output format: context, json, json-pretty, json-minimal",
      "  -o, --output <FILE>    Write an analysis to FILE instead of stdout",
      "  -h, --help             Print help",
      "  -V, --version          Print version", ""]

/-- Carries out what the arguments ask for. -/
def run (fs : FileSystem) (arguments : List String) : Effect :=
  match Arguments.parse? arguments with
  | none => { code := 2, stderr := usageText, files := fs }
  | some .version => { stdout := versionText, files := fs }
  | some .help => { stdout := usageText, files := fs }
  | some (.run options command) =>
    match execute fs options command with
    | .ok effect => effect
    | .error failure => { code := 1, stderr := failure.display, files := fs }

end CommandLine

end CallContext
