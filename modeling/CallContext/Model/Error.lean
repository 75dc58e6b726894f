import CallContext.Files.Path

/-!
# Errors

What can go wrong with a module is an `AnalysisError`.  For the module that was asked for it ends
the analysis; for other modules it is noted down as a `Diagnostic`.
-/

namespace CallContext

/-- Why a module cannot be analysed. -/
inductive AnalysisError where
  /-- The text of the module is not valid. -/
  | parse (moduleName : String) (line : Nat) (message : String)
  /-- The module has no top-level definition of a name. -/
  | elementNotFound (moduleName name : String)
  /-- An import that has to be local leads to no file of the project. -/
  | unresolvedImport (moduleName reference : String)
  /-- A file cannot be read. -/
  | io (path : Path) (cause : String)
deriving DecidableEq, Repr

/-- The kinds of problems that are noted down. -/
inductive DiagnosticKind where
  | parse
  | unresolvedImport
  | elementNotFound
  | io
deriving DecidableEq, Repr

/-- The word for a kind. -/
def DiagnosticKind.name : DiagnosticKind → String
  | parse => "Parse"
  | unresolvedImport => "UnresolvedImport"
  | elementNotFound => "ElementNotFound"
  | io => "Io"

namespace AnalysisError

/-- The words for an error. -/
def message : AnalysisError → String
  | parse moduleName line why =>
    "failed to parse " ++ moduleName ++ " (line " ++ toString line ++ "): " ++ why
  | elementNotFound moduleName name => "element `" ++ name ++ "` not found in " ++ moduleName
  | unresolvedImport moduleName reference =>
    "unresolved local import `" ++ reference ++ "` in " ++ moduleName
  | io path cause => "failed to read " ++ path.text ++ ": " ++ cause

def kind : AnalysisError → DiagnosticKind
  | parse .. => .parse
  | elementNotFound .. => .elementNotFound
  | unresolvedImport .. => .unresolvedImport
  | io .. => .io

def isParse (e : AnalysisError) : Bool := e.kind = .parse

/-- What is behind an error, if its words name something. -/
def cause? : AnalysisError → Option String
  | io _ cause => some cause
  | _ => none

end AnalysisError

/-- A problem with a file that did not end the analysis. -/
structure Diagnostic where
  path : Path
  kind : DiagnosticKind
  message : String
deriving DecidableEq, Repr

namespace Diagnostic

/-- Notes an error down. -/
def ofError (path : Path) (e : AnalysisError) : Diagnostic := ⟨path, e.kind, e.message⟩

/-- The problem as it is displayed. -/
def display (d : Diagnostic) : String := d.path.text ++ ": " ++ d.message

end Diagnostic

end CallContext
