import CallContext.Project.Analysis

/-!
# The context block

The report of an analysis as plain text.  Sections with nothing to show are left out.
-/

namespace CallContext

/-- Which sections the context block has. -/
structure ContextFormat where
  imports : Bool := true
  localSources : Bool := true
  callers : Bool := true

namespace ContextFormat

/-- Two records of one import statement next to each other. -/
def sameStatement (a b : ImportStatement) : Bool :=
  a.origin.same b.origin && a.line = b.line && a.source = b.source

/-- The texts of import statements, each once if its records stand next to each other. -/
def importLines : (previous : Option ImportStatement) → List ImportStatement → List String
  | _, [] => []
  | previous, s :: more =>
    if previous.any (sameStatement · s) then importLines previous more
    else s.source :: importLines (some s) more

/-- The texts of import statements, one below the other. -/
def importSection (statements : List ImportStatement) : List String :=
  if statements.isEmpty then []
  else
    "Import Statements:\n" :: (importLines none statements).flatMap (fun s => [s, "\n"]) ++ ["\n"]

/-- The sources of imported elements. -/
def localSection (c : Catalog) : List String :=
  if c.isEmpty then []
  else
    "Locally Imported Functions/Classes:\n" :: c.elements.flatMap fun e => [e.source, "\n\n"]

/-- The sources of callers, each below a line that says where it stands. -/
def callerSection (callers : ElementMap) : List String :=
  if callers.isEmpty then []
  else
    "Caller Methods:\n" :: callers.flatMap fun (id, e) =>
      ["# ", id.display, " (line ", toString e.startLine, ")\n", e.source, "\n\n"]

/-- The names of the callees. -/
def calleeSection (callees : List String) : List String :=
  if callees.isEmpty then [] else ["Invoked Functions:\n", joinTexts ", " callees, "\n"]

/-- The context block of an analysis. -/
def render (f : ContextFormat) (a : Analysis) : String :=
  String.join
    (["--CODE STARTING--\n\n"] ++
      (if f.imports then importSection a.importStatements else []) ++
      (if f.localSources then localSection a.localSources else []) ++
      (if f.callers then callerSection a.callers else []) ++
      calleeSection a.callees ++
      ["------\n", "Code to perform QA Checks on:\n", a.element.source, "\n"])

end ContextFormat

/-- One line that counts what an analysis has found. -/
def Analysis.summary (a : Analysis) : String :=
  toString a.callees.length ++ " invoked functions found in " ++ a.element.name ++ ". " ++
    toString a.importedModules.length ++ " imported modules found. " ++
    toString a.callers.length ++ " caller functions found."

end CallContext
