import CallContext.Analysis.Calls
import CallContext.Analysis.Imports
import CallContext.Model.ElementId
import CallContext.Project.Basic

/-!
# Modules of a project

Reading modules from files, and the search for callers over all source files.
-/

namespace CallContext

/-- A fault in the text of a module. -/
def SyntaxError.ofModule (fault : SyntaxError) (moduleName : String) : AnalysisError :=
  .parse moduleName fault.line fault.fault.message

/-- Reads a module from a text, which is called `moduleName` in errors. -/
def Module.ofText (moduleName source : String) : Except AnalysisError Module :=
  match Module.parse source with
  | .ok m => .ok m
  | .error fault => .error (fault.ofModule moduleName)

namespace FileSystem

/-- Reads a module from a file. -/
def module (fs : FileSystem) (path : Path) : Except AnalysisError Module :=
  match fs.read path with
  | .error e => .error (.io path e.message)
  | .ok source => Module.ofText path.text source

/-- The elements of the module in a file. -/
def catalog (fs : FileSystem) (path : Path) : Except AnalysisError Catalog :=
  match fs.module path with
  | .error e => .error e
  | .ok m => .ok m.catalog

end FileSystem

/-- The elements of a project that call a name. -/
structure CallerReport where
  callers : ElementMap
  /-- Files that could not be read or parsed. -/
  diagnostics : List Diagnostic
  filesScanned : Nat

namespace Project

/-- The elements of the module that a path means. -/
def catalog (p : Project) (fs : FileSystem) (path : Path) : Except AnalysisError Catalog :=
  fs.catalog (p.locate fs path)

/-- The elements in a source file that call a name. -/
def callersIn (p : Project) (fs : FileSystem) (target : String) (path : Path) :
    Except Diagnostic ElementMap :=
  match fs.module path with
  | .error e => .error (Diagnostic.ofError path e)
  | .ok m =>
    let calling := m.definitions.filter fun d =>
      (d.node.callees d.element.name).contains target
    .ok (calling.map fun d => (⟨p.relativePath path, d.element.name⟩, d.element))

/-- Adds what was found in one file to a report. -/
def addOutcome (report : CallerReport) : Except Diagnostic ElementMap → CallerReport
  | .ok callers => { report with callers := callers.foldl ElementMap.insert report.callers }
  | .error d => { report with diagnostics := report.diagnostics ++ [d] }

/-- The elements in all source files that call a name. -/
def findCallers (p : Project) (fs : FileSystem) (target : String) : CallerReport :=
  let files := p.sourceFiles fs
  (files.map (p.callersIn fs target)).foldl addOutcome ⟨[], [], files.length⟩

end Project

end CallContext
