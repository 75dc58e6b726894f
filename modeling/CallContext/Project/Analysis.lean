import CallContext.Project.Imports

/-!
# Analysis of an element

Everything about one element of a project: its source, what it calls, what calls it, and what its
module imports.
-/

namespace CallContext

/-- The context of an element. -/
structure Analysis where
  /-- The path of the module from the root of the project. -/
  path : Path
  element : Element
  callees : List String
  /-- The element calls its own name. -/
  recursive : Bool
  callers : ElementMap
  importedModules : List String
  importStatements : List ImportStatement
  localSources : Catalog
  diagnostics : List Diagnostic

namespace Project

/-- Analyses an element of the module that a path means.  Problems with that module end the
analysis, problems with others are noted down. -/
def analyze (p : Project) (fs : FileSystem) (path : Path) (name : String) :
    Except AnalysisError Analysis :=
  let path := p.locate fs path
  let shown := p.relativePath path
  match fs.module path with
  | .error e => .error e
  | .ok m =>
    match m.definitions.find? (·.element.name = name) with
    | none => .error (.elementNotFound shown.text name)
    | some d =>
      match p.resolveImports fs path with
      | .error e => .error e
      | .ok imports =>
        let callees := d.node.callees name
        let report := p.findCallers fs name
        let sources := p.localSources fs imports.statements
        .ok
          { path := shown
            element := d.element
            callees := callees.names
            recursive := callees.recursive
            callers := report.callers
            importedModules := imports.modules
            importStatements := imports.statements
            localSources := sources.elements
            diagnostics := report.diagnostics ++ sources.diagnostics }

end Project

end CallContext
