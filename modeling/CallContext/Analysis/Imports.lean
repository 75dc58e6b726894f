import CallContext.Model.Import
import CallContext.Model.Sorted
import CallContext.Syntax.Module

/-!
# Imports of a module

Every import statement at any depth, one record for each module that it names.
-/

namespace CallContext

namespace Node

variable {text : List Char}

/-- The name on the module's side: an alias does not count. -/
def importedName (n : Node text) : String :=
  if n.kind = Symbol.aliasedImport then ((n.child? .name).getD n).source else n.source

/-- The module that names are imported from, with the number of dots before it. -/
def moduleReference (n : Node text) : String × Nat :=
  if n.kind = Symbol.relativeImport then
    let dots := ((n.childOfKind? Symbol.importDots).map source).getD ""
    let level := dots.toList.count '.'
    let dotted := ((n.childOfKind? Symbol.dottedName).map source).getD ""
    (String.ofList (List.replicate level '.') ++ dotted, level)
  else (n.source, 0)

/-- The records of an import statement. -/
def imports (n : Node text) : List ImportRecord :=
  let names := (n.childrenOf .name).map importedName
  if n.kind = Symbol.importStatement then
    names.map fun name => ⟨name, 0, [], .wholeModule, n.source, n.startLine⟩
  else if n.kind = Symbol.importFromStatement then
    match n.child? .moduleName with
    | none => []
    | some moduleName =>
      let (reference, level) := moduleName.moduleReference
      let kind : ImportKind :=
        if (n.childOfKind? Symbol.wildcardImport).isSome then .wildcard else .names
      [⟨reference, level, nameSet names, kind, n.source, n.startLine⟩]
  else if n.kind = Symbol.futureImportStatement then
    [⟨"__future__", 0, nameSet names, .names, n.source, n.startLine⟩]
  else []

end Node

/-- All imports of a module, in the order of the text. -/
def Module.imports (m : Module) : List ImportRecord :=
  (m.root.walk.filter (·.tag = .importing)).flatMap Node.imports

end CallContext
