import CallContext.Project.Analysis
import CallContext.Report.Json

/-!
# Reports as JSON

The full report of an analysis has everything in it; the minimal one has names and lines, but no
source text.
-/

namespace CallContext

/-- A member that is left out if it has no value. -/
def Json.optional (key : String) : Option String → List (String × Json)
  | some s => [(key, .str s)]
  | none => []

/-- The members of an element in their usual order. -/
def Element.members (e : Element) : List (String × Json) :=
  [("name", .str e.name), ("kind", .str e.kind.name), ("source_text", .str e.source),
    ("start_line", .num e.startLine), ("end_line", .num e.endLine),
    ("start_byte", .num e.startByte), ("end_byte", .num e.endByte)] ++
    Json.optional "docstring" e.docstring

/-- An element with its keys in increasing order. -/
def Element.toJson (e : Element) : Json := .sorted e.members

/-- The elements of a catalog by name, in the order of the catalog. -/
def Catalog.toJson (c : Catalog) : Json := .obj (c.elements.map fun e => (e.name, .obj e.members))

/-- A set of callees. -/
def CalleeSet.toJson (s : CalleeSet) : Json :=
  .obj [("names", .strings s.names), ("recursive", .bool s.recursive)]

/-- An import statement; the module that it stands in is left out. -/
def ImportStatement.toJson (s : ImportStatement) : Json :=
  .sorted
    ([("module_reference", .str s.reference), ("imported_names", .strings s.names),
      ("kind", .str s.kind.name), ("level", .num s.level), ("is_local", .bool s.isLocal),
      ("raw_text", .str s.source), ("line", .num s.line)] ++
      Json.optional "resolved_path" (s.resolved.map (·.text)))

/-- A problem that was noted down. -/
def Diagnostic.toJson (d : Diagnostic) : Json :=
  .sorted [("path", .str d.path.text), ("kind", .str d.kind.name), ("message", .str d.message)]

namespace Analysis

/-- The full report. -/
def toJson (a : Analysis) : Json :=
  .sorted
    [("module", .str a.path.text), ("element", a.element.toJson), ("callees", .strings a.callees),
      ("recursive", .bool a.recursive),
      ("callers", .sorted (a.callers.map fun (id, e) => (id.display, e.toJson))),
      ("imported_modules", .strings a.importedModules),
      ("import_statements", .arr (a.importStatements.map ImportStatement.toJson)),
      ("local_import_sources",
        .sorted (a.localSources.elements.map fun e => (e.name, e.toJson))),
      ("diagnostics", .arr (a.diagnostics.map Diagnostic.toJson))]

/-- The minimal report. -/
def toMinimalJson (a : Analysis) : Json :=
  .sorted
    [("meta", .sorted
      [("callees", .num a.callees.length), ("callers", .num a.callers.length),
        ("imports", .num a.importedModules.length), ("format", .str "minimal")]),
      ("element", .sorted
        [("m", .str a.path.text), ("n", .str a.element.name), ("t", .num a.element.kind.code),
          ("l", .arr [.num a.element.startLine, .num a.element.endLine])]),
      ("callees", .strings a.callees),
      ("recursive", .bool a.recursive),
      ("callers", .arr (a.callers.map fun (id, e) => .arr [.str id.display, .num e.startLine])),
      ("imports", .strings a.importedModules),
      ("local",
        .arr (a.localSources.elements.map fun e => .arr [.str e.name, .num e.kind.code]))]

end Analysis

/-- Which report is written, and how. -/
structure JsonFormat where
  minimal : Bool := false
  pretty : Bool := false

/-- The text of the report of an analysis. -/
def JsonFormat.render (f : JsonFormat) (a : Analysis) : String :=
  let value := if f.minimal then a.toMinimalJson else a.toJson
  if f.pretty then value.pretty else value.compact

end CallContext
