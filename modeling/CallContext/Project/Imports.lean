import CallContext.Project.Modules

/-!
# Imports in a project

Which imports of a module are local, that is, take something from the project, and the elements
that they bring in.  Only the imported modules themselves are read, not what they import in turn.
-/

namespace CallContext

/-- The imports of a module in a project. -/
structure ResolvedImports where
  /-- The modules as they are written, sorted. -/
  modules : List String
  /-- The statements in the order of the text, one for each module. -/
  statements : List ImportStatement

/-- The elements that local imports bring in. -/
structure LocalSources where
  elements : Catalog
  diagnostics : List Diagnostic

namespace Project

/-- The file of a name that is imported as a module inside another. -/
def submodule (p : Project) (fs : FileSystem) (reference : String) (level : Nat)
    (importer : Path) (name : String) : Option Path :=
  p.resolveModule fs (reference ++ "." ++ name) level importer

/-- What a record means in the module at a path. -/
def resolveRecord (p : Project) (fs : FileSystem) (path : Path) (r : ImportRecord) :
    ImportStatement :=
  let resolved := p.resolveModule fs r.reference r.level path
  let isLocal :=
    resolved.isSome || 0 < r.level ||
      (r.kind = .names && r.names.any fun name =>
        (p.submodule fs r.reference r.level path name).isSome)
  ⟨r.reference, r.names, r.kind, r.level, isLocal, r.source, r.line, resolved, path⟩

/-- The imports of a parsed module at a path. -/
def resolveParsed (p : Project) (fs : FileSystem) (path : Path) (m : Module) : ResolvedImports :=
  ⟨nameSet (m.imports.map (·.reference)), m.imports.map (p.resolveRecord fs path)⟩

/-- The imports of the module that a path means. -/
def resolveImports (p : Project) (fs : FileSystem) (path : Path) :
    Except AnalysisError ResolvedImports :=
  let path := p.locate fs path
  match fs.module path with
  | .error e => .error e
  | .ok m => .ok (p.resolveParsed fs path m)

/-! ### Elements of local imports -/

/-- What has been brought in so far, with the modules that have been read. -/
structure Loading where
  elements : Catalog
  diagnostics : List Diagnostic
  /-- The elements of the modules, none for one that cannot be used. -/
  loaded : List (Path × Option Catalog)

/-- Reads the elements of a module, each module only once. -/
def load? (fs : FileSystem) (path : Path) (l : Loading) : Option Catalog × Loading :=
  match l.loaded.find? (·.1.same path) with
  | some (_, known) => (known, l)
  | none =>
    match fs.catalog path with
    | .ok c => (some c, { l with loaded := (path, some c) :: l.loaded })
    | .error e =>
      (none,
        { l with
          loaded := (path, none) :: l.loaded
          diagnostics := l.diagnostics ++ [Diagnostic.ofError path e] })

/-- A statement takes an element from its module. -/
def wants (s : ImportStatement) (e : Element) : Bool :=
  match s.kind with
  | .wholeModule => true
  | .wildcard => e.name.toList.head? ≠ some '_'
  | .names => s.names.contains e.name

/-- The names of a statement that are no elements of its module. -/
def unmatched (s : ImportStatement) (package : Option Catalog) : List String :=
  match s.kind with
  | .names => s.names.filter fun name => !package.any (·.contains name)
  | _ => []

/-- Brings in the elements of a name that is a module itself, and counts such names. -/
def addSubmodule (p : Project) (fs : FileSystem) (s : ImportStatement) (sum : Loading × Nat)
    (name : String) : Loading × Nat :=
  let (l, count) := sum
  match p.submodule fs s.reference s.level s.origin name with
  | none => (l, count)
  | some path =>
    let (found, l) := load? fs path l
    let elements := (found.map (·.elements)).getD []
    ({ l with elements := l.elements.insertAll elements }, count + 1)

/-- The problem of an import that leads nowhere. -/
def unresolvedDiagnostic (p : Project) (s : ImportStatement) : Diagnostic :=
  Diagnostic.ofError s.origin
    (.unresolvedImport (p.relativePath s.origin).text s.reference)

/-- Brings in the elements of a local import. -/
def addStatement (p : Project) (fs : FileSystem) (l : Loading) (s : ImportStatement) : Loading :=
  let (package, l) :=
    match s.resolved with
    | some path => load? fs path l
    | none => (none, l)
  let wanted := ((package.map (·.elements)).getD []).filter (wants s)
  let l := { l with elements := l.elements.insertAll wanted }
  let (l, submodules) := (unmatched s package).foldl (p.addSubmodule fs s) (l, 0)
  if s.resolved.isNone && submodules = 0 then
    { l with diagnostics := l.diagnostics ++ [p.unresolvedDiagnostic s] }
  else l

/-- The elements that the local ones of some statements bring in. -/
def localSources (p : Project) (fs : FileSystem) (statements : List ImportStatement) :
    LocalSources :=
  let l := (statements.filter (·.isLocal)).foldl (p.addStatement fs) ⟨∅, [], []⟩
  ⟨l.elements, l.diagnostics⟩

end Project

end CallContext
