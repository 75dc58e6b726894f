import CallContext.Project.Analysis
import CallContext.Proofs.Project.Callers
import CallContext.Proofs.Project.Location

/-!
# The analysis of an element

An analysis is put together from operations that can be asked for one by one: the elements of a
module, the search for callers, the imports of the module and what they bring in.

* `Project.composed_analyze` : the analysis fails exactly if the module that was asked for cannot be
  used or lacks the element, and otherwise has the results of these operations.
* `Project.analyze_caller` : the callers that a search reports can be analysed in turn.
-/

namespace CallContext

namespace FileSystem

variable {fs : FileSystem} {path : Path}

theorem module_eq_ok {m : Module} : fs.module path = .ok m ↔
    ∃ source, fs.read path = .ok source ∧ Module.parse source = .ok m := by
  unfold FileSystem.module Module.ofText
  cases fs.read path with
  | error e => simp
  | ok source => cases parsed : Module.parse source <;> simp [parsed]

/-- A module can be read under the path without dots and links as well. -/
theorem module_of_canonicalize {q : Path} {m : Module} (h : fs.canonicalize path = .ok q)
    (hm : fs.module path = .ok m) : fs.module q = .ok m := by
  rw [module_eq_ok, read_of_canonicalize h]
  exact module_eq_ok.1 hm

theorem module_congr {fs' : FileSystem} (h : fs'.read path = fs.read path) :
    fs'.module path = fs.module path := by
  rw [FileSystem.module, FileSystem.module, h]

end FileSystem

/-- The parts of an analysis are what the separate operations give. -/
structure Analysis.Composed (a : Analysis) (p : Project) (fs : FileSystem) (path : Path)
    (name : String) : Prop where
  path_eq : a.path = p.relativePath (p.locate fs path)
  element_eq : ∃ c, p.catalog fs path = .ok c ∧ c.get? name = some a.element
  callees_eq : ∃ m, fs.module (p.locate fs path) = .ok m ∧ ∃ d, m.Survives d ∧
    d.element = a.element ∧ d.node.callees name = ⟨a.callees, a.recursive⟩
  callers_eq : a.callers = (p.findCallers fs name).callers
  imports_eq : ∃ imports, p.resolveImports fs path = .ok imports ∧
    a.importedModules = imports.modules ∧ a.importStatements = imports.statements
  localSources_eq : a.localSources = (p.localSources fs a.importStatements).elements
  /-- The problems of the search for callers come first. -/
  diagnostics_eq : a.diagnostics = (p.findCallers fs name).diagnostics ++
    (p.localSources fs a.importStatements).diagnostics

namespace Project

variable {p : Project} {fs : FileSystem} {path : Path} {name : String}

/-! ### The module that was asked for -/

theorem catalog_eq_error {e : AnalysisError} :
    p.catalog fs path = .error e ↔ fs.module (p.locate fs path) = .error e := by
  unfold Project.catalog FileSystem.catalog
  cases fs.module (p.locate fs path) <;> simp

theorem catalog_eq_ok {c : Catalog} :
    p.catalog fs path = .ok c ↔ ∃ m, fs.module (p.locate fs path) = .ok m ∧ c = m.catalog := by
  unfold Project.catalog FileSystem.catalog
  cases fs.module (p.locate fs path) <;> simp [eq_comm]

theorem resolveImports_of_module {m : Module} (h : fs.module (p.locate fs path) = .ok m) :
    p.resolveImports fs path = .ok (p.resolveParsed fs (p.locate fs path) m) := by
  unfold resolveImports
  dsimp only
  split
  · next failed => cases h.symm.trans failed
  · next m' read => rw [Except.ok.inj (h.symm.trans read)]

/-- The imports are read from the same module again. -/
theorem resolveImports_locate (p : Project) (fs : FileSystem) (path : Path) :
    p.resolveImports fs (p.locate fs path) = p.resolveImports fs path := by
  unfold resolveImports
  dsimp only
  rw [locate_locate p fs path]

/-! ### Success and failure -/

theorem analyze_of_module_error {e : AnalysisError}
    (h : fs.module (p.locate fs path) = .error e) : p.analyze fs path name = .error e := by
  unfold analyze
  simp only [h]

theorem analyze_of_get?_eq_none {m : Module} (read : fs.module (p.locate fs path) = .ok m)
    (none : m.catalog.get? name = none) : p.analyze fs path name =
      .error (.elementNotFound (p.relativePath (p.locate fs path)).text name) := by
  rw [Module.get?_catalog, Option.map_eq_none_iff] at none
  unfold analyze
  simp only [read, none]

theorem exists_analyze {c : Catalog} {e : Element} (hc : p.catalog fs path = .ok c)
    (he : c.get? name = some e) :
    ∃ a, p.analyze fs path name = .ok a ∧ a.element = e ∧ a.Composed p fs path name := by
  obtain ⟨m, read, rfl⟩ := catalog_eq_ok.1 hc
  have get := he
  rw [Module.get?_catalog] at he
  obtain ⟨d, found, rfl⟩ := Option.map_eq_some_iff.1 he
  have imports := resolveImports_of_module read
  have survives : m.Survives d := Module.mem_definitions.1 (List.mem_of_find?_eq_some found)
  unfold analyze
  simp only [read, found, resolveImports_locate, imports]
  refine ⟨_, rfl, rfl, ?_⟩
  exact
    { path_eq := rfl
      element_eq := ⟨m.catalog, hc, get⟩
      callees_eq := ⟨m, read, d, survives, rfl, rfl⟩
      callers_eq := rfl
      imports_eq := ⟨_, imports, rfl, rfl⟩
      localSources_eq := rfl
      diagnostics_eq := rfl }

/-- The only problems that end an analysis are those with the module that was asked for. -/
theorem analyze_eq_error {e : AnalysisError} : p.analyze fs path name = .error e ↔
    fs.module (p.locate fs path) = .error e ∨
      ∃ m, fs.module (p.locate fs path) = .ok m ∧ m.catalog.get? name = none ∧
        e = .elementNotFound (p.relativePath (p.locate fs path)).text name := by
  constructor
  · intro failed
    cases read : fs.module (p.locate fs path) with
    | error e' =>
      rw [analyze_of_module_error read] at failed
      exact .inl (congrArg Except.error (Except.error.inj failed))
    | ok m =>
      cases get : m.catalog.get? name with
      | none =>
        rw [analyze_of_get?_eq_none read get] at failed
        exact .inr ⟨m, rfl, get, (Except.error.inj failed).symm⟩
      | some found =>
        obtain ⟨a, done, -⟩ := exists_analyze (catalog_eq_ok.2 ⟨m, read, rfl⟩) get
        cases done.symm.trans failed
  · rintro (failed | ⟨m, read, none, rfl⟩)
    · exact analyze_of_module_error failed
    · exact analyze_of_get?_eq_none read none

/-- An analysis that succeeds is composed of the results of the separate operations. -/
theorem composed_of_analyze {a : Analysis} (h : p.analyze fs path name = .ok a) :
    a.Composed p fs path name := by
  cases read : fs.module (p.locate fs path) with
  | error e => cases (analyze_of_module_error read).symm.trans h
  | ok m =>
    cases get : m.catalog.get? name with
    | none => cases (analyze_of_get?_eq_none read get).symm.trans h
    | some e =>
      obtain ⟨a', done, -, composed⟩ := exists_analyze (catalog_eq_ok.2 ⟨m, read, rfl⟩) get
      rwa [Except.ok.inj (done.symm.trans h)] at composed

/-- An analysis is the error of the module that was asked for, or says that it lacks the element, or
else is composed of the results of the separate operations.  Whether and how it fails depends on no
other file. -/
theorem composed_analyze (p : Project) (fs : FileSystem) (path : Path) (name : String) :
    (∀ e, p.catalog fs path = .error e → p.analyze fs path name = .error e) ∧
    (∀ c, p.catalog fs path = .ok c → c.get? name = none → p.analyze fs path name =
      .error (.elementNotFound (p.relativePath (p.locate fs path)).text name)) ∧
    (∀ c e, p.catalog fs path = .ok c → c.get? name = some e →
      ∃ a, p.analyze fs path name = .ok a ∧ a.element = e ∧ a.Composed p fs path name) ∧
    (∀ fs' : FileSystem, p.locate fs' path = p.locate fs path →
      fs'.read (p.locate fs path) = fs.read (p.locate fs path) →
        ∀ e, p.analyze fs' path name = .error e ↔ p.analyze fs path name = .error e) := by
  refine ⟨fun e failed => ?_, fun c hc none => ?_, fun c e hc he => exists_analyze hc he,
    fun fs' same text e => ?_⟩
  · exact analyze_of_module_error (catalog_eq_error.1 failed)
  · obtain ⟨m, read, rfl⟩ := catalog_eq_ok.1 hc
    exact analyze_of_get?_eq_none read none
  · rw [analyze_eq_error, analyze_eq_error, same, FileSystem.module_congr text]

/-- A project with a module that imports another one, which cannot be parsed. -/
def brokenImport : FileSystem :=
  ⟨[("p", .directory [("a.py", .file (.text "from .b import x\ndef f(): f()")),
    ("b.py", .file (.text "def ("))])], [], rfl⟩

/-- The module that cannot be parsed is noted down twice, by the search for callers and by the
imports. -/
theorem composed_analyze_brokenImport : ∃ p, load brokenImport ⟨"/p"⟩ {} = .ok p ∧
    ∃ a, p.analyze brokenImport ⟨"a.py"⟩ "f" = .ok a ∧ a.Composed p brokenImport ⟨"a.py"⟩ "f" ∧
      a.recursive = true ∧ a.diagnostics.map (·.kind) = [.parse, .parse] := by
  have computed : (load brokenImport ⟨"/p"⟩ {}).toOption.map (fun p =>
      ((p.catalog brokenImport ⟨"a.py"⟩).toOption.bind fun c => (c.get? "f").map (·.name),
        (p.analyze brokenImport ⟨"a.py"⟩ "f").toOption.map
          fun a => (a.recursive, a.diagnostics.map (·.kind)))) =
      some (some "f", some (true, [.parse, .parse])) := by
    decide +kernel
  obtain ⟨p, opened, values⟩ := Option.map_eq_some_iff.1 computed
  obtain ⟨catalog, analysis⟩ := Prod.mk.inj values
  obtain ⟨c, hc, named⟩ := Option.bind_eq_some_iff.1 catalog
  obtain ⟨e, he, -⟩ := Option.map_eq_some_iff.1 named
  obtain ⟨a, done, -, composed⟩ :=
    (composed_analyze p brokenImport ⟨"a.py"⟩ "f").2.2.1 c e (ok_of_toOption hc) he
  rw [done] at analysis
  obtain ⟨recursive, kinds⟩ := Prod.mk.inj (Option.some.inj analysis)
  exact ⟨p, ok_of_toOption opened, a, done, composed, recursive, kinds⟩

/-! ### Callers in turn -/

/-- Under the path from the root of the project, the module of a source file can be read. -/
theorem module_relativePath {root : Path} {scan : ScanSettings} {m : Module}
    (loaded : load fs root scan = .ok p) (h : path ∈ p.sourceFiles fs)
    (hm : fs.module path = .ok m) : fs.module (p.locate fs (p.relativePath path)) = .ok m :=
  FileSystem.module_of_canonicalize (canonicalize_sourceFile loaded h) hm

/-- A caller that was reported can be analysed under its identity: the analysis finds the same
element, which calls the name that was searched for, at the same path if links are not followed.
For the path from the root of the project leads back to each source file. -/
theorem analyze_caller {root : Path} {scan : ScanSettings} {target : String}
    {entry : ElementId × Element} (loaded : load fs root scan = .ok p)
    (reported : entry ∈ (p.findCallers fs target).callers) :
    (∃ a, p.analyze fs entry.1.path entry.1.name = .ok a ∧ a.element = entry.2 ∧
      target ∈ a.callees ∧ (p.scan.followLinks = false → a.path = entry.1.path)) ∧
    ∀ file ∈ p.sourceFiles fs,
      fs.canonicalize file = .ok (p.locate fs (p.relativePath file)) ∧
        (p.scan.followLinks = false → p.locate fs (p.relativePath file) = file) := by
  refine ⟨?_, fun file hf => ⟨canonicalize_sourceFile loaded hf,
    fun unlinked => locate_relativePath loaded unlinked hf⟩⟩
  obtain ⟨path, hp, m, hm, d, survives, rfl, calls, other⟩ := mem_callers_findCallers.1 reported
  have read := module_relativePath loaded hp hm
  have get : m.catalog.get? d.element.name = some d.element := by
    rw [Module.get?_catalog, Module.find?_of_survives survives, Option.map_some]
  obtain ⟨a, done, element, composed⟩ := exists_analyze (catalog_eq_ok.2 ⟨m, read, rfl⟩) get
  refine ⟨a, done, element, ?_, fun unlinked => ?_⟩
  · -- the analysis is about the definition that the search has found
    obtain ⟨m', read', d', survives', same, callees⟩ := composed.callees_eq
    obtain rfl : m = m' := Except.ok.inj (read.symm.trans read')
    obtain rfl : d' = d := survives'.eq_of_name survives (by rw [same, element])
    have called := Node.contains_callees.2 ⟨calls, other⟩
    rw [callees, CalleeSet.contains, List.contains_iff_mem] at called
    exact called
  · rw [composed.path_eq, locate_relativePath loaded unlinked hp]

/-- A project with one file in a directory.  Another file stands under the same path in the current
directory. -/
def twoAlike : FileSystem :=
  ⟨[("p", .directory [("s", .directory [("a.py", .file (.text "def f(): g()"))])]),
    ("s", .directory [("a.py", .file (.text "def f(): h()"))])], [], rfl⟩

/-- The caller is found in the project again, not in the current directory. -/
theorem analyze_caller_twoAlike : ∃ p, load twoAlike ⟨"p"⟩ {} = .ok p ∧
    ∃ entry ∈ (p.findCallers twoAlike "g").callers, entry.1 = ⟨⟨"s/a.py"⟩, "f"⟩ ∧
      ∃ a, p.analyze twoAlike ⟨"s/a.py"⟩ "f" = .ok a ∧ a.element = entry.2 ∧ "g" ∈ a.callees ∧
        a.path = ⟨"s/a.py"⟩ := by
  have computed : (load twoAlike ⟨"p"⟩ {}).toOption.map (fun p =>
      (p.findCallers twoAlike "g").callers.map (·.1)) = some [⟨⟨"s/a.py"⟩, "f"⟩] := by
    decide +kernel
  obtain ⟨p, opened, callers⟩ := Option.map_eq_some_iff.1 computed
  obtain ⟨entry, only, id⟩ := List.map_eq_singleton_iff.1 callers
  have loaded := ok_of_toOption opened
  have reported : entry ∈ (p.findCallers twoAlike "g").callers := by simp [only]
  obtain ⟨⟨a, done, element, calls, same⟩, -⟩ := analyze_caller loaded reported
  have unlinked : p.scan.followLinks = false := by rw [(load_eq_ok loaded).1]
  rw [id] at done same
  exact ⟨p, loaded, entry, reported, id, a, done, element, calls, same unlinked⟩

end Project

end CallContext
