import CallContext.Proofs.Project.Analysis
import CallContext.Proofs.Project.Imports

/-!
# Large files

Files reach the parser on two ways, by the scan for callers and by the imports of a module.  The
scan leaves out files above the limit of the settings.  The imports do not look at the settings: a
file that they lead to is read whatever its size is.

* `Project.fits_scans` : callers come from files within the limit, and what imports bring in from
  the files where the names are taken last, whatever their size is,
* `Project.localSources_aboveLimit` : imports bring in an element of a file above the limit.
-/

namespace CallContext

namespace FileSystem

/-- The size of the file that a path leads to. -/
def fileSize? (fs : FileSystem) (path : Path) : Option Nat :=
  match fs.resolve path with
  | .ok (_, .file content) => some content.size
  | _ => none

theorem fileSize?_of_read {fs : FileSystem} {path : Path} {source : String}
    (h : fs.read path = .ok source) : fs.fileSize? path = some source.utf8ByteSize := by
  unfold read at h
  unfold fileSize?
  split at h
  · cases h
  · next found =>
    cases h
    rw [found]
    rfl
  · cases h
  · cases h

end FileSystem

namespace Project

variable {p : Project} {fs : FileSystem} {path : Path}

/-- The path leads to a file within the limit of the settings. -/
def Fits (p : Project) (fs : FileSystem) (path : Path) : Prop :=
  ∃ size, fs.fileSize? path = some size ∧ size ≤ p.scan.effectiveMaxFileBytes ∧
    size ≤ absoluteMaxFileBytes

theorem fits_of_le {size : Nat} (found : fs.fileSize? path = some size)
    (small : size ≤ p.scan.effectiveMaxFileBytes) : p.Fits fs path :=
  ⟨size, found, small, Nat.le_trans small (Nat.min_le_right _ _)⟩

/-! ### Elements of a file -/

theorem mem_elementsAt {e : Element} : e ∈ elementsAt fs path ↔
    ∃ m, fs.module path = .ok m ∧ e ∈ m.catalog.elements := by
  unfold elementsAt FileSystem.catalog
  cases fs.module path <;> simp

/-- An element is no larger than its file. -/
theorem endByte_le_of_mem_elementsAt {e : Element} (h : e ∈ elementsAt fs path) :
    ∃ size, fs.fileSize? path = some size ∧ e.endByte ≤ size := by
  obtain ⟨m, read, mem⟩ := mem_elementsAt.1 h
  obtain ⟨source, text, parsed⟩ := FileSystem.module_eq_ok.1 read
  rw [Module.elements_catalog] at mem
  obtain ⟨d, hd, rfl⟩ := List.mem_map.1 mem
  exact ⟨_, FileSystem.fileSize?_of_read text, (Module.spansIn_of_mem parsed hd).endByte_le⟩

theorem Caller.mem_elementsAt {target : String} {entry : ElementId × Element}
    (h : p.Caller fs target path entry) : entry.2 ∈ elementsAt fs path := by
  obtain ⟨m, read, d, survives, rfl, -, -⟩ := h
  refine Project.mem_elementsAt.2 ⟨m, read, ?_⟩
  rw [Module.elements_catalog]
  exact List.mem_map_of_mem (Module.mem_definitions.2 survives)

/-! ### Source files -/

theorem fits_of_mem_sourceFiles {root : Path} {scan : ScanSettings}
    (loaded : load fs root scan = .ok p) (h : path ∈ p.sourceFiles fs) : p.Fits fs path := by
  obtain ⟨way, entries, names, real, content, -, -, place, small⟩ :=
    found_of_mem_sourceFiles loaded h
  refine fits_of_le ?_ small
  rw [FileSystem.fileSize?, place.resolve_eq]

/-! ### Imports -/

/-- The files that the local ones of some statements use. -/
def usedFiles (p : Project) (fs : FileSystem) (statements : List ImportStatement) : List Path :=
  (statements.filter (·.isLocal)).flatMap (p.targets fs)

/-- What a statement takes, each element with the file that it is taken from. -/
def shares (p : Project) (fs : FileSystem) (s : ImportStatement) : List (Path × Element) :=
  s.resolved.toList.flatMap (fun file => (taken s (elementsAt fs file)).map (file, ·)) ++
    (p.submodules fs s).flatMap fun file => (elementsAt fs file).map (file, ·)

theorem map_shares (p : Project) (fs : FileSystem) (s : ImportStatement) :
    (p.shares fs s).map (·.2) = p.contribution fs s := by
  have elements (files : List Path) (es : Path → List Element) :
      (files.flatMap fun file => (es file).map (file, ·)).map (·.2) = files.flatMap es := by
    simp only [List.map_flatMap, List.map_map, Function.comp_def, List.map_id']
  rw [shares, List.map_append, elements, elements, contribution, offered]
  cases s.resolved with
  | none => simp [← filter_wants]
  | some file => simp

/-- Of the module that it leads to a statement takes what it wants, and of a module that one of its
names is everything. -/
theorem mem_shares {s : ImportStatement} {file : Path} {e : Element} :
    (file, e) ∈ p.shares fs s ↔ e ∈ elementsAt fs file ∧
      (s.resolved = some file ∧ wants s e = true ∨ file ∈ p.submodules fs s) := by
  simp only [shares, ← filter_wants, List.mem_append, List.mem_flatMap, List.mem_map,
    Option.mem_toList, Prod.mk.injEq, List.mem_filter]
  grind

/-- The imports bring in an element from a file: a local statement takes it there, and nothing of
its name is taken after it. -/
def Brings (p : Project) (fs : FileSystem) (statements : List ImportStatement) (file : Path)
    (e : Element) : Prop :=
  ∃ before after, (statements.filter (·.isLocal)).flatMap (p.shares fs) =
    before ++ (file, e) :: after ∧ ∀ later ∈ after, later.2.name ≠ e.name

/-- What is brought in from a file is an element of the file, and a local statement uses it. -/
theorem Brings.mem {statements : List ImportStatement} {file : Path} {e : Element}
    (h : p.Brings fs statements file e) :
    file ∈ p.usedFiles fs statements ∧ e ∈ elementsAt fs file := by
  obtain ⟨before, after, split, -⟩ := h
  have mem : (file, e) ∈ (statements.filter (·.isLocal)).flatMap (p.shares fs) := by simp [split]
  obtain ⟨s, hs, taken⟩ := List.mem_flatMap.1 mem
  obtain ⟨he, own | inner⟩ := mem_shares.1 taken
  · exact ⟨List.mem_flatMap.2 ⟨s, hs, List.mem_append_left _ (by simp [own.1])⟩, he⟩
  · exact ⟨List.mem_flatMap.2 ⟨s, hs, List.mem_append_right _ inner⟩, he⟩

theorem brings_iff {statements : List ImportStatement} {file : Path} {e : Element} :
    p.Brings fs statements file e ↔
      (file, e) ∈ keepLast (·.2.name) ((statements.filter (·.isLocal)).flatMap (p.shares fs)) :=
  (mem_keepLast fun taken : Path × Element => taken.2.name).symm

/-- An element is brought in from one file only. -/
theorem Brings.unique {statements : List ImportStatement} {file file' : Path} {e : Element}
    (h : p.Brings fs statements file e) (h' : p.Brings fs statements file' e) : file = file' :=
  congrArg Prod.fst
    (List.inj_on_of_nodup_map (nodup_keepLast _ _) (brings_iff.1 h) (brings_iff.1 h') rfl)

/-- What the imports of a module bring in is from some file. -/
theorem mem_localSources_iff {imports : ResolvedImports} {e : Element}
    (h : p.resolveImports fs path = .ok imports) :
    e ∈ (p.localSources fs imports.statements).elements.elements ↔
      ∃ file, p.Brings fs imports.statements file e := by
  have elements : (p.localSources fs imports.statements).elements.elements =
      (keepLast (·.2.name)
        ((imports.statements.filter (·.isLocal)).flatMap (p.shares fs))).map (·.2) := by
    rw [(localSources_resolveImports h).1, Catalog.elements_ofList_eq]
    refine Eq.trans (congrArg _ ?_)
      (map_keepLast Element.name Prod.snd fun _ _ _ _ => Iff.rfl).symm
    simp only [List.map_flatMap, map_shares]
  simp only [elements, List.mem_map, Prod.exists, exists_eq_right, brings_iff]

/-- Imports do not look at the settings of the scan. -/
theorem localSources_of_scan (scan : ScanSettings) (statements : List ImportStatement) :
    { p with scan }.localSources fs statements = p.localSources fs statements := rfl

/-- The callers of a name come from files within the limit.  What the imports of a module bring in
does not depend on the settings at all: each element is from the one file where its name is taken
last, whatever the size of that is.  So it comes from files within the limit exactly if nothing is
taken last from another, and certainly if the files are within it that have elements and that the
imports use. -/
theorem fits_scans {root : Path} {scan : ScanSettings} (loaded : load fs root scan = .ok p) :
    (∀ target, ∀ entry ∈ (p.findCallers fs target).callers, ∃ file,
      entry.1.path = p.relativePath file ∧ entry.2 ∈ elementsAt fs file ∧ p.Fits fs file) ∧
    ∀ path imports, p.resolveImports fs path = .ok imports →
      (∀ other : ScanSettings, { p with scan := other }.resolveImports fs path = .ok imports ∧
        { p with scan := other }.localSources fs imports.statements =
          p.localSources fs imports.statements) ∧
      (∀ e, e ∈ (p.localSources fs imports.statements).elements.elements ↔
        ∃! file, p.Brings fs imports.statements file e) ∧
      ((∀ e ∈ (p.localSources fs imports.statements).elements.elements,
          ∃ file, p.Brings fs imports.statements file e ∧ p.Fits fs file) ↔
        ∀ file, ¬ p.Fits fs file → ∀ e, ¬ p.Brings fs imports.statements file e) ∧
      ((∀ file ∈ p.usedFiles fs imports.statements, elementsAt fs file ≠ [] → p.Fits fs file) →
        ∀ e ∈ (p.localSources fs imports.statements).elements.elements,
          ∃ file ∈ p.usedFiles fs imports.statements,
            e ∈ elementsAt fs file ∧ p.Fits fs file) := by
  refine ⟨fun target entry reported => ?_, fun path imports resolved =>
    ⟨fun other => ⟨resolved, localSources_of_scan other _⟩, fun e => ?_, ?_, fun small e he => ?_⟩⟩
  · obtain ⟨file, hf, caller⟩ := mem_callers_findCallers.1 reported
    exact ⟨file, caller.path_eq, caller.mem_elementsAt, fits_of_mem_sourceFiles loaded hf⟩
  · rw [mem_localSources_iff resolved]
    exact ⟨fun ⟨file, brought⟩ => ⟨file, brought, fun other h => h.unique brought⟩,
      ExistsUnique.exists⟩
  · constructor
    · intro small file large e brought
      obtain ⟨other, found, fits⟩ := small e ((mem_localSources_iff resolved).2 ⟨file, brought⟩)
      exact large (brought.unique found ▸ fits)
    · intro small e he
      obtain ⟨file, brought⟩ := (mem_localSources_iff resolved).1 he
      exact ⟨file, brought, by_contra fun large => small file large e brought⟩
  · obtain ⟨file, brought⟩ := (mem_localSources_iff resolved).1 he
    obtain ⟨used, mem⟩ := brought.mem
    exact ⟨file, used, mem, small file used (List.ne_nil_of_mem mem)⟩

/-- A project with a module that imports another one, and two modules that call its function.  One
of these is larger than all others. -/
def fourSizes : FileSystem :=
  ⟨[("p", .directory [("a.py", .file (.text "def f(): pass")),
    ("b.py", .file (.text "def g(): return f()")), ("c.py", .file (.text "def h(): f()")),
    ("m.py", .file (.text "import a"))])], [], rfl⟩

/-- The project with a limit. -/
def ofLimit (limit : Nat) : Project := ⟨⟨"/p"⟩, rfl, { maxFileBytes := limit }⟩

theorem load_fourSizes (limit : Nat) :
    load fourSizes ⟨"/p"⟩ { maxFileBytes := limit } = .ok (ofLimit limit) := rfl

/-- With a limit of 13 bytes only the largest module is left out, and nothing that is imported. -/
theorem fits_scans_fourSizes :
    load fourSizes ⟨"/p"⟩ { maxFileBytes := 13 } = .ok (ofLimit 13) ∧
    ((ofLimit 13).findCallers fourSizes "f").callers.map (·.1) = [⟨⟨"c.py"⟩, "h"⟩] ∧
    (∀ entry ∈ ((ofLimit 13).findCallers fourSizes "f").callers, ∃ file,
      entry.1.path = (ofLimit 13).relativePath file ∧ entry.2 ∈ elementsAt fourSizes file ∧
        (ofLimit 13).Fits fourSizes file) ∧
    ∃ imports, (ofLimit 13).resolveImports fourSizes ⟨"m.py"⟩ = .ok imports ∧
      (ofLimit 13).usedFiles fourSizes imports.statements = [⟨"/p/a.py"⟩] ∧
      (ofLimit 13).Fits fourSizes ⟨"/p/a.py"⟩ ∧
      ((ofLimit 13).localSources fourSizes imports.statements).elements.names = ["f"] ∧
      ∀ e ∈ ((ofLimit 13).localSources fourSizes imports.statements).elements.elements,
        ∃ file ∈ (ofLimit 13).usedFiles fourSizes imports.statements,
          e ∈ elementsAt fourSizes file ∧ (ofLimit 13).Fits fourSizes file := by
  have computed : ((ofLimit 13).resolveImports fourSizes ⟨"m.py"⟩).toOption.map (fun imports =>
      ((ofLimit 13).usedFiles fourSizes imports.statements,
        ((ofLimit 13).localSources fourSizes imports.statements).elements.names)) =
      some ([⟨"/p/a.py"⟩], ["f"]) := by
    decide +kernel
  obtain ⟨imports, resolved, values⟩ := Option.map_eq_some_iff.1 computed
  obtain ⟨used, names⟩ := Prod.mk.inj values
  have done := ok_of_toOption resolved
  have small : (ofLimit 13).Fits fourSizes ⟨"/p/a.py"⟩ :=
    fits_of_le (by decide +kernel : fourSizes.fileSize? ⟨"/p/a.py"⟩ = some 13) (by decide)
  obtain ⟨callers, locals⟩ := fits_scans (load_fourSizes 13)
  refine ⟨load_fourSizes 13, by decide +kernel, callers "f", imports, done, used, small, names,
    (locals _ imports done).2.2.2 ?_⟩
  rw [used]
  exact List.forall_mem_singleton.2 fun _ => small

/-- With a limit of 12 bytes the imports still bring in the function, which no file within the
limit has. -/
theorem localSources_aboveLimit :
    load fourSizes ⟨"/p"⟩ { maxFileBytes := 12 } = .ok (ofLimit 12) ∧
    ∃ imports, (ofLimit 12).resolveImports fourSizes ⟨"m.py"⟩ = .ok imports ∧
      ∃ e ∈ ((ofLimit 12).localSources fourSizes imports.statements).elements.elements,
        e.name = "f" ∧ ∀ file, e ∈ elementsAt fourSizes file → ¬ (ofLimit 12).Fits fourSizes file := by
  have computed : ((ofLimit 12).resolveImports fourSizes ⟨"m.py"⟩).toOption.map (fun imports =>
      ((ofLimit 12).localSources fourSizes imports.statements).elements.elements.map
        fun e => (e.name, e.endByte)) = some [("f", 13)] := by
    decide +kernel
  obtain ⟨imports, resolved, values⟩ := Option.map_eq_some_iff.1 computed
  obtain ⟨e, elements, values⟩ := List.map_eq_singleton_iff.1 values
  obtain ⟨name, endByte⟩ := Prod.mk.inj values
  refine ⟨load_fourSizes 12, imports, ok_of_toOption resolved, e, ?_, name, ?_⟩
  · rw [elements]
    exact List.mem_singleton_self e
  · -- the function ends behind the limit
    rintro file mem ⟨size, found, small, -⟩
    obtain ⟨size', found', le⟩ := endByte_le_of_mem_elementsAt mem
    obtain rfl := Option.some.inj (found.symm.trans found')
    have limit : (ofLimit 12).scan.effectiveMaxFileBytes = 12 := rfl
    omega

end Project

end CallContext
