import CallContext.Proofs.Analysis.Imports
import CallContext.Proofs.Project.LocalSources
import Mathlib.Data.List.Induction

/-!
# Local imports

An import without dots is local exactly if a file of the project answers to it; one with dots is
local always.  Where no file answers to an import with dots it brings in nothing, and is noted down.
Both are decided by the files that a reference can mean (`Project.Leads`).

* `Project.classified_resolveImports` : which imports of a module are local, and which are noted
  down,
* `Project.localSources_resolveImports` : the imports of a module bring in what a plain reading of
  their files gives, for these are spelled alike.
-/

namespace CallContext

/-! ### Paths of modules -/

theorem Path.text_join_ne_empty {directory p : Path} (h : directory.text ≠ "" ∨ p.text ≠ "") :
    (directory.join p).text ≠ "" := by
  unfold join
  split
  · next absolute =>
    obtain ⟨rest, text⟩ := text_of_isAbsolute absolute
    intro empty
    simp [empty] at text
  · split
    · simpa [or_iff_not_imp_left] using h
    · simp

namespace Project

/-- A reference that starts with an identifier has a path. -/
theorem text_modulePath_ne_empty {reference : String} (h : Identifier.starts reference = true) :
    (modulePath reference).text ≠ "" := by
  have longer (parts : List (List Char)) (path : Path) (ne : path.text ≠ "") :
      (parts.foldl (fun path part => path.join ⟨String.ofList part⟩) path).text ≠ "" := by
    induction parts generalizing path with
    | nil => exact ne
    | cons part parts ih => exact ih _ (Path.text_join_ne_empty (.inl ne))
  obtain ⟨c, head, start⟩ := (Option.any_eq_true _ _).1 h
  obtain ⟨cs, text⟩ := List.head?_eq_some_iff.1 head
  have other : c ≠ '.' := by
    rintro rfl
    revert start
    decide
  obtain ⟨part, parts, split⟩ := List.exists_cons_of_ne_nil (splitParts_ne_nil '.' cs)
  have first : splitParts '.' (reference.toList.dropWhile (· = '.')) = (c :: part) :: parts := by
    rw [text, List.dropWhile_cons_of_neg (by simpa using other), splitParts, if_neg other, split]
  rw [modulePath, first, List.filter_cons_of_pos (by simp), List.foldl_cons]
  exact longer _ _ (Path.text_join_ne_empty (.inr (by simp)))

theorem starts_append {reference : String} (h : Identifier.starts reference = true) (s : String) :
    Identifier.starts (reference ++ s) = true := by
  obtain ⟨c, head, start⟩ := (Option.any_eq_true _ _).1 h
  obtain ⟨cs, text⟩ := List.head?_eq_some_iff.1 head
  simp [Identifier.starts, text, start]

/-! ### Files of a reference -/

/-- A file that a reference can mean from a directory: the module itself, or a package, which alone
is possible where the reference names nothing behind its dots. -/
def IsModuleFile (base : Path) (reference : String) (file : Path) : Prop :=
  ((modulePath reference).text ≠ "" ∧
    file = (base.join (modulePath reference)).withExtension "py") ∨
  file = (base.join (modulePath reference)).join ⟨"__init__.py"⟩

/-- A directory from which a reference is looked up in a module. -/
def IsBase (p : Project) (importer : Path) (level : Nat) (base : Path) : Prop :=
  if level = 0 then base = p.root ∨ importer.parent? = some base
  else climb level importer = some base

/-- A file of the project answers to a reference. -/
def Leads (p : Project) (fs : FileSystem) (importer : Path) (level : Nat) (reference : String) :
    Prop :=
  ∃ base file, p.IsBase importer level base ∧ IsModuleFile base reference file ∧
    fs.isFile file = true ∧ p.contains file.normalize = true

variable {p : Project} {fs : FileSystem}

theorem mem_candidates {base file : Path} {reference : String} :
    file ∈ candidates base (modulePath reference) ↔ IsModuleFile base reference file := by
  unfold candidates IsModuleFile
  dsimp only
  split
  · next empty => simp [empty]
  · next named => simp [named]

theorem isSome_probe {base : Path} {reference : String} :
    (p.probe fs base (modulePath reference)).isSome = true ↔
      ∃ file, IsModuleFile base reference file ∧ fs.isFile file = true ∧
        p.contains file.normalize = true := by
  simp [probe, List.find?_isSome, mem_candidates]

theorem isSome_bind_probe {base? : Option Path} {reference : String} :
    (base?.bind fun base => p.probe fs base (modulePath reference)).isSome = true ↔
      ∃ base file, base? = some base ∧ IsModuleFile base reference file ∧
        fs.isFile file = true ∧ p.contains file.normalize = true := by
  cases base? with
  | none => simp
  | some base => simp [isSome_probe]

/-- A reference is resolved exactly if a file answers to it. -/
theorem isSome_resolveModule (p : Project) (fs : FileSystem) (importer : Path) {level : Nat}
    {reference : String} (h : level = 0 → (modulePath reference).text ≠ "") :
    (p.resolveModule fs reference level importer).isSome = true ↔
      p.Leads fs importer level reference := by
  unfold resolveModule Leads IsBase
  dsimp only
  by_cases dots : level = 0
  · simp only [if_pos dots]
    rw [if_neg (by omega), if_neg (h dots), Option.orElse_eq_orElse, Option.orElse_eq_or,
      Option.isSome_or, Bool.or_eq_true, isSome_probe, isSome_bind_probe]
    constructor
    · rintro (⟨file, found⟩ | ⟨base, file, above, found⟩)
      · exact ⟨p.root, file, .inl rfl, found⟩
      · exact ⟨base, file, .inr above, found⟩
    · rintro ⟨base, file, rfl | above, found⟩
      · exact .inl ⟨file, found⟩
      · exact .inr ⟨base, file, above, found⟩
  · -- with dots there is one directory to look from
    simp only [if_neg dots]
    rw [if_pos (by omega), isSome_bind_probe]

/-! ### Files that imports use -/

variable {path : Path}

theorem plain_of_probe {base relative path : Path} (h : p.probe fs base relative = some path) :
    path.Plain := by
  obtain ⟨file, -, rfl⟩ := Option.map_eq_some_iff.1 h
  exact file.plain_normalize

theorem plain_of_resolveModule {reference : String} {level : Nat} {importer path : Path}
    (h : p.resolveModule fs reference level importer = some path) : path.Plain := by
  unfold resolveModule at h
  dsimp only at h
  split at h
  · obtain ⟨base, -, found⟩ := Option.bind_eq_some_iff.1 h
    exact plain_of_probe found
  · split at h
    · cases h
    · rw [Option.orElse_eq_orElse, Option.orElse_eq_or, Option.or_eq_some_iff] at h
      rcases h with found | ⟨-, h⟩
      · exact plain_of_probe found
      · obtain ⟨base, -, found⟩ := Option.bind_eq_some_iff.1 h
        exact plain_of_probe found

theorem plain_of_mem_targets {r : ImportRecord} {file : Path}
    (h : file ∈ p.targets fs (p.resolveRecord fs path r)) : file.Plain := by
  rcases List.mem_append.1 h with own | inner
  · exact plain_of_resolveModule (Option.mem_toList.1 own)
  · unfold submodules at inner
    split at inner
    · obtain ⟨name, -, found⟩ := List.mem_filterMap.1 inner
      exact plain_of_resolveModule found
    · cases inner

theorem exists_module_of_resolveImports {imports : ResolvedImports}
    (h : p.resolveImports fs path = .ok imports) :
    ∃ m, fs.module (p.locate fs path) = .ok m ∧
      imports.statements = m.imports.map (p.resolveRecord fs (p.locate fs path)) := by
  unfold resolveImports at h
  dsimp only at h
  split at h
  · cases h
  · next m read =>
    cases h
    exact ⟨m, read, rfl⟩

/-- The files that references are resolved to are spelled alike, so the imports of a module always
bring in what a plain reading gives. -/
theorem localSources_resolveImports {imports : ResolvedImports}
    (h : p.resolveImports fs path = .ok imports) :
    (p.localSources fs imports.statements).elements = Catalog.ofList
        ((imports.statements.filter (·.isLocal)).flatMap (p.contribution fs)) ∧
      (p.localSources fs imports.statements).diagnostics =
        p.notes fs ((imports.statements.filter (·.isLocal)).flatMap (p.events fs)) := by
  obtain ⟨m, -, statements⟩ := exists_module_of_resolveImports h
  have spelled : SpelledAlike
      ((imports.statements.filter (·.isLocal)).flatMap (p.targets fs)) := by
    refine spelledAlike_of_plain fun file hf => ?_
    obtain ⟨s, hs, used⟩ := List.mem_flatMap.1 hf
    have mem := (List.mem_filter.1 hs).1
    rw [statements] at mem
    obtain ⟨r, -, rfl⟩ := List.mem_map.1 mem
    exact plain_of_mem_targets used
  have run := (tracks_nil (p := p)).foldl_addStatement spelled.readAlike fun _ hp => hp
  exact ⟨run.elements_eq, run.diagnostics_eq⟩

/-! ### Dead ends -/

theorem kind_of_catalog {path : Path} {e : AnalysisError} (h : fs.catalog path = .error e) :
    e.kind ≠ .unresolvedImport := by
  unfold FileSystem.catalog FileSystem.module at h
  split at h
  · next failed =>
    split at failed
    · cases failed
      cases h
      nofun
    · unfold Module.ofText at failed
      split at failed
      · cases failed
      · cases failed
        cases h
        nofun
  · cases h

/-- The notes on imports that lead nowhere. -/
def unresolved (ds : List Diagnostic) : List Diagnostic :=
  ds.filter (·.kind = .unresolvedImport)

theorem unresolved_append (ds ds' : List Diagnostic) :
    unresolved (ds ++ ds') = unresolved ds ++ unresolved ds' :=
  List.filter_append ds ds'

/-- The statement of a dead end. -/
def Event.deadEnd? : Event → Option ImportStatement
  | .use _ => none
  | .deadEnd s => some s

/-- The uses of files leave no such notes, and dead ends one each. -/
theorem unresolved_notes (events : List Event) :
    unresolved (p.notes fs events) =
      (events.filterMap Event.deadEnd?).map p.unresolvedDiagnostic := by
  induction events using List.reverseRecOn with
  | nil => rfl
  | append_singleton past event ih =>
    rw [notes_concat, unresolved_append, ih, List.filterMap_append, List.map_append]
    refine congrArg (_ ++ ·) ?_
    cases event with
    | deadEnd s =>
      have once : past.any (Event.deadEnd s).repeats = false := by simp [Event.repeats]
      rw [once]
      rfl
    | use path =>
      have silent : unresolved (p.note? fs (.use path)).toList = [] := by
        rw [note?]
        cases failed : fs.catalog path with
        | ok c => rfl
        | error e => simp [unresolved, Diagnostic.ofError, kind_of_catalog failed]
      split
      · rfl
      · exact silent

theorem filterMap_deadEnd?_events (statements : List ImportStatement) :
    (statements.flatMap (p.events fs)).filterMap Event.deadEnd? =
      statements.filter fun s => (p.targets fs s).isEmpty := by
  induction statements with
  | nil => rfl
  | cons s statements ih =>
    rw [List.flatMap_cons, List.filterMap_append, ih, List.filter_cons, events]
    split
    · rfl
    · have uses : ((p.targets fs s).map Event.use).filterMap Event.deadEnd? = [] := by
        simp [Event.deadEnd?]
      rw [uses, List.nil_append]

/-! ### Imports of a module -/

/-- An import with dots to which no file answers, nor to any of its names as a module inside. -/
def DeadEnd (p : Project) (fs : FileSystem) (s : ImportStatement) : Prop :=
  0 < s.level ∧ ¬ p.Leads fs s.origin s.level s.reference ∧
    ∀ name ∈ s.names, ¬ p.Leads fs s.origin s.level (s.reference ++ "." ++ name)

instance (p : Project) (fs : FileSystem) (s : ImportStatement) : Decidable (p.DeadEnd fs s) :=
  decidable_of_iff
    (0 < s.level ∧ ¬ (p.resolveModule fs s.reference s.level s.origin).isSome = true ∧
      ∀ name ∈ s.names,
        ¬ (p.resolveModule fs (s.reference ++ "." ++ name) s.level s.origin).isSome = true) <|
    and_congr_right fun dots =>
      have resolved (reference : String) :
          ¬ (p.resolveModule fs reference s.level s.origin).isSome = true ↔
            ¬ p.Leads fs s.origin s.level reference :=
        not_congr (isSome_resolveModule p fs s.origin fun none => absurd none (Nat.ne_of_gt dots))
      and_congr (resolved _) (forall₂_congr fun _ _ => resolved _)

/-- No file is used for a statement that leads to none, if its names lead to none either. -/
theorem targets_eq_nil {s : ImportStatement} (h : s.kind ≠ .names → s.names = []) :
    p.targets fs s = [] ↔ s.resolved = none ∧ ∀ name ∈ s.names, p.fileOf fs s name = none := by
  rw [targets, List.append_eq_nil_iff, Option.toList_eq_nil_iff]
  refine and_congr_right fun none => ?_
  have nothing : offered fs s = [] := by rw [offered, none]; rfl
  by_cases named : s.kind = .names
  · simp [submodules, named, nothing, fileOf]
  · simp [submodules, h named]

section Record

variable {r : ImportRecord} (regular : r.Regular)

include regular

theorem isSome_resolveModule_of_regular :
    (p.resolveModule fs r.reference r.level path).isSome = true ↔
      p.Leads fs path r.level r.reference :=
  isSome_resolveModule p fs path fun none => text_modulePath_ne_empty (regular.starts none)

theorem isSome_submodule_of_regular (name : String) :
    (p.submodule fs r.reference r.level path name).isSome = true ↔
      p.Leads fs path r.level (r.reference ++ "." ++ name) := by
  refine isSome_resolveModule p fs path fun none => text_modulePath_ne_empty ?_
  exact starts_append (starts_append (regular.starts none) _) _

theorem isLocal_resolveRecord :
    (p.resolveRecord fs path r).isLocal = true ↔
      p.Leads fs path r.level r.reference ∨ 0 < r.level ∨ (r.kind = .names ∧
        ∃ name ∈ r.names, p.Leads fs path r.level (r.reference ++ "." ++ name)) := by
  simp only [resolveRecord, Bool.or_eq_true, Bool.and_eq_true, decide_eq_true_eq, List.any_eq_true,
    isSome_resolveModule_of_regular regular, isSome_submodule_of_regular regular, or_assoc]

theorem targets_resolveRecord :
    p.targets fs (p.resolveRecord fs path r) = [] ↔
      ¬ p.Leads fs path r.level r.reference ∧
        ∀ name ∈ r.names, ¬ p.Leads fs path r.level (r.reference ++ "." ++ name) := by
  have none {x : Option Path} : x = none ↔ ¬ x.isSome = true := by simp
  rw [targets_eq_nil (s := p.resolveRecord fs path r) regular.names_eq_nil]
  refine and_congr (none.trans (not_congr (isSome_resolveModule_of_regular regular))) ?_
  refine forall₂_congr fun name _ => ?_
  exact none.trans (not_congr (isSome_submodule_of_regular regular name))

/-- A local import for which no file is used is a dead end. -/
theorem isLocal_and_isEmpty_resolveRecord :
    ((p.resolveRecord fs path r).isLocal && (p.targets fs (p.resolveRecord fs path r)).isEmpty) =
      decide (p.DeadEnd fs (p.resolveRecord fs path r)) := by
  rw [Bool.eq_iff_iff, Bool.and_eq_true, decide_eq_true_eq, List.isEmpty_iff,
    isLocal_resolveRecord regular, targets_resolveRecord regular]
  constructor
  · rintro ⟨own | dots | ⟨-, name, hn, found⟩, unled, apart⟩
    · exact absurd own unled
    · exact ⟨dots, unled, apart⟩
    · exact absurd found (apart name hn)
  · rintro ⟨dots, unled, apart⟩
    exact ⟨.inr (.inl dots), unled, apart⟩

end Record

/-- Which imports of a module are local, and which are noted down.  An import without dots is local
exactly if a file answers to it, or to one of its names as a module inside; one with dots always.
Noted down are those with dots that are dead ends, each once and in order. -/
theorem classified_resolveImports {imports : ResolvedImports}
    (h : p.resolveImports fs path = .ok imports) :
    (∀ s ∈ imports.statements, s.origin = p.locate fs path ∧
      (s.level = 0 → (s.isLocal = true ↔ p.Leads fs s.origin 0 s.reference ∨
        (s.kind = .names ∧ ∃ name ∈ s.names, p.Leads fs s.origin 0 (s.reference ++ "." ++ name)))) ∧
      (0 < s.level → s.isLocal = true)) ∧
    (p.localSources fs imports.statements).diagnostics.filter (·.kind = .unresolvedImport) =
      (imports.statements.filter (p.DeadEnd fs ·)).map p.unresolvedDiagnostic := by
  obtain ⟨m, -, statements⟩ := exists_module_of_resolveImports h
  have records : ∀ s ∈ imports.statements, ∃ r : ImportRecord, r.Regular ∧
      s = p.resolveRecord fs (p.locate fs path) r := by
    intro s hs
    rw [statements] at hs
    obtain ⟨r, hr, rfl⟩ := List.mem_map.1 hs
    exact ⟨r, m.regular_imports r hr, rfl⟩
  refine ⟨fun s hs => ?_, ?_⟩
  · obtain ⟨r, regular, rfl⟩ := records s hs
    have decided : (p.resolveRecord fs (p.locate fs path) r).isLocal = true ↔ _ :=
      isLocal_resolveRecord regular
    refine ⟨rfl, fun flat => ?_, fun dots => decided.2 (.inr (.inl dots))⟩
    have level : r.level = 0 := flat
    rw [decided, level]
    simp [resolveRecord]
  · -- the notes are those of a plain reading, in which only dead ends count here
    rw [(localSources_resolveImports h).2]
    refine (unresolved_notes _).trans (congrArg _ ?_)
    rw [filterMap_deadEnd?_events, List.filter_filter]
    refine List.filter_congr fun s hs => ?_
    obtain ⟨r, regular, rfl⟩ := records s hs
    rw [Bool.and_comm]
    exact isLocal_and_isEmpty_resolveRecord regular

/-- A project with a module `a`, a directory that is no package but has a module in it, and a module
with imports of many kinds. -/
def manyImports : FileSystem :=
  ⟨[("p", .directory [("a.py", .file (.text "")), ("k", .directory [("s.py", .file (.text ""))]),
    ("m.py", .file (.text
      "import a, b\nfrom k import s\nfrom k import *\nfrom . import a\nfrom .z import y\n"))])],
    [], rfl⟩

/-- Of two imports with dots one is a dead end. -/
theorem classified_resolveImports_manyImports : ∃ p, load manyImports ⟨"/p"⟩ {} = .ok p ∧
    ∃ imports, p.resolveImports manyImports ⟨"m.py"⟩ = .ok imports ∧
      imports.statements.map (fun s => (s.reference, s.isLocal)) =
        [("a", true), ("b", false), ("k", true), ("k", false), (".", true), (".z", true)] ∧
      (p.localSources manyImports imports.statements).diagnostics.filter
          (·.kind = .unresolvedImport) =
        (imports.statements.filter (p.DeadEnd manyImports ·)).map p.unresolvedDiagnostic ∧
      (imports.statements.filter (p.DeadEnd manyImports ·)).map (·.reference) = [".z"] := by
  have computed : (load manyImports ⟨"/p"⟩ {}).toOption.map (fun p =>
      (p.resolveImports manyImports ⟨"m.py"⟩).toOption.map fun imports =>
        (imports.statements.map (fun s => (s.reference, s.isLocal)),
          (imports.statements.filter (p.DeadEnd manyImports ·)).map (·.reference))) =
      some (some ([("a", true), ("b", false), ("k", true), ("k", false), (".", true), (".z", true)],
        [".z"])) := by
    decide +kernel
  obtain ⟨p, opened, values⟩ := Option.map_eq_some_iff.1 computed
  obtain ⟨imports, resolved, values⟩ := Option.map_eq_some_iff.1 values
  obtain ⟨locals, deadEnds⟩ := Prod.mk.inj values
  have done := ok_of_toOption resolved
  have noted := (classified_resolveImports done).2
  exact ⟨p, ok_of_toOption opened, imports, done, locals, noted, deadEnds⟩

end Project

end CallContext
