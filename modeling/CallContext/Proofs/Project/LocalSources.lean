import CallContext.Project.Imports
import CallContext.Proofs.Analysis.Definitions
import CallContext.Proofs.Files.Spelling
import CallContext.Proofs.Project.Callers

/-!
# What local imports bring in

The modules that local imports lead to are read once and then remembered.  What is remembered of a
file is what would be read again.  So the elements are those of a plain reading, one statement after
the other (`Project.contribution`), and a file that cannot be used is noted down where it is used
first (`Project.events`); that is `Project.localSources_eq_contributions`.

Files are remembered by the components of their paths.  A path with a slash at its end has the same
components as the one without, but only a directory can be read under it.  All this holds where no
file is spelled in both ways (`Project.SpelledAlike`).
-/

namespace CallContext

namespace FileSystem

/-- What is read of a module depends on its text only. -/
theorem toOption_catalog (fs : FileSystem) (path : Path) :
    (fs.catalog path).toOption =
      (fs.read path).toOption.bind fun source =>
        (Module.parse source).toOption.map Module.catalog := by
  unfold FileSystem.catalog FileSystem.module Module.ofText
  cases fs.read path with
  | error e => rfl
  | ok source =>
    dsimp only [Except.toOption, Option.bind_some]
    generalize Module.parse source = parsed
    cases parsed <;> rfl

end FileSystem

namespace Project

/-! ### Plain reading -/

/-- The elements of the module in a file; none if it cannot be used. -/
def elementsAt (fs : FileSystem) (path : Path) : List Element :=
  match fs.catalog path with
  | .ok c => c.elements
  | .error _ => []

/-- The elements of the module that a statement leads to. -/
def offered (fs : FileSystem) (s : ImportStatement) : List Element :=
  s.resolved.toList.flatMap (elementsAt fs)

/-- What a statement takes of the elements of its module. -/
def taken (s : ImportStatement) (es : List Element) : List Element :=
  match s.kind with
  | .wholeModule => es
  | .wildcard => es.filter fun e => e.name.toList.head? ≠ some '_'
  | .names => es.filter fun e => e.name ∈ s.names

/-- The files of the names of a statement that are modules: those that are not defined in the module
that it leads to. -/
def submodules (p : Project) (fs : FileSystem) (s : ImportStatement) : List Path :=
  match s.kind with
  | .names =>
    (s.names.filter fun name => name ∉ (offered fs s).map (·.name)).filterMap
      (p.submodule fs s.reference s.level s.origin)
  | _ => []

/-- The elements that a statement brings in. -/
def contribution (p : Project) (fs : FileSystem) (s : ImportStatement) : List Element :=
  taken s (offered fs s) ++ (p.submodules fs s).flatMap (elementsAt fs)

/-- The files that a statement uses. -/
def targets (p : Project) (fs : FileSystem) (s : ImportStatement) : List Path :=
  s.resolved.toList ++ p.submodules fs s

/-- What happens at a statement. -/
inductive Event where
  /-- A file is used. -/
  | use (path : Path)
  /-- The statement leads nowhere. -/
  | deadEnd (s : ImportStatement)

/-- The same file is used by both. -/
def Event.repeats : Event → Event → Bool
  | .use path, .use path' => path.same path'
  | _, _ => false

/-- What happens at a statement, in order. -/
def events (p : Project) (fs : FileSystem) (s : ImportStatement) : List Event :=
  if (p.targets fs s).isEmpty then [.deadEnd s] else (p.targets fs s).map .use

/-- What is noted down: a file that cannot be used, or a statement that leads nowhere. -/
def note? (p : Project) (fs : FileSystem) : Event → Option Diagnostic
  | .use path =>
    match fs.catalog path with
    | .ok _ => none
    | .error e => some (Diagnostic.ofError path e)
  | .deadEnd s => some (p.unresolvedDiagnostic s)

/-- What is noted down of some events: a file that is used again is not noted again. -/
def notes (p : Project) (fs : FileSystem) (events : List Event) : List Diagnostic :=
  (events.eraseDupsBy Event.repeats).filterMap (p.note? fs)

/-! ### First uses -/

/-- Something at the end stays if it repeats nothing before. -/
theorem eraseDupsBy_concat {α : Type} {r : α → α → Bool}
    (trans : ∀ a b c, r a b = true → r b c = true → r a c = true) (a : α) :
    ∀ as : List α,
      (as ++ [a]).eraseDupsBy r = as.eraseDupsBy r ++ if as.any (r a) then [] else [a]
  | [] => by simp [List.eraseDupsBy_cons]
  | b :: rest => by
    have ih := eraseDupsBy_concat trans a (rest.filter fun c => r c b = false)
    rw [List.cons_append, List.eraseDupsBy_cons, List.eraseDupsBy_cons, List.filter_append,
      List.any_cons]
    by_cases again : r a b = true
    · simp [again]
    · -- the last one cannot repeat what repeats the first, or else it would repeat the first
      have others : (rest.filter fun c => r c b = false).any (r a) = rest.any (r a) := by
        rw [List.any_filter, Bool.eq_iff_iff, List.any_eq_true, List.any_eq_true]
        refine exists_congr fun c => and_congr_right fun _ => ?_
        have := trans a c b
        grind
      have last : ([a].filter fun c => r c b = false) = [a] := by simp [again]
      rw [last, ih, others, Bool.eq_false_iff.2 again, Bool.false_or, List.cons_append]
termination_by as => as.length
decreasing_by exact Nat.lt_succ_of_le (List.length_filter_le _ rest)

theorem Event.repeats_trans (a b c : Event) (h : a.repeats b = true) (h' : b.repeats c = true) :
    a.repeats c = true := by
  cases a <;> cases b <;> cases c <;> simp_all [Event.repeats, Path.same]

variable {p : Project} {fs : FileSystem}

theorem notes_concat (past : List Event) (event : Event) :
    p.notes fs (past ++ [event]) =
      p.notes fs past ++ if past.any event.repeats then [] else (p.note? fs event).toList := by
  rw [notes, eraseDupsBy_concat Event.repeats_trans, List.filterMap_append, ← notes]
  split
  · rfl
  · cases noted : p.note? fs event <;> simp [noted]

/-! ### What is remembered -/

/-- Exactly the files that were used are remembered, each as it would be read. -/
structure Remembers (fs : FileSystem) (past : List Event) (loaded : List (Path × Option Catalog)) :
    Prop where
  known : ∀ entry ∈ loaded, .use entry.1 ∈ past ∧ entry.2 = (fs.catalog entry.1).toOption
  complete : ∀ path, .use path ∈ past → ∃ entry ∈ loaded, entry.1.same path = true

variable {past : List Event} {loaded : List (Path × Option Catalog)}

namespace Remembers

/-- A file is used again if it is found in the memory. -/
theorem any_repeats (h : Remembers fs past loaded) (path : Path) :
    past.any (Event.use path).repeats = (loaded.find? (·.1.same path)).isSome := by
  rw [Bool.eq_iff_iff, List.any_eq_true, List.find?_isSome]
  constructor
  · rintro ⟨path' | s, used, again⟩
    · obtain ⟨entry, mem, same⟩ := h.complete path' used
      exact ⟨entry, mem, Path.same_trans same (Path.same_comm.1 again)⟩
    · cases again
  · rintro ⟨entry, mem, same⟩
    exact ⟨.use entry.1, (h.known entry mem).1, Path.same_comm.1 same⟩

theorem known_append (h : Remembers fs past loaded) (event : Event) :
    ∀ entry ∈ loaded, .use entry.1 ∈ past ++ [event] ∧ entry.2 = (fs.catalog entry.1).toOption := by
  intro entry mem
  obtain ⟨used, value⟩ := h.known entry mem
  exact ⟨List.mem_append_left _ used, value⟩

theorem append_deadEnd (h : Remembers fs past loaded) (s : ImportStatement) :
    Remembers fs (past ++ [.deadEnd s]) loaded := by
  refine ⟨h.known_append _, fun path used => h.complete path ?_⟩
  simpa using used

/-- Nothing has to be added for a file that is remembered. -/
theorem append_use {entry : Path × Option Catalog} (h : Remembers fs past loaded) {path : Path}
    (mem : entry ∈ loaded) (same : entry.1.same path = true) :
    Remembers fs (past ++ [.use path]) loaded := by
  refine ⟨h.known_append _, fun path' used => ?_⟩
  rcases List.mem_append.1 used with before | now
  · exact h.complete path' before
  · cases List.mem_singleton.1 now
    exact ⟨entry, mem, same⟩

theorem cons (h : Remembers fs past loaded) (path : Path) :
    Remembers fs (past ++ [.use path]) ((path, (fs.catalog path).toOption) :: loaded) := by
  refine ⟨List.forall_mem_cons.2 ⟨⟨by simp, rfl⟩, h.known_append _⟩, fun path' used => ?_⟩
  rcases List.mem_append.1 used with before | now
  · obtain ⟨entry, mem, same⟩ := h.complete path' before
    exact ⟨entry, List.mem_cons_of_mem _ mem, same⟩
  · cases List.mem_singleton.1 now
    exact ⟨_, List.mem_cons_self, Path.same_self path⟩

end Remembers

/-- The state after some events, which have used some of `files`: `es` was brought in, and the notes
are those of the events. -/
structure Tracks (p : Project) (fs : FileSystem) (files : List Path) (past : List Event)
    (es : List Element) (l : Loading) : Prop where
  elements_eq : l.elements = Catalog.ofList es
  diagnostics_eq : l.diagnostics = p.notes fs past
  remembers : Remembers fs past l.loaded
  inside : ∀ path, .use path ∈ past → path ∈ files

variable {files : List Path} {es : List Element} {l : Loading}

theorem tracks_nil : Tracks p fs files [] [] ⟨∅, [], []⟩ := ⟨rfl, rfl, ⟨nofun, nofun⟩, nofun⟩

theorem Tracks.insertAll (h : Tracks p fs files past es l) (more : List Element) :
    Tracks p fs files past (es ++ more) { l with elements := l.elements.insertAll more } :=
  { h with
    elements_eq := by
      rw [h.elements_eq, Catalog.ofList, Catalog.ofList, Catalog.insertAll, Catalog.insertAll,
        Catalog.insertAll, List.foldl_append] }

/-- A statement that leads nowhere is noted down. -/
theorem Tracks.deadEnd (h : Tracks p fs files past es l) (s : ImportStatement) :
    Tracks p fs files (past ++ [.deadEnd s]) es
      { l with diagnostics := l.diagnostics ++ [p.unresolvedDiagnostic s] } := by
  have once : past.any (Event.deadEnd s).repeats = false := by simp [Event.repeats]
  refine ⟨h.elements_eq, ?_, h.remembers.append_deadEnd s, fun path used => h.inside path ?_⟩
  · rw [notes_concat, once, h.diagnostics_eq]
    rfl
  · simpa using used

/-- Paths with the same components are read alike. -/
def ReadAlike (fs : FileSystem) (files : List Path) : Prop :=
  ∀ a ∈ files, ∀ b ∈ files, a.same b = true →
    (fs.catalog a).toOption = (fs.catalog b).toOption

/-- A file that is not remembered is read. -/
theorem load?_of_find?_eq_none (p : Project) {path : Path}
    (h : l.loaded.find? (·.1.same path) = none) :
    load? fs path l = ((fs.catalog path).toOption,
      { l with
        loaded := (path, (fs.catalog path).toOption) :: l.loaded
        diagnostics := l.diagnostics ++ (p.note? fs (.use path)).toList }) := by
  rw [load?, h, note?]
  cases fs.catalog path with
  | ok c => simp [Except.toOption]
  | error e => rfl

/-- A file is found as it would be read, and remembered. -/
theorem Tracks.load? {path : Path} (h : Tracks p fs files past es l) (alike : ReadAlike fs files)
    (hp : path ∈ files) :
    (load? fs path l).1 = (fs.catalog path).toOption ∧
      Tracks p fs files (past ++ [.use path]) es (load? fs path l).2 := by
  have inside (path' : Path) (used : .use path' ∈ past ++ [.use path]) : path' ∈ files := by
    rcases List.mem_append.1 used with before | now
    · exact h.inside path' before
    · cases List.mem_singleton.1 now
      exact hp
  have again := h.remembers.any_repeats path
  cases found : l.loaded.find? (·.1.same path) with
  | some entry =>
    have kept : Project.load? fs path l = (entry.2, l) := by rw [Project.load?, found]
    have same : entry.1.same path = true := by simpa using List.find?_some found
    have mem := List.mem_of_find?_eq_some found
    obtain ⟨used, value⟩ := h.remembers.known entry mem
    rw [kept]
    refine ⟨value.trans (alike _ (h.inside _ used) _ hp same), h.elements_eq, ?_,
      h.remembers.append_use mem same, inside⟩
    rw [notes_concat, again, found, h.diagnostics_eq]
    exact (List.append_nil _).symm
  | none =>
    rw [load?_of_find?_eq_none p found]
    refine ⟨rfl, h.elements_eq, ?_, h.remembers.cons path, inside⟩
    rw [notes_concat, again, found, h.diagnostics_eq]
    rfl

/-! ### Names that are modules -/

theorem getD_elements (path : Path) :
    ((fs.catalog path).toOption.map (·.elements)).getD [] = elementsAt fs path := by
  rw [elementsAt]
  cases fs.catalog path <;> rfl

variable {s : ImportStatement}

/-- The file of a name that is a module. -/
def fileOf (p : Project) (fs : FileSystem) (s : ImportStatement) (name : String) : Option Path :=
  p.submodule fs s.reference s.level s.origin name

theorem addSubmodule_of_none {name : String} (h : p.fileOf fs s name = none) (l : Loading)
    (n : Nat) : p.addSubmodule fs s (l, n) name = (l, n) := by
  rw [fileOf] at h
  rw [addSubmodule, h]

theorem addSubmodule_of_some {name : String} {path : Path} (h : p.fileOf fs s name = some path)
    (l : Loading) (n : Nat) :
    p.addSubmodule fs s (l, n) name =
      ({ (load? fs path l).2 with
          elements := (load? fs path l).2.elements.insertAll
            (((load? fs path l).1.map (·.elements)).getD []) }, n + 1) := by
  rw [fileOf] at h
  rw [addSubmodule, h]

/-- The names that are modules are counted. -/
theorem count_addSubmodule (names : List String) (l : Loading) (n : Nat) :
    (names.foldl (p.addSubmodule fs s) (l, n)).2 =
      n + (names.filterMap (p.fileOf fs s)).length := by
  induction names generalizing l n with
  | nil => rfl
  | cons name names ih =>
    rw [List.foldl_cons]
    cases found : p.fileOf fs s name with
    | none => rw [addSubmodule_of_none found, ih, List.filterMap_cons_none found]
    | some path =>
      rw [addSubmodule_of_some found, ih, List.filterMap_cons_some found, List.length_cons]
      omega

/-- The modules of some names are used one after the other. -/
theorem Tracks.foldl_addSubmodule {names : List String} (h : Tracks p fs files past es l)
    (alike : ReadAlike fs files) (hn : ∀ path ∈ names.filterMap (p.fileOf fs s), path ∈ files)
    (n : Nat) :
    Tracks p fs files (past ++ (names.filterMap (p.fileOf fs s)).map .use)
      (es ++ (names.filterMap (p.fileOf fs s)).flatMap (elementsAt fs))
      (names.foldl (p.addSubmodule fs s) (l, n)).1 := by
  induction names generalizing past es l n with
  | nil => simpa using h
  | cons name names ih =>
    rw [List.foldl_cons]
    cases found : p.fileOf fs s name with
    | none =>
      rw [List.filterMap_cons_none found] at hn ⊢
      rw [addSubmodule_of_none found]
      exact ih h hn n
    | some path =>
      rw [List.filterMap_cons_some found] at hn ⊢
      obtain ⟨first, rest⟩ := List.forall_mem_cons.1 hn
      obtain ⟨read, tracked⟩ := h.load? alike first
      rw [addSubmodule_of_some found, read, getD_elements]
      simpa using ih (tracked.insertAll (elementsAt fs path)) rest (n + 1)

/-! ### Statements -/

/-- What the module of a statement is read as. -/
def package (fs : FileSystem) (s : ImportStatement) : Option Catalog :=
  s.resolved.bind fun path => (fs.catalog path).toOption

theorem getD_elements_package : ((package fs s).map (·.elements)).getD [] = offered fs s := by
  rw [package, offered]
  cases s.resolved with
  | none => rfl
  | some path => simpa using getD_elements path

theorem filter_wants (es : List Element) : es.filter (wants s) = taken s es := by
  unfold taken wants
  cases s.kind with
  | wholeModule => simp
  | names => simp
  | wildcard => rfl

theorem indexed_of_catalog {path : Path} {c : Catalog} (h : fs.catalog path = .ok c) :
    c.Indexed := by
  unfold FileSystem.catalog at h
  split at h
  · cases h
  · next m _ =>
    cases h
    exact m.indexed_catalog

theorem any_contains_package (fs : FileSystem) (s : ImportStatement) (name : String) :
    (package fs s).any (·.contains name) = true ↔ name ∈ (offered fs s).map (·.name) := by
  rw [package, offered]
  cases s.resolved with
  | none => simp
  | some path =>
    simp only [Option.bind_some, Option.toList_some, List.flatMap_singleton, elementsAt]
    cases read : fs.catalog path with
    | error e => simp [Except.toOption]
    | ok c => exact (indexed_of_catalog read).contains

/-- The names that are looked up as modules are those that the module of the statement lacks. -/
theorem filterMap_unmatched (p : Project) (fs : FileSystem) (s : ImportStatement) :
    (unmatched s (package fs s)).filterMap (p.fileOf fs s) = p.submodules fs s := by
  unfold unmatched submodules
  cases s.kind with
  | names =>
    refine congrArg (List.filterMap _) (List.filter_congr fun name _ => ?_)
    have defined := any_contains_package fs s name
    rw [Bool.eq_iff_iff, Bool.not_eq_true', decide_eq_true_eq, ← defined, Bool.not_eq_true]
  | _ => rfl

/-- The module of a statement, read or remembered. -/
def opened (fs : FileSystem) (l : Loading) (s : ImportStatement) : Option Catalog × Loading :=
  match s.resolved with
  | some path => load? fs path l
  | none => (none, l)

/-- A statement takes from its module first, then from those of the names that the module lacks. -/
theorem addStatement_eq (p : Project) (fs : FileSystem) (l : Loading) (s : ImportStatement) :
    p.addStatement fs l s =
      let (found, l) := opened fs l s
      let wanted := ((found.map (·.elements)).getD []).filter (wants s)
      let sum := (unmatched s found).foldl (p.addSubmodule fs s)
        ({ l with elements := l.elements.insertAll wanted }, 0)
      if s.resolved.isNone && sum.2 = 0 then
        { sum.1 with diagnostics := sum.1.diagnostics ++ [p.unresolvedDiagnostic s] }
      else sum.1 :=
  rfl

/-- A statement is a dead end if no file is used for it. -/
theorem isNone_and_count (l : Loading) (s : ImportStatement) :
    (s.resolved.isNone &&
      decide (((unmatched s (opened fs l s).1).filterMap (p.fileOf fs s)).length = 0)) =
        (p.targets fs s).isEmpty := by
  cases resolved : s.resolved with
  | some path => simp [targets, resolved]
  | none =>
    -- nothing is remembered here, so that the names are looked up as in a plain reading
    have none : (opened fs l s).1 = package fs s := by simp [opened, package, resolved]
    rw [none, filterMap_unmatched]
    cases modules : p.submodules fs s <;> simp [targets, resolved, modules]

theorem Tracks.opened (h : Tracks p fs files past es l) (alike : ReadAlike fs files)
    (hs : ∀ path ∈ s.resolved.toList, path ∈ files) :
    (opened fs l s).1 = package fs s ∧
      Tracks p fs files (past ++ s.resolved.toList.map .use) es (opened fs l s).2 := by
  unfold Project.opened package
  cases resolved : s.resolved with
  | none => simpa using h
  | some path => exact h.load? alike (hs path (by simp [resolved]))

/-- A statement adds its events and its contribution. -/
theorem Tracks.addStatement (h : Tracks p fs files past es l) (alike : ReadAlike fs files)
    (hs : ∀ path ∈ p.targets fs s, path ∈ files) :
    Tracks p fs files (past ++ p.events fs s) (es ++ p.contribution fs s)
      (p.addStatement fs l s) := by
  obtain ⟨own, others⟩ := List.forall_mem_append.1 hs
  obtain ⟨read, tracked⟩ := h.opened alike own
  rw [← filterMap_unmatched] at others
  have added := (tracked.insertAll (taken s (offered fs s))).foldl_addSubmodule alike others 0
  rw [filterMap_unmatched, List.append_assoc, List.append_assoc, ← List.map_append, ← targets,
    ← contribution] at added
  rw [addStatement_eq]
  dsimp only
  rw [count_addSubmodule, Nat.zero_add, isNone_and_count, read, getD_elements_package,
    filter_wants, events]
  cases empty : (p.targets fs s).isEmpty with
  | true =>
    rw [List.isEmpty_iff.1 empty, List.map_nil, List.append_nil] at added
    exact added.deadEnd s
  | false => exact added

/-- What the local ones of some statements bring in, one after the other. -/
theorem Tracks.foldl_addStatement {statements : List ImportStatement}
    (h : Tracks p fs files past es l) (alike : ReadAlike fs files)
    (hs : ∀ path ∈ statements.flatMap (p.targets fs), path ∈ files) :
    Tracks p fs files (past ++ statements.flatMap (p.events fs))
      (es ++ statements.flatMap (p.contribution fs)) (statements.foldl (p.addStatement fs) l) := by
  induction statements generalizing past es l with
  | nil => simpa using h
  | cons s statements ih =>
    rw [List.flatMap_cons] at hs
    obtain ⟨first, rest⟩ := List.forall_mem_append.1 hs
    simpa using ih (h.addStatement alike first) rest

/-! ### Spelling -/

/-- No path is written both with and without a slash or a dot at the end. -/
def SpelledAlike (files : List Path) : Prop :=
  ∀ a ∈ files, ∀ b ∈ files, a.same b = true → a.endsIdle = b.endsIdle

instance (files : List Path) : Decidable (SpelledAlike files) :=
  inferInstanceAs (Decidable (∀ a ∈ files, ∀ b ∈ files, a.same b = true → a.endsIdle = b.endsIdle))

theorem spelledAlike_of_plain (h : ∀ path ∈ files, path.Plain) : SpelledAlike files :=
  fun a ha b hb same => congrArg Path.endsIdle ((h a ha).eq_of_same (h b hb) same)

theorem SpelledAlike.readAlike (h : SpelledAlike files) : ReadAlike fs files := by
  intro a ha b hb same
  have text : fs.read a = fs.read b := by
    rw [FileSystem.read, FileSystem.resolve_of_same same (h a ha b hb same), ← FileSystem.read]
  rw [fs.toOption_catalog, fs.toOption_catalog, text]

/-- Local imports bring in what a plain reading of their files gives, of each name the last, and
note down each file that cannot be used where it is used first, if no file is written both with and
without a slash at the end. -/
theorem localSources_eq_contributions {statements : List ImportStatement}
    (spelled : SpelledAlike ((statements.filter (·.isLocal)).flatMap (p.targets fs))) :
    (p.localSources fs statements).elements =
        Catalog.ofList ((statements.filter (·.isLocal)).flatMap (p.contribution fs)) ∧
      (p.localSources fs statements).diagnostics =
        p.notes fs ((statements.filter (·.isLocal)).flatMap (p.events fs)) := by
  have run := (tracks_nil (p := p)).foldl_addStatement spelled.readAlike fun _ hp => hp
  exact ⟨run.elements_eq, run.diagnostics_eq⟩

/-- A project with a package that cannot be parsed, a module in it, and another module with an
element of the same name. -/
def brokenPackage : FileSystem :=
  ⟨[("p", .directory [("b.py", .file (.text "def _g(): pass\ndef f(): pass")),
    ("k", .directory [("__init__.py", .file (.text "def (")),
      ("s.py", .file (.text "def f(): g()"))])])], [], rfl⟩

/-- Imports in the project `brokenPackage`: a name of the package, everything from the other module,
the package again under another spelling, and one that leads nowhere. -/
def mixedImports : List ImportStatement :=
  let origin : Path := ⟨"/p/m.py"⟩
  [⟨"k", ["s"], .names, 0, true, "from k import s", 1, some ⟨"/p/k/__init__.py"⟩, origin⟩,
    ⟨"b", [], .wildcard, 0, true, "from b import *", 2, some ⟨"/p/b.py"⟩, origin⟩,
    ⟨"k", [], .wholeModule, 0, true, "import k", 3, some ⟨"/p/./k//__init__.py"⟩, origin⟩,
    ⟨".z", ["y"], .names, 1, true, "from .z import y", 4, none, origin⟩]

/-- The element of the other module comes last, and the package is noted down once. -/
theorem localSources_eq_contributions_mixedImports : ∃ p, load brokenPackage ⟨"/p"⟩ {} = .ok p ∧
    SpelledAlike ((mixedImports.filter (·.isLocal)).flatMap (p.targets brokenPackage)) ∧
    (p.localSources brokenPackage mixedImports).elements = Catalog.ofList
      ((mixedImports.filter (·.isLocal)).flatMap (p.contribution brokenPackage)) ∧
    (p.localSources brokenPackage mixedImports).elements.elements.map (·.source) =
      ["def f(): pass"] ∧
    (p.localSources brokenPackage mixedImports).diagnostics.map (·.kind) =
      [.parse, .unresolvedImport] := by
  have computed : (load brokenPackage ⟨"/p"⟩ {}).toOption.map (fun p =>
      (decide (SpelledAlike ((mixedImports.filter (·.isLocal)).flatMap (p.targets brokenPackage))),
        (p.localSources brokenPackage mixedImports).elements.elements.map (·.source),
        (p.localSources brokenPackage mixedImports).diagnostics.map (·.kind))) =
      some (true, ["def f(): pass"], [.parse, .unresolvedImport]) := by
    decide +kernel
  obtain ⟨p, opened, values⟩ := Option.map_eq_some_iff.1 computed
  obtain ⟨spelled, values⟩ := Prod.mk.inj values
  obtain ⟨sources, kinds⟩ := Prod.mk.inj values
  have alike := of_decide_eq_true spelled
  exact ⟨p, ok_of_toOption opened, alike, (localSources_eq_contributions alike).1, sources, kinds⟩

/-- A project with one module. -/
def oneModule : FileSystem :=
  ⟨[("p", .directory [("a.py", .file (.text "def f(): pass"))])], [], rfl⟩

/-- Two imports of the module; the first looks for it with a slash at the end of the path. -/
def slashedImports : List ImportStatement :=
  [⟨"a", [], .wholeModule, 0, true, "import a", 1, some ⟨"/p/a.py/"⟩, ⟨"/p/m.py"⟩⟩,
    ⟨"a", [], .wholeModule, 0, true, "import a", 2, some ⟨"/p/a.py"⟩, ⟨"/p/m.py"⟩⟩]

/-- A module is not read where it was looked for with a slash at the end before: that failed, and
the failure is remembered. -/
theorem localSources_ne_contributions_slashedImports : ∃ p, load oneModule ⟨"/p"⟩ {} = .ok p ∧
    (p.localSources oneModule slashedImports).elements ≠ Catalog.ofList
      ((slashedImports.filter (·.isLocal)).flatMap (p.contribution oneModule)) := by
  have computed : (load oneModule ⟨"/p"⟩ {}).toOption.map (fun p => decide
      ((p.localSources oneModule slashedImports).elements = Catalog.ofList
        ((slashedImports.filter (·.isLocal)).flatMap (p.contribution oneModule)))) =
      some false := by
    decide +kernel
  obtain ⟨p, opened, different⟩ := Option.map_eq_some_iff.1 computed
  exact ⟨p, ok_of_toOption opened, of_decide_eq_false different⟩

end Project

end CallContext
