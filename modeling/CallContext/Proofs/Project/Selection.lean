import CallContext.Proofs.Project.SourceFiles

/-!
# Which files are selected

The scan goes through the tree and leaves directories out on its way.  Seen from the outside there
is no way: a file is selected for what its names and its size are.

* `FileTree.fileAt?` looks a file up along some names, without links,
* `ScanSettings.Admits` is what the settings ask of the names and the size of a file,
* `Project.meets_iff` : without links, a scan meets the files that are found along names of which
  only the last may be that of an excluded directory,
* `Project.selects_sourceFiles` : the source files are those that the settings admit, in increasing
  order.
-/

namespace CallContext

open FileSystem

/-- The file at the end of some names, if there are directories on the way to it. -/
def FileTree.fileAt? : List String → Entries → Option Content
  | [], _ => none
  | [name], entries =>
    match entries.lookup name with
    | some (.file content) => some content
    | _ => none
  | name :: rest, entries => fileAt? rest (entriesAt name entries)

/-- The settings admit a file of this size at the end of some names below the root. -/
structure ScanSettings.Admits (s : ScanSettings) (names : List String) (size : Nat) : Prop where
  /-- The name of the file ends in a dot and one of the extensions, and something stands before
  the dot. -/
  extension : ∃ stem extension, names.getLast? = some (stem ++ "." ++ extension) ∧ stem ≠ "" ∧
    '.' ∉ extension.toList ∧ extension ∈ s.extensions
  /-- The directories between the root and the file are not excluded. -/
  directories : ∀ directory ∈ names.dropLast, directory ∉ s.excludedDirectories
  size_le : size ≤ min s.maxFileBytes absoluteMaxFileBytes

namespace FileTree

variable {entries : Entries} {name : String}

theorem fileAt?_singleton {content : Content} :
    fileAt? [name] entries = some content ↔ entries.lookup name = some (.file content) := by
  rw [fileAt?]
  match entries.lookup name with
  | none => simp
  | some (.file content') => simp
  | some (.directory inner) => simp
  | some (.link target) => simp

theorem fileAt?_cons {rest : List String} (ne : rest ≠ []) :
    fileAt? (name :: rest) entries = fileAt? rest (entriesAt name entries) := by
  cases rest with
  | nil => exact absurd rfl ne
  | cons next more => rfl

theorem fileAt?_nil (names : List String) : fileAt? names [] = none := by
  induction names with
  | nil => rfl
  | cons name rest ih =>
    by_cases ne : rest = []
    · rw [ne]
      rfl
    · rw [fileAt?_cons ne]
      exact ih

theorem entriesAt_eq {inner : Entries} (h : entries.lookup name = some (.directory inner)) :
    entriesAt name entries = inner := by
  rw [entriesAt, h]

/-- Where a file is found behind a name, the name is that of a directory. -/
theorem lookup_of_fileAt? {rest : List String} {content : Content}
    (h : fileAt? rest (entriesAt name entries) = some content) :
    entries.lookup name = some (.directory (entriesAt name entries)) := by
  unfold entriesAt at h ⊢
  split at h
  · assumption
  · rw [fileAt?_nil] at h
    cases h

end FileTree

namespace Path

theorem fileName?_descend {directory : Path} (h : directory.isAbsolute = true)
    {names : List String} (proper : Proper names) (ne : names ≠ []) :
    (directory.descend names).fileName? = names.getLast? := by
  obtain ⟨before, last, rfl⟩ : ∃ before last, names = before ++ [last] :=
    ⟨_, _, (List.dropLast_concat_getLast ne).symm⟩
  have ends : (directory.descend (before ++ [last])).components =
      (directory.components ++ before.map .name) ++ [.name last] := by
    rw [components_descend h proper]
    simp
  rw [fileName?, ends, List.getLast?_concat, List.getLast?_concat]

end Path

namespace Project

open FileTree (fileAt? fileAt?_cons fileAt?_singleton)

variable {p : Project} {fs : FileSystem} {visit : Visit} {entries : Entries}
  {names : List String} {f : Found}

/-! ### Looking files up -/

theorem excludes_eq_false_iff {name : String} :
    p.excludes name = false ↔ name ∉ p.scan.excludedDirectories := by
  simp [excludes]

/-- Without links, what is met is found along the names on the way. -/
theorem Meets.fileAt?_eq (h : p.Meets fs visit entries names f)
    (unlinked : p.scan.followLinks = false) (named : FileTree.areWellNamed entries = true) :
    ∃ content, fileAt? names entries = some content ∧ f.size = content.size := by
  induction h with
  | file shown =>
    cases shown with
    | entry mem => exact ⟨_, fileAt?_singleton.2 (FileTree.of_mem_entries named mem).2.1, rfl⟩
    | link mem follows => simp [unlinked] at follows
  | directory shown entered met ih =>
    have inner := shown.wellNamed named
    -- names follow that of the directory, so it is not looked up as a file
    obtain ⟨next, more, -, rfl, -⟩ := met.exists_cons
    cases shown with
    | entry mem =>
      have found := (FileTree.of_mem_entries named mem).2.1
      rw [fileAt?_cons (List.cons_ne_nil next more), FileTree.entriesAt_eq found]
      exact ih inner
    | link mem follows => simp [unlinked] at follows

/-- What is found along names that the scan does not leave out is met. -/
theorem meets_of_fileAt? {content : Content} (h : fileAt? names entries = some content)
    (entered : ∀ directory ∈ names.dropLast, p.excludes directory = false) :
    p.Meets fs visit entries names ⟨visit.path.descend names, content.size⟩ := by
  induction names generalizing visit entries with
  | nil => cases h
  | cons name rest ih =>
    by_cases last : rest = []
    · -- the name of the file itself may be that of an excluded directory
      subst last
      have found := FileTree.mem_of_lookup (fileAt?_singleton.1 h)
      exact .file (.entry found (by simp))
    · rw [fileAt?_cons last] at h
      rw [List.dropLast_cons_of_ne_nil last] at entered
      obtain ⟨first, others⟩ := List.forall_mem_cons.1 entered
      have found := FileTree.mem_of_lookup (FileTree.lookup_of_fileAt? h)
      exact .directory (.entry found (by simp)) first (ih h others)

/-- Without links, a scan meets the files that are found along names of directories that are not
excluded. -/
theorem meets_iff (unlinked : p.scan.followLinks = false)
    (named : FileTree.areWellNamed entries = true) :
    p.Meets fs visit entries names f ↔ ∃ content, fileAt? names entries = some content ∧
      (∀ directory ∈ names.dropLast, p.excludes directory = false) ∧
      f = ⟨visit.path.descend names, content.size⟩ := by
  constructor
  · intro met
    obtain ⟨content, found, size⟩ := met.fileAt?_eq unlinked named
    refine ⟨content, found, met.excludes_eq_false, ?_⟩
    rw [← met.path_eq, ← size]
  · rintro ⟨content, found, entered, rfl⟩
    exact meets_of_fileAt? found entered

/-! ### What the settings admit -/

/-- A file is accepted for the extension of its last name and for its size. -/
theorem accepts_iff (p : Project) (proper : Proper names) (ne : names ≠ []) (size : Nat) :
    p.accepts ⟨p.root.descend names, size⟩ = true ↔
      (∃ stem extension, names.getLast? = some (stem ++ "." ++ extension) ∧ stem ≠ "" ∧
        '.' ∉ extension.toList ∧ extension ∈ p.scan.extensions) ∧
      size ≤ min p.scan.maxFileBytes absoluteMaxFileBytes := by
  obtain ⟨last, hl⟩ : ∃ last, names.getLast? = some last :=
    ⟨_, List.getLast?_eq_some_getLast ne⟩
  have name : (p.root.descend names).fileName? = some last := by
    rw [Path.fileName?_descend p.isAbsolute_root proper ne, hl]
  have split : (p.root.descend names).extension?.any p.scan.extensions.contains = true ↔
      ∃ extension, (Path.splitExtension last).2 = some extension ∧
        extension ∈ p.scan.extensions := by
    rw [Path.extension?, name, Option.bind_some, Option.any_eq_true]
    simp
  rw [accepts, Bool.and_eq_true, decide_eq_true_eq, split, hl]
  refine and_congr ⟨?_, ?_⟩ .rfl
  · rintro ⟨extension, found, listed⟩
    obtain ⟨stem, written, dotless, rfl⟩ := Path.splitExtension_eq_some.1 found
    exact ⟨stem, extension, rfl, written, dotless, listed⟩
  · rintro ⟨stem, extension, same, written, dotless, listed⟩
    obtain rfl := Option.some.inj same
    exact ⟨extension, Path.splitExtension_eq_some.2 ⟨stem, written, dotless, rfl⟩, listed⟩

/-- The settings admit a file that a scan meets exactly if they accept it. -/
theorem Meets.admits_iff {real : List String} (h : p.Meets fs ⟨p.root, real⟩ entries names f)
    (named : FileTree.areWellNamed entries = true) :
    p.scan.Admits names f.size ↔ p.accepts f = true := by
  obtain ⟨name, rest, tree, cons, -⟩ := h.exists_cons
  have accepted := accepts_iff p (h.proper named) (by simp [cons]) f.size
  rw [← h.path_eq] at accepted
  rw [accepted]
  constructor
  · intro admitted
    exact ⟨admitted.extension, admitted.size_le⟩
  · rintro ⟨extension, size⟩
    exact ⟨extension, fun d hd => excludes_eq_false_iff.1 (h.excludes_eq_false d hd), size⟩

/-! ### The source files -/

/-- The paths are those of the files that a project selects. -/
structure Selects (p : Project) (fs : FileSystem) (files : List Path) : Prop where
  /-- If links are not followed, these are the files below the root that the settings admit. -/
  mem_iff : p.scan.followLinks = false → ∀ path, path ∈ files ↔
    ∃ real entries names content, fs.resolve p.root = .ok (real, .directory entries) ∧
      fileAt? names entries = some content ∧ p.scan.Admits names content.size ∧
      path = p.root.descend names
  /-- In any case the settings admit what the path leads to, along its names below the root. -/
  admits : ∀ path ∈ files, ∃ names real content,
    path.components = p.root.components ++ names.map .name ∧
      fs.resolve path = .ok (real, .file content) ∧ p.scan.Admits names content.size
  increasing : Increasing Path.compare files
  nodup : files.Nodup

theorem mem_sourceFiles {real : List String}
    (reached : fs.resolve p.root = .ok (real, .directory entries))
    (unlinked : p.scan.followLinks = false) {path : Path} :
    path ∈ p.sourceFiles fs ↔ ∃ names content, fileAt? names entries = some content ∧
      p.scan.Admits names content.size ∧ path = p.root.descend names := by
  have named := wellNamed_of_resolve reached
  rw [sourceFiles_of_resolve reached, mem_sortStable, List.mem_map]
  constructor
  · rintro ⟨f, selected, rfl⟩
    obtain ⟨found, accepted⟩ := List.mem_filter.1 selected
    obtain ⟨names, met⟩ := (mem_scanDirectory unlinked).1 found
    have admitted := (met.admits_iff named).2 accepted
    obtain ⟨content, looked, -, rfl⟩ := (meets_iff unlinked named).1 met
    exact ⟨names, content, looked, admitted, rfl⟩
  · rintro ⟨names, content, looked, admitted, rfl⟩
    have entered : ∀ directory ∈ names.dropLast, p.excludes directory = false := fun d hd =>
      excludes_eq_false_iff.2 (admitted.directories d hd)
    have met : p.Meets fs ⟨p.root, real⟩ entries names _ :=
      (meets_iff unlinked named).2 ⟨content, looked, entered, rfl⟩
    have accepted := (met.admits_iff named).1 admitted
    exact ⟨_, List.mem_filter.2 ⟨(mem_scanDirectory unlinked).2 ⟨names, met⟩, accepted⟩, rfl⟩

theorem admits_of_mem_sourceFiles {path : Path} (h : path ∈ p.sourceFiles fs) :
    ∃ names real content, path.components = p.root.components ++ names.map .name ∧
      fs.resolve path = .ok (real, .file content) ∧ p.scan.Admits names content.size := by
  obtain ⟨start, entries, f, reached, found, accepted, rfl⟩ := exists_mem_scan h
  obtain ⟨names, met⟩ := meets_of_mem_scanDirectory found
  have named := wellNamed_of_resolve reached
  obtain ⟨real, content, leads, size, -⟩ := met.resolve_eq p.isAbsolute_root reached
  refine ⟨names, real, content, ?_, leads, size ▸ (met.admits_iff named).2 accepted⟩
  rw [met.path_eq]
  exact Path.components_descend p.isAbsolute_root (met.proper named)

/-- The source files are the files that the project selects. -/
theorem selects_sourceFiles (p : Project) (fs : FileSystem) : p.Selects fs (p.sourceFiles fs) where
  mem_iff unlinked path := by
    constructor
    · intro mem
      obtain ⟨real, entries, -, reached, -⟩ := exists_mem_scan mem
      obtain ⟨names, content, selected⟩ := (mem_sourceFiles reached unlinked).1 mem
      exact ⟨real, entries, names, content, reached, selected⟩
    · rintro ⟨real, entries, names, content, reached, selected⟩
      exact (mem_sourceFiles reached unlinked).2 ⟨names, content, selected⟩
  admits path := admits_of_mem_sourceFiles
  increasing := increasing_sourceFiles
  nodup := increasing_sourceFiles.nodup

/-- Files of all sorts: too large, without an extension, in or like an excluded directory, behind a
link. -/
def assorted : FileSystem :=
  ⟨[("p", .directory [("b.py", .file (.bytes 4)), ("c.py", .file (.bytes 5)),
    (".py", .file (.text "")), ("a.txt", .file (.text "")), ("l.py", .link ⟨"b.py"⟩),
    ("venv", .directory [("d.py", .file (.text ""))]),
    ("k", .directory [("venv", .directory [("e.py", .file (.text ""))]),
      ("m.py", .file (.text "")), ("a.tar.py", .file (.text ""))])])], [], rfl⟩

/-- The names of the root and of a file are excluded here, but only as names of directories. -/
theorem selects_sourceFiles_assorted : ∃ p : Project, p.root = ⟨"/p"⟩ ∧
    p.scan = ⟨["py"], ["p", "venv", "m.py"], 4, false⟩ ∧
    p.sourceFiles assorted = [⟨"/p/b.py"⟩, ⟨"/p/k/a.tar.py"⟩, ⟨"/p/k/m.py"⟩] ∧
    p.Selects assorted (p.sourceFiles assorted) :=
  ⟨⟨⟨"/p"⟩, rfl, _⟩, rfl, rfl, by decide +kernel, selects_sourceFiles _ _⟩

end Project

end CallContext
