import CallContext.Proofs.Project.SourceFiles

/-!
# Where the files of a project are

`Project.locate` gives a path without dots and links, or the path as it was; either way, asking
again changes nothing (`Project.locate_locate`).  What a scan meets stands below the root, at the
end of the names on the way (`Project.Meets.place`).  Taken from the root and located again, the
path of a source file leads to the same file (`Project.canonicalize_sourceFile`), and it is the same
path if links are not followed (`Project.locate_relativePath`).
-/

namespace CallContext

namespace Project

open FileSystem

variable {p : Project} {fs : FileSystem} {path : Path}

/-! ### Locating twice -/

theorem locate_of_canonicalize (h : fs.canonicalize path = .ok path) : p.locate fs path = path := by
  unfold locate
  simp only [if_pos (isAbsolute_of_canonicalize h), h]

theorem exists_canonicalize (h : fs.exists? path = true) : ∃ q, fs.canonicalize path = .ok q := by
  rw [exists?] at h
  rw [canonicalize]
  cases found : fs.resolve path with
  | ok reached => exact ⟨_, rfl⟩
  | error e => simp [found] at h

/-- A located path has no dots and links, or it is the path that was asked for. -/
theorem locate_cases (p : Project) (fs : FileSystem) (path : Path) :
    fs.canonicalize (p.locate fs path) = .ok (p.locate fs path) ∨ p.locate fs path = path := by
  unfold locate
  dsimp only
  split
  · next canonical => exact .inl (canonicalize_of_canonicalize canonical)
  · next failed =>
    refine .inr ?_
    by_cases rooted : path.isAbsolute = true
    · rw [if_pos rooted]
    · rw [if_neg rooted] at failed ⊢
      -- a path that exists below the root would not have failed
      by_cases inside : fs.exists? (p.root.join path) = true
      · obtain ⟨q, found⟩ := exists_canonicalize inside
        rw [if_pos inside, found] at failed
        cases failed
      · rw [if_neg inside]

theorem locate_locate (p : Project) (fs : FileSystem) (path : Path) :
    p.locate fs (p.locate fs path) = p.locate fs path := by
  rcases locate_cases p fs path with canonical | same
  · exact locate_of_canonicalize canonical
  · rw [same, same]

/-! ### The root -/

/-- The root of a project is a directory of the file system that it was loaded from. -/
theorem load_eq_ok {root : Path} {scan : ScanSettings} (h : load fs root scan = .ok p) :
    p.scan = scan ∧ ∃ names entries, p.root = absolute names ∧
      fs.resolve p.root = .ok (names, .directory entries) := by
  unfold load at h
  split at h
  · cases h
  · next path canonical =>
    split at h
    · next isDirectory =>
      cases h
      obtain ⟨names, tree, found, rfl⟩ := canonicalize_eq_ok.1 canonical
      have again := resolve_absolute (stands_of_resolve found)
      rw [FileSystem.isDirectory, again] at isDirectory
      cases tree with
      | directory entries => exact ⟨rfl, names, entries, rfl, again⟩
      | file _ => cases isDirectory
      | link _ => cases isDirectory
    · cases h

/-! ### What a scan finds -/

/-- The names are proper ones, the path along them is `path`, and it leads to a file or directory
at the end of the names `real`; without links these are the same names. -/
structure At (p : Project) (fs : FileSystem) (way : List String) (path : Path)
    (real : List String) (tree : FileTree) : Prop where
  proper : Proper way
  path_eq : path = absolute way
  resolve_eq : fs.resolve path = .ok (real, tree)
  real_eq : p.scan.followLinks = false → real = way

/-- A file that a scan meets is where the names on the way stand behind the directory. -/
theorem Meets.place {visit : Visit} {entries : Entries} {names way : List String} {f : Found}
    (h : p.Meets fs visit entries names f)
    (start : p.At fs way visit.path visit.names (.directory entries)) :
    ∃ real content, p.At fs (way ++ names) f.path real (.file content) ∧ f.size = content.size := by
  have rooted : visit.path.isAbsolute = true := start.path_eq ▸ isAbsolute_absolute way
  obtain ⟨real, content, leads, size, unlinked⟩ := h.resolve_eq rooted start.resolve_eq
  have named := h.proper (wellNamed_of_resolve start.resolve_eq)
  refine ⟨real, content, ⟨start.proper.append named, ?_, leads, fun off => ?_⟩, size⟩
  · rw [h.path_eq, start.path_eq, Path.descend_absolute start.proper named]
  · rw [unlinked off, start.real_eq off]

/-! ### Source files -/

/-- A source file was found by the scan of the root, and was not too large for it. -/
theorem found_of_mem_sourceFiles {root : Path} {scan : ScanSettings}
    (loaded : load fs root scan = .ok p) (h : path ∈ p.sourceFiles fs) :
    ∃ way entries names real content, p.root = absolute way ∧
      fs.resolve p.root = .ok (way, .directory entries) ∧
      p.At fs (way ++ names) path real (.file content) ∧
      content.size ≤ p.scan.effectiveMaxFileBytes := by
  obtain ⟨-, way, entries, hroot, reached⟩ := load_eq_ok loaded
  obtain ⟨real, inner, f, reached', found, accepted, rfl⟩ := exists_mem_scan h
  cases reached.symm.trans reached'
  obtain ⟨names, met⟩ := meets_of_mem_scanDirectory found
  obtain ⟨real, content, place, size⟩ :=
    met.place ⟨(stands_of_resolve reached).proper, hroot, reached, fun _ => rfl⟩
  have small := (Bool.and_eq_true_iff.1 accepted).2
  rw [decide_eq_true_eq, size] at small
  exact ⟨way, entries, names, real, content, hroot, reached, place, small⟩

/-- A source file lies below the root of the project that was loaded. -/
theorem at_of_mem_sourceFiles {root : Path} {scan : ScanSettings}
    (loaded : load fs root scan = .ok p) (h : path ∈ p.sourceFiles fs) :
    ∃ way names real content, p.root = absolute way ∧ Proper way ∧ Proper names ∧ names ≠ [] ∧
      p.At fs (way ++ names) path real (.file content) := by
  obtain ⟨way, entries, names, real, content, hroot, reached, place, -⟩ :=
    found_of_mem_sourceFiles loaded h
  refine ⟨way, names, real, content, hroot, (stands_of_resolve reached).proper, ?_, ?_, place⟩
  · exact fun name hn => place.proper name (List.mem_append_right _ hn)
  · -- the root is a directory, and the file is none
    rintro rfl
    have := place.resolve_eq
    rw [place.path_eq, List.append_nil, ← hroot, reached] at this
    cases this

theorem relativePath_absolute {way names : List String} (hroot : p.root = absolute way)
    (hw : Proper way) (hn : Proper names) (ne : names ≠ []) :
    p.relativePath (absolute (way ++ names)) = ⟨joinTexts "/" names⟩ := by
  rw [relativePath, hroot, stripDirectory?_absolute hw hn ne, Option.getD_some]

/-- The path of a source file from the root of the project leads to the source file. -/
theorem canonicalize_sourceFile {root : Path} {scan : ScanSettings}
    (loaded : load fs root scan = .ok p) (h : path ∈ p.sourceFiles fs) :
    fs.canonicalize path = .ok (p.locate fs (p.relativePath path)) := by
  obtain ⟨way, names, real, content, hroot, hw, hn, ne, -, rfl, reached, -⟩ :=
    at_of_mem_sourceFiles loaded h
  have joined : p.root.join ⟨joinTexts "/" names⟩ = absolute (way ++ names) := by
    rw [hroot, join_absolute hw hn ne]
  have there : fs.exists? (absolute (way ++ names)) = true := by rw [exists?, reached]
  have canonical := canonicalize_of_resolve reached
  have relative : ¬ Path.isAbsolute ⟨joinTexts "/" names⟩ = true := by
    simp [isAbsolute_joinTexts hn]
  rw [relativePath_absolute hroot hw hn ne]
  unfold locate
  simp only [joined, if_pos there, if_neg relative, canonical]

/-- If links are not followed, it is the path of the source file again. -/
theorem locate_relativePath {root : Path} {scan : ScanSettings} (loaded : load fs root scan = .ok p)
    (unlinked : p.scan.followLinks = false) (h : path ∈ p.sourceFiles fs) :
    p.locate fs (p.relativePath path) = path := by
  obtain ⟨way, names, real, content, -, -, -, -, place⟩ := at_of_mem_sourceFiles loaded h
  have canonical := canonicalize_of_resolve place.resolve_eq
  rw [place.real_eq unlinked, ← place.path_eq] at canonical
  exact Except.ok.inj ((canonicalize_sourceFile loaded h).symm.trans canonical)

end Project

end CallContext
