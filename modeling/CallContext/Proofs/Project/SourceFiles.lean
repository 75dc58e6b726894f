import CallContext.Proofs.Project.Scan

/-!
# Source files

The source files are the files that a scan of the root finds and the settings accept
(`Project.exists_mem_scan`).  A scan starts at the root of the project, which is an absolute path,
and only ever adds names to paths: so all source files have absolute paths
(`Project.isAbsolute_of_mem_sourceFiles`), and no two of them the same
(`Project.increasing_sourceFiles`).  The paths of different source files stay different when they
are taken from the root of the project (`Project.eq_of_components_relativePath`).
-/

namespace CallContext

namespace Project

variable {p : Project} {fs : FileSystem} {path path' : Path}

/-! ### Files of the scan -/

theorem sourceFiles_of_resolve {names : List String} {entries : Entries}
    (h : fs.resolve p.root = .ok (names, .directory entries)) :
    p.sourceFiles fs = sortStable Path.compare
      (((p.scanDirectory fs 40 [] ⟨p.root, names⟩ entries).filter p.accepts).map (·.path)) := by
  rw [sourceFiles, h]

/-- A source file was found by the scan of the root, and was accepted. -/
theorem exists_mem_scan (h : path ∈ p.sourceFiles fs) :
    ∃ real entries f, fs.resolve p.root = .ok (real, .directory entries) ∧
      f ∈ p.scanDirectory fs 40 [] ⟨p.root, real⟩ entries ∧ p.accepts f = true ∧ f.path = path := by
  unfold sourceFiles at h
  split at h
  · next real entries reached =>
    obtain ⟨f, hf, rfl⟩ := List.mem_map.1 (mem_sortStable.1 h)
    obtain ⟨found, accepted⟩ := List.mem_filter.1 hf
    exact ⟨real, entries, f, reached, found, accepted, rfl⟩
  · cases h

theorem isAbsolute_of_mem_sourceFiles (h : path ∈ p.sourceFiles fs) : path.isAbsolute = true := by
  obtain ⟨real, entries, f, -, found, -, rfl⟩ := exists_mem_scan h
  obtain ⟨names, met⟩ := meets_of_mem_scanDirectory found
  rw [met.path_eq]
  exact Path.isAbsolute_descend p.isAbsolute_root names

/-! ### Different files -/

theorem increasing_sourceFiles : Increasing Path.compare (p.sourceFiles fs) := by
  unfold sourceFiles
  split
  · next real entries reached =>
    have all := distinct_scanDirectory p fs 40 [] ⟨p.root, real⟩ p.isAbsolute_root
      (FileSystem.wellNamed_of_resolve reached)
    exact increasing_sortStable (all.sublist (List.filter_sublist.map _))
  · exact .nil

/-- A path taken from the root tells which path it was: it has no root of its own exactly if the
root of the project was taken off. -/
theorem components_eq_of_relativePath (h : path.isAbsolute = true) (h' : path'.isAbsolute = true)
    (same : (p.relativePath path).components = (p.relativePath path').components) :
    path.components = path'.components := by
  have rooted {path : Path} (h : path.isAbsolute = true) : .root ∈ path.components := by
    rw [Path.components_of_isAbsolute h]
    exact List.mem_cons_self
  unfold relativePath at same
  match stripped : path.stripDirectory? p.root, stripped' : path'.stripDirectory? p.root with
  | some rest, some rest' =>
    rw [stripped, stripped', Option.getD_some, Option.getD_some] at same
    rw [(Path.components_of_stripDirectory? h p.isAbsolute_root stripped).1,
      (Path.components_of_stripDirectory? h' p.isAbsolute_root stripped').1, same]
  | some rest, none =>
    rw [stripped, stripped', Option.getD_some, Option.getD_none] at same
    have rootless := (Path.components_of_stripDirectory? h p.isAbsolute_root stripped).2
    rw [same] at rootless
    exact absurd (rooted h') rootless
  | none, some rest' =>
    rw [stripped, stripped', Option.getD_some, Option.getD_none] at same
    have rootless := (Path.components_of_stripDirectory? h' p.isAbsolute_root stripped').2
    rw [← same] at rootless
    exact absurd (rooted h) rootless
  | none, none =>
    rwa [stripped, stripped', Option.getD_none, Option.getD_none] at same

/-- Source files with the same path from the root of the project are the same. -/
theorem eq_of_components_relativePath (h : path ∈ p.sourceFiles fs) (h' : path' ∈ p.sourceFiles fs)
    (same : (p.relativePath path).components = (p.relativePath path').components) :
    path = path' := by
  refine increasing_sourceFiles.distinct.eq_of_mem h h' (Path.compare_eq_iff.2 ?_)
  exact components_eq_of_relativePath (isAbsolute_of_mem_sourceFiles h)
    (isAbsolute_of_mem_sourceFiles h') same

end Project

end CallContext
