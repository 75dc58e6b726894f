import CallContext.Proofs.Project.Relocation

/-!
# References stay in the project

A reference can hold anything, and so can the path of the module it stands in: slashes, which lead
to any place in the file system, and dots, which lead upwards.  The search looks at the files as
they are written, and takes the dots away before it asks whether a file lies in the project.

* `FileSystem.resolve_normalize` : without links this does not change which file is meant,
  as two dots lead from a directory to the one before it on the way,
* `Project.confines_resolveModule` : what a reference means lies in the project, and without links
  it is the file that was looked at.
-/

namespace CallContext

/-! ### Dots on the way -/

namespace FileSystem

variable {fs : FileSystem} {chain : Chain}

theorem Grounded.solid (h : Grounded fs chain) (solid : FileTree.areSolid fs.entries = true) :
    FileTree.areSolid (chainEntries chain) = true := by
  induction h with
  | root => exact solid
  | enter _ _ found ih => exact FileTree.isSolid_of_mem ih (FileTree.mem_of_lookup found)

/-- The directory above is reached by one name less. -/
theorem Grounded.chainNames_leave (h : Grounded fs chain) :
    chainNames (FileSystem.leave chain) = (chainNames chain).dropLast := by
  cases h with
  | root => rfl
  | @enter chain name inner above proper found =>
    rw [above.chainNames_cons, List.dropLast_concat]
    match chain, above with
    | [], above => exact absurd rfl above.ne_nil
    | _ :: _, above => rfl

/-- The components of an absolute path along some names. -/
def along (names : List String) : List Component := .root :: names.map .name

/-- The components that are left of some parts behind a directory if dots are taken away. -/
def foldedParts (names parts : List String) : List Component :=
  ((parts.filter (!Path.isIdle ·)).map Path.component).foldl Path.foldComponent (along names)

theorem foldedParts_of_isIdle {part : String} (h : Path.isIdle part = true)
    (names rest : List String) : foldedParts names (part :: rest) = foldedParts names rest := by
  rw [foldedParts, List.filter_cons_of_neg (by simp [h]), foldedParts]

theorem foldedParts_parent (names rest : List String) :
    foldedParts names (".." :: rest) = foldedParts names.dropLast rest := by
  have up : Path.foldComponent ([.root] ++ names.map .name) .parent = along names.dropLast :=
    Path.foldComponent_parent (by simp) names
  rw [foldedParts, List.filter_cons_of_pos rfl, List.map_cons, List.foldl_cons]
  exact congrArg (List.foldl _ · _) up

theorem foldedParts_of_isName {name : String} (h : FileTree.isName name = true)
    (names rest : List String) :
    foldedParts names (name :: rest) = foldedParts (names ++ [name]) rest := by
  obtain ⟨busy, up, -⟩ := FileTree.isName_iff.1 h
  have next : Path.foldComponent (along names) (.name name) =
      along (names ++ [name]) := by
    simp [Path.foldComponent, along]
  rw [foldedParts, List.filter_cons_of_pos (by simp [busy]), List.map_cons, List.foldl_cons,
    show Path.component name = .name name from if_neg up, next, foldedParts]

/-- A step has arrived where the parts lead to if dots are taken away; it does not stand at a
link. -/
def Step.Folds (names parts : List String) : Step → Prop
  | .arrived names' _ => foldedParts names parts = along names'
  | .atLink .. => False
  | _ => True

/-- On a way without links, dots lead back to where they can be taken away. -/
theorem Grounded.folds_follow (h : Grounded fs chain)
    (solid : FileTree.areSolid fs.entries = true) {parts : List String}
    (slashless : Slashless parts) :
    (follow chain parts).Folds (chainNames chain) parts := by
  induction parts generalizing chain with
  | nil => exact rfl
  | cons part rest ih =>
    obtain ⟨first, others⟩ := List.forall_mem_cons.1 slashless
    -- what is left behind the part is left with it, if the part leads to the next chain
    have onward {chain' : Chain} (way : Grounded fs chain')
        (step : follow chain (part :: rest) = follow chain' rest)
        (left : foldedParts (chainNames chain) (part :: rest) =
          foldedParts (chainNames chain') rest) :
        (follow chain (part :: rest)).Folds (chainNames chain) (part :: rest) := by
      have folds := ih way others
      rw [step]
      simp only [Step.Folds, left] at folds ⊢
      exact folds
    by_cases idle : Path.isIdle part = true
    · exact onward h (follow_cons_of_isIdle idle chain rest) (foldedParts_of_isIdle idle _ rest)
    · by_cases up : part = ".."
      · -- above the root there is nothing: there both the way and the components stay
        subst up
        refine onward h.leave (by rw [follow, if_neg idle, if_pos rfl]) ?_
        rw [foldedParts_parent, h.chainNames_leave]
      · have proper : FileTree.isName part = true :=
          FileTree.isName_iff.2 ⟨by simpa using idle, up, first⟩
        have left := foldedParts_of_isName proper (chainNames chain) rest
        cases found : (chainEntries chain).lookup part with
        | none =>
          rw [follow_cons_of_isName proper, found]
          trivial
        | some tree =>
          have inside := FileTree.isSolid_of_mem (h.solid solid) (FileTree.mem_of_lookup found)
          cases tree with
          | directory inner =>
            refine onward (h.enter proper found) (follow_directory proper found rest) ?_
            rw [left, h.chainNames_cons]
          | link target => cases inside
          | file content =>
            rw [follow_cons_of_isName proper, found]
            dsimp only
            split
            · next last =>
              rw [List.isEmpty_iff.1 last] at left ⊢
              exact left
            · trivial

theorem foldedParts_parts {p : Path} (h : p.isAbsolute = true) :
    foldedParts [] p.parts = p.components.foldl Path.foldComponent [] := by
  obtain ⟨first, more, split⟩ := List.exists_cons_of_ne_nil p.parts_ne_nil
  have begins := Path.components_of_isAbsolute h
  have empty : first = "" := by
    obtain ⟨rest, text⟩ := Path.text_of_isAbsolute h
    rw [Path.parts, text, splitParts, if_pos rfl] at split
    exact (List.cons.inj split).1.symm
  rw [begins, split, empty, foldedParts_of_isIdle rfl]
  rfl

/-- Without links, the names on the way along an absolute path are those that are left if the dots
in it are taken away. -/
theorem normalize_of_resolve (solid : FileTree.areSolid fs.entries = true) {p : Path}
    (rooted : p.isAbsolute = true) {names : List String} {tree : FileTree}
    (h : fs.resolve p = .ok (names, tree)) : p.normalize = absolute names := by
  have folds := Grounded.root.folds_follow solid (slashless_parts p)
  have unlinked (directory : Chain) (target : Path) (rest : List String) :
      follow fs.rootChain p.parts ≠ .atLink directory target rest := by
    intro link
    rw [link] at folds
    exact folds
  have arrived := reach_of_resolve h
  rw [reach_of_isAbsolute rooted, followLinks_of_not_atLink unlinked] at arrived
  rw [Except.ok.inj arrived] at folds
  have components : p.components.foldl Path.foldComponent [] = along names :=
    (foldedParts_parts rooted).symm.trans folds
  rw [Path.normalize, components]
  exact Path.ofComponents_root names

/-- Without links, an absolute path leads to the same if the dots in it are taken away. -/
theorem resolve_normalize (solid : FileTree.areSolid fs.entries = true) {p : Path}
    (rooted : p.isAbsolute = true) {names : List String} {tree : FileTree}
    (h : fs.resolve p = .ok (names, tree)) : fs.resolve p.normalize = .ok (names, tree) := by
  rw [normalize_of_resolve solid rooted h]
  exact resolve_absolute (stands_of_resolve h)

end FileSystem

/-! ### What is looked at -/

namespace Project

variable {p : Project} {fs : FileSystem} {reference : String} {level : Nat} {importer file : Path}

/-- The paths that are looked at for a reference in a module, one after the other. -/
def probes (p : Project) (reference : String) (level : Nat) (importer : Path) : List Path :=
  let relative := modulePath reference
  if 0 < level then (climb level importer).toList.flatMap (candidates · relative)
  else if relative.text = "" then []
  else (p.root :: importer.parent?.toList).flatMap (candidates · relative)

/-- A path that is looked at is taken: a file is there, and lies in the project as it is written
without dots. -/
def takes (p : Project) (fs : FileSystem) (candidate : Path) : Bool :=
  fs.isFile candidate && p.contains candidate.normalize

theorem map_find?_candidates (bases : List Path) (relative : Path) :
    ((bases.flatMap (candidates · relative)).find? (p.takes fs)).map Path.normalize =
      bases.findSome? (p.probe fs · relative) := by
  rw [List.find?_flatMap, List.map_findSome?]
  rfl

/-- A reference means the first path that is taken, without its dots. -/
theorem resolveModule_eq_map_find? :
    p.resolveModule fs reference level importer =
      ((p.probes reference level importer).find? (p.takes fs)).map Path.normalize := by
  unfold resolveModule probes
  dsimp only
  split
  · rw [map_find?_candidates]
    cases climb level importer <;> simp
  · split
    · rfl
    · rw [map_find?_candidates, List.findSome?_cons]
      cases p.probe fs p.root (modulePath reference) <;> cases importer.parent? <;> simp

/-! ### Containment -/

/-- The path lies in the project, and no dots in it lead out again. -/
structure Confines (p : Project) (file : Path) : Prop where
  isAbsolute : file.isAbsolute = true
  current_not_mem : .current ∉ file.components
  parent_not_mem : .parent ∉ file.components
  root_prefix : p.root.components <+: file.components

theorem isAbsolute_of_contains (h : p.contains file = true) : file.isAbsolute = true := by
  obtain ⟨rest, split⟩ := List.isPrefixOf_iff_prefix.1 h
  rw [Path.isAbsolute_eq, ← split, Path.components_of_isAbsolute p.isAbsolute_root]
  simp

/-- A path without dots is confined if it is in the project. -/
theorem confines_normalize {path : Path} (h : p.contains path.normalize = true) :
    p.Confines path.normalize := by
  have absolute := isAbsolute_of_contains h
  obtain ⟨names, proper, normal⟩ :=
    Path.normalize_of_isAbsolute (path.isAbsolute_normalize ▸ absolute)
  have components : path.normalize.components = .root :: names.map .name := by
    rw [normal, FileSystem.components_absolute proper]
  exact ⟨absolute, by simp [components], by simp [components], List.isPrefixOf_iff_prefix.1 h⟩

/-- What is looked at and taken lies in the project without its dots, and without links it is the
same file. -/
theorem confines_of_takes {candidate : Path} (h : p.takes fs candidate = true) :
    p.Confines candidate.normalize ∧ (FileTree.areSolid fs.entries = true →
      fs.isFile candidate.normalize = true ∧
        fs.resolve candidate.normalize = fs.resolve candidate) := by
  obtain ⟨there, inside⟩ := Bool.and_eq_true_iff.1 h
  have confined := confines_normalize inside
  refine ⟨confined, fun solid => ?_⟩
  -- a relative path stays relative without its dots, so it is not in the project
  have rooted : candidate.isAbsolute = true := by
    rw [← candidate.isAbsolute_normalize]
    exact confined.isAbsolute
  unfold FileSystem.isFile at there
  split at there
  · next names content reached =>
    have same := FileSystem.resolve_normalize solid rooted reached
    exact ⟨by rw [FileSystem.isFile, same], same.trans reached.symm⟩
  · cases there

/-- What a reference means lies in the project: it is a path that was looked at, without its dots.
If there are no links, the path that was looked at leads to the same file. -/
theorem confines_resolveModule (h : p.resolveModule fs reference level importer = some file) :
    p.Confines file ∧ ∃ candidate,
      (p.probes reference level importer).find? (p.takes fs) = some candidate ∧
        file = candidate.normalize ∧ (FileTree.areSolid fs.entries = true →
          fs.isFile file = true ∧ fs.resolve file = fs.resolve candidate) := by
  rw [resolveModule_eq_map_find?] at h
  obtain ⟨candidate, found, rfl⟩ := Option.map_eq_some_iff.1 h
  obtain ⟨confined, same⟩ := confines_of_takes (List.find?_some found)
  exact ⟨confined, candidate, found, rfl, same⟩

/-- A slash leads out of the project, but not to a file that is meant. -/
example :
    (ofNames ["p", "k"]).resolveModule sameNames "/p/k/b" 0 ⟨""⟩ = some ⟨"/p/k/b.py"⟩ ∧
      sameNames.isFile ⟨"/p/b/__init__.py"⟩ = true ∧
      (ofNames ["p", "k"]).resolveModule sameNames "/p/b" 0 ⟨""⟩ = none := by
  decide +kernel

/-- The module lies behind dots, and so does the file that is looked at. -/
theorem confines_resolveModule_sameNames : ∃ p, p = ofNames ["p"] ∧
    FileTree.areSolid sameNames.entries = true ∧
    p.resolveModule sameNames ".b" 1 ⟨"/p/b/../../../p/./k/a.py"⟩ = some ⟨"/p/k/b.py"⟩ ∧
    (p.probes ".b" 1 ⟨"/p/b/../../../p/./k/a.py"⟩).find? (p.takes sameNames) =
      some ⟨"/p/b/../../../p/k/b.py"⟩ ∧
    p.Confines ⟨"/p/k/b.py"⟩ ∧
    sameNames.resolve ⟨"/p/k/b.py"⟩ = sameNames.resolve ⟨"/p/b/../../../p/k/b.py"⟩ := by
  have meant : (ofNames ["p"]).resolveModule sameNames ".b" 1 ⟨"/p/b/../../../p/./k/a.py"⟩ =
      some ⟨"/p/k/b.py"⟩ := by
    decide +kernel
  have looked : ((ofNames ["p"]).probes ".b" 1 ⟨"/p/b/../../../p/./k/a.py"⟩).find?
      ((ofNames ["p"]).takes sameNames) = some ⟨"/p/b/../../../p/k/b.py"⟩ := by
    decide +kernel
  have solid : FileTree.areSolid sameNames.entries = true := rfl
  obtain ⟨confined, candidate, found, -, same⟩ := confines_resolveModule meant
  obtain rfl := Option.some.inj (looked.symm.trans found)
  exact ⟨_, rfl, solid, meant, looked, confined, (same solid).2⟩

end Project

end CallContext
