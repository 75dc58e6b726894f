import CallContext.Project.Basic
import CallContext.Proofs.Files.Spelling

/-!
# What a scan meets

`Project.Meets` says which files a scan meets from a directory, and along which names: it looks at
the entries of the directory, goes on in directories whose name is not excluded, and looks through
links if they are followed.

* `Project.meets_of_mem_scanDirectory` : a scan finds only files that it meets,
* `Project.mem_scanDirectory` : if links are not followed, it finds all of them,
* `Project.distinct_scanDirectory` : no two files that it finds have the same path.

What is known of the files of a project follows from the first of these, by induction on the way.
-/

namespace CallContext

open FileSystem

/-- The path along some names, from a directory. -/
def Path.descend (directory : Path) (names : List String) : Path :=
  names.foldl (fun path name => path.join ⟨name⟩) directory

namespace Path

theorem isAbsolute_descend {directory : Path} (h : directory.isAbsolute = true)
    (names : List String) : (directory.descend names).isAbsolute = true := by
  induction names generalizing directory with
  | nil => exact h
  | cons name rest ih => exact ih (isAbsolute_join h ⟨name⟩)

theorem components_descend {directory : Path} (h : directory.isAbsolute = true)
    {names : List String} (proper : Proper names) :
    (directory.descend names).components = directory.components ++ names.map .name := by
  induction names generalizing directory with
  | nil => simp [descend]
  | cons name rest ih =>
    obtain ⟨first, others⟩ := List.forall_mem_cons.1 proper
    have onward := ih (isAbsolute_join h ⟨name⟩) others
    rw [components_join h first, List.append_assoc] at onward
    exact onward

theorem descend_absolute {way names : List String} (hw : Proper way) (hn : Proper names) :
    (absolute way).descend names = absolute (way ++ names) := by
  induction names generalizing way with
  | nil => simp [descend]
  | cons name rest ih =>
    obtain ⟨first, others⟩ := List.forall_mem_cons.1 hn
    have joined := join_absolute hw (.singleton first) (List.cons_ne_nil name [])
    rw [joinTexts] at joined
    have onward := ih (hw.append (.singleton first)) others
    rw [← joined, List.append_assoc] at onward
    exact onward

end Path

namespace Project

variable {p : Project} {fs : FileSystem} {visit : Visit} {entries : Entries} {name : String}
  {names : List String} {f : Found}

/-! ### Files on the way -/

/-- A scan that looks at a name of a directory sees a file or directory, with the names on the way
to where that really is: the entry itself, or what its link leads to if links are followed. -/
inductive Shows (p : Project) (fs : FileSystem) (visit : Visit) (entries : Entries)
    (name : String) : List String → FileTree → Prop where
  | entry {tree : FileTree} (mem : (name, tree) ∈ entries) (solid : ∀ target, tree ≠ .link target) :
    Shows p fs visit entries name (visit.names ++ [name]) tree
  | link {target : Path} {real : List String} {tree : FileTree}
    (mem : (name, .link target) ∈ entries) (follows : p.scan.followLinks = true)
    (reached : fs.resolve (visit.path.join ⟨name⟩) = .ok (real, tree)) :
    Shows p fs visit entries name real tree

/-- A scan meets a file from a directory, at the end of some names. -/
inductive Meets (p : Project) (fs : FileSystem) :
    Visit → Entries → List String → Found → Prop where
  | file {visit : Visit} {entries : Entries} {name : String} {real : List String}
    {content : Content} (shown : p.Shows fs visit entries name real (.file content)) :
    Meets p fs visit entries [name] ⟨visit.path.join ⟨name⟩, content.size⟩
  | directory {visit : Visit} {entries inner : Entries} {name : String} {real rest : List String}
    {f : Found} (shown : p.Shows fs visit entries name real (.directory inner))
    (entered : p.excludes name = false)
    (inside : Meets p fs ⟨visit.path.join ⟨name⟩, real⟩ inner rest f) :
    Meets p fs visit entries (name :: rest) f

theorem Shows.exists_mem {real : List String} {tree : FileTree}
    (h : p.Shows fs visit entries name real tree) : ∃ tree', (name, tree') ∈ entries := by
  cases h with
  | entry mem => exact ⟨_, mem⟩
  | link mem => exact ⟨_, mem⟩

theorem Shows.wellNamed {real : List String} {inner : Entries}
    (h : p.Shows fs visit entries name real (.directory inner))
    (named : FileTree.areWellNamed entries = true) : FileTree.areWellNamed inner = true := by
  cases h with
  | entry mem =>
    have inside := (FileTree.of_mem_entries named mem).2.2
    rwa [FileTree.isWellNamed] at inside
  | link mem follows reached => exact wellNamed_of_resolve reached

/-- What is shown is where the path leads to. -/
theorem Shows.resolve_eq {real : List String} {tree : FileTree}
    (h : p.Shows fs visit entries name real tree) (rooted : visit.path.isAbsolute = true)
    (reached : fs.resolve visit.path = .ok (visit.names, .directory entries)) :
    fs.resolve (visit.path.join ⟨name⟩) = .ok (real, tree) ∧
      (p.scan.followLinks = false → real = visit.names ++ [name]) := by
  cases h with
  | entry mem solid => exact ⟨resolve_join rooted reached mem solid, fun _ => rfl⟩
  | link mem follows reached' => exact ⟨reached', fun unlinked => by simp [unlinked] at follows⟩

namespace Meets

/-- The first name is that of an entry. -/
theorem exists_cons (h : p.Meets fs visit entries names f) :
    ∃ name rest tree, names = name :: rest ∧ (name, tree) ∈ entries := by
  cases h with
  | file shown =>
    obtain ⟨tree, mem⟩ := shown.exists_mem
    exact ⟨_, _, tree, rfl, mem⟩
  | directory shown =>
    obtain ⟨tree, mem⟩ := shown.exists_mem
    exact ⟨_, _, tree, rfl, mem⟩

theorem path_eq (h : p.Meets fs visit entries names f) : f.path = visit.path.descend names := by
  induction h with
  | file => rfl
  | directory _ _ _ ih => exact ih

theorem proper (h : p.Meets fs visit entries names f)
    (named : FileTree.areWellNamed entries = true) : Proper names := by
  induction h with
  | file shown =>
    obtain ⟨tree, mem⟩ := shown.exists_mem
    exact .singleton (FileTree.of_mem_entries named mem).1
  | directory shown _ _ ih =>
    obtain ⟨tree, mem⟩ := shown.exists_mem
    exact .append (.singleton (FileTree.of_mem_entries named mem).1) (ih (shown.wellNamed named))

/-- The path of a file that is met leads to the file; without links, along the names on the way. -/
theorem resolve_eq (h : p.Meets fs visit entries names f) (rooted : visit.path.isAbsolute = true)
    (reached : fs.resolve visit.path = .ok (visit.names, .directory entries)) :
    ∃ real content, fs.resolve f.path = .ok (real, .file content) ∧ f.size = content.size ∧
      (p.scan.followLinks = false → real = visit.names ++ names) := by
  induction h with
  | file shown =>
    obtain ⟨leads, unlinked⟩ := shown.resolve_eq rooted reached
    exact ⟨_, _, leads, rfl, unlinked⟩
  | directory shown _ _ ih =>
    obtain ⟨leads, unlinked⟩ := shown.resolve_eq rooted reached
    obtain ⟨real, content, leads', size, unlinked'⟩ := ih (Path.isAbsolute_join rooted _) leads
    refine ⟨real, content, leads', size, fun off => ?_⟩
    rw [unlinked' off]
    simp [unlinked off]

/-- The scan enters the directories on the way. -/
theorem excludes_eq_false (h : p.Meets fs visit entries names f) :
    ∀ directory ∈ names.dropLast, p.excludes directory = false := by
  induction h with
  | file => exact nofun
  | @directory visit entries inner name real rest f shown entered inside ih =>
    obtain ⟨next, more, -, rfl, -⟩ := inside.exists_cons
    exact List.forall_mem_cons.2 ⟨entered, ih⟩

end Meets

/-! ### A scan finds what it meets -/

section Scan

variable {enter : List (List String) → Visit → Entries → List Found}

theorem meets_of_mem_scanLink
    (henter : ∀ inside visit entries, ∀ f ∈ enter inside visit entries,
      ∃ names, p.Meets fs visit entries names f)
    {inside : List (List String)} {target : Path} (mem : (name, .link target) ∈ entries)
    (hf : f ∈ p.scanLink fs enter inside (visit.path.join ⟨name⟩) name) :
    ∃ rest, p.Meets fs visit entries (name :: rest) f := by
  unfold scanLink at hf
  split at hf
  · next follows =>
    split at hf
    · next real content reached =>
      cases List.mem_singleton.1 hf
      exact ⟨[], .file (.link mem follows reached)⟩
    · next real inner reached =>
      split at hf
      · cases hf
      · next other =>
        obtain ⟨rest, met⟩ := henter _ _ _ f hf
        have entered : p.excludes name = false := by simp_all
        exact ⟨rest, .directory (.link mem follows reached) entered met⟩
    · cases hf
  · cases hf

mutual

theorem meets_of_mem_scanTree
    (henter : ∀ inside visit entries, ∀ f ∈ enter inside visit entries,
      ∃ names, p.Meets fs visit entries names f)
    (inside : List (List String)) {visit : Visit} {entries : Entries} {name : String} {f : Found} :
    ∀ tree : FileTree, (name, tree) ∈ entries →
      f ∈ p.scanTree fs enter inside (visit.path.join ⟨name⟩) (visit.names ++ [name]) name tree →
      ∃ rest, p.Meets fs visit entries (name :: rest) f
  | .file content, mem, hf => by
    rw [scanTree] at hf
    cases List.mem_singleton.1 hf
    exact ⟨[], .file (.entry mem (by simp))⟩
  | .directory inner, mem, hf => by
    rw [scanTree] at hf
    split at hf
    · cases hf
    · next other =>
      obtain ⟨rest, met⟩ := meets_of_mem_scanEntries henter _ inner (fun _ => id) hf
      exact ⟨rest, .directory (.entry mem (by simp)) (by simpa using other) met⟩
  | .link target, mem, hf => by
    rw [scanTree] at hf
    exact meets_of_mem_scanLink henter mem hf

theorem meets_of_mem_scanEntries
    (henter : ∀ inside visit entries, ∀ f ∈ enter inside visit entries,
      ∃ names, p.Meets fs visit entries names f)
    (inside : List (List String)) {visit : Visit} {all : Entries} {f : Found} :
    ∀ entries : Entries, entries ⊆ all → f ∈ p.scanEntries fs enter inside visit entries →
      ∃ names, p.Meets fs visit all names f
  | [], _, hf => by
    rw [scanEntries] at hf
    cases hf
  | (name, tree) :: more, subset, hf => by
    obtain ⟨mem, others⟩ := List.cons_subset.1 subset
    rw [scanEntries] at hf
    rcases List.mem_append.1 hf with here | later
    · obtain ⟨rest, met⟩ := meets_of_mem_scanTree henter inside tree mem here
      exact ⟨name :: rest, met⟩
    · exact meets_of_mem_scanEntries henter inside more others later

end

end Scan

/-- However many links are followed, a scan of a directory finds files that it meets. -/
theorem meets_of_mem_scanDirectory {links : Nat} {inside : List (List String)}
    (hf : f ∈ p.scanDirectory fs links inside visit entries) :
    ∃ names, p.Meets fs visit entries names f := by
  induction links generalizing inside visit entries f with
  | zero =>
    refine meets_of_mem_scanEntries (fun _ _ _ f hf => ?_) _ entries (fun _ => id) hf
    cases hf
  | succ links ih =>
    exact meets_of_mem_scanEntries (fun _ _ _ _ hf => ih hf) _ entries (fun _ => id) hf

/-! ### Without links it finds all of that -/

theorem mem_scanEntries {enter : List (List String) → Visit → Entries → List Found}
    {inside : List (List String)} :
    f ∈ p.scanEntries fs enter inside visit entries ↔ ∃ entry ∈ entries,
      f ∈ p.scanTree fs enter inside (visit.path.join ⟨entry.1⟩) (visit.names ++ [entry.1])
        entry.1 entry.2 := by
  induction entries with
  | nil => simp [scanEntries]
  | cons entry more ih =>
    simp only [scanEntries, List.mem_append, ih, List.mem_cons, exists_eq_or_imp]

theorem Meets.mem_scanEntries (unlinked : p.scan.followLinks = false)
    (h : p.Meets fs visit entries names f)
    (enter : List (List String) → Visit → Entries → List Found) (inside : List (List String)) :
    f ∈ p.scanEntries fs enter inside visit entries := by
  induction h generalizing inside with
  | @file visit entries name real content shown =>
    cases shown with
    | entry mem =>
      refine Project.mem_scanEntries.2 ⟨_, mem, ?_⟩
      rw [scanTree]
      exact List.mem_singleton_self _
    | link mem follows => simp [unlinked] at follows
  | directory shown entered met ih =>
    cases shown with
    | entry mem =>
      refine Project.mem_scanEntries.2 ⟨_, mem, ?_⟩
      rw [scanTree, if_neg (by simp [entered])]
      exact ih _
    | link mem follows => simp [unlinked] at follows

theorem mem_scanDirectory (unlinked : p.scan.followLinks = false) {links : Nat}
    {inside : List (List String)} :
    f ∈ p.scanDirectory fs links inside visit entries ↔
      ∃ names, p.Meets fs visit entries names f := by
  refine ⟨meets_of_mem_scanDirectory, fun ⟨names, met⟩ => ?_⟩
  cases links with
  | zero => exact met.mem_scanEntries unlinked _ _
  | succ links => exact met.mem_scanEntries unlinked _ _

/-! ### It finds no path twice -/

/-- The paths of some files have different components. -/
def AllDifferent (found : List Found) : Prop :=
  Distinct Path.compare (found.map (·.path))

theorem AllDifferent.single (f : Found) : AllDifferent [f] := List.pairwise_singleton _ _

theorem AllDifferent.append {found more : List Found} (h : AllDifferent found)
    (h' : AllDifferent more)
    (apart : ∀ f ∈ found, ∀ g ∈ more, f.path.components ≠ g.path.components) :
    AllDifferent (found ++ more) := by
  unfold AllDifferent
  rw [List.map_append]
  refine List.pairwise_append.2 ⟨h, h', fun a ha b hb => ?_⟩
  obtain ⟨f, hf, rfl⟩ := List.mem_map.1 ha
  obtain ⟨g, hg, rfl⟩ := List.mem_map.1 hb
  exact mt Path.compare_eq_iff.1 (apart f hf g hg)

/-- Files behind different names of a directory have different paths. -/
theorem Meets.components_ne {rest rest' : List String} {name' : String} {g : Found}
    {entries' : Entries} (h : p.Meets fs visit entries (name :: rest) f)
    (h' : p.Meets fs visit entries' (name' :: rest') g) (rooted : visit.path.isAbsolute = true)
    (named : FileTree.areWellNamed entries = true)
    (named' : FileTree.areWellNamed entries' = true) (other : name ≠ name') :
    f.path.components ≠ g.path.components := by
  rw [h.path_eq, h'.path_eq, Path.components_descend rooted (h.proper named),
    Path.components_descend rooted (h'.proper named')]
  simp [other]

section Scan

variable {enter : List (List String) → Visit → Entries → List Found}

/-- What is asked of the scan behind a link: it finds files that are met, and none twice. -/
structure Enters (p : Project) (fs : FileSystem)
    (enter : List (List String) → Visit → Entries → List Found) : Prop where
  meets : ∀ inside visit entries, ∀ f ∈ enter inside visit entries,
    ∃ names, p.Meets fs visit entries names f
  different : ∀ inside visit entries, visit.path.isAbsolute = true →
    FileTree.areWellNamed entries = true → AllDifferent (enter inside visit entries)

theorem Enters.different_scanLink (h : p.Enters fs enter) (inside : List (List String))
    {path : Path} (name : String) (rooted : path.isAbsolute = true) :
    AllDifferent (p.scanLink fs enter inside path name) := by
  unfold scanLink
  split
  · split
    · exact .single _
    · next real inner reached =>
      split
      · exact .nil
      · exact h.different _ _ _ rooted (wellNamed_of_resolve reached)
    · exact .nil
  · exact .nil

mutual

theorem Enters.different_scanTree (h : p.Enters fs enter) (inside : List (List String))
    {path : Path} (names : List String) (name : String) (rooted : path.isAbsolute = true) :
    ∀ tree : FileTree, tree.isWellNamed = true →
      AllDifferent (p.scanTree fs enter inside path names name tree)
  | .file content, _ => by
    rw [scanTree]
    exact .single _
  | .directory inner, named => by
    rw [scanTree]
    split
    · exact .nil
    · exact h.different_scanEntries _ ⟨path, names⟩ rooted inner named
  | .link target, _ => by
    rw [scanTree]
    exact h.different_scanLink _ _ rooted

theorem Enters.different_scanEntries (h : p.Enters fs enter) (inside : List (List String))
    (visit : Visit) (rooted : visit.path.isAbsolute = true) :
    ∀ entries : Entries, FileTree.areWellNamed entries = true →
      AllDifferent (p.scanEntries fs enter inside visit entries)
  | [], _ => by
    rw [scanEntries]
    exact .nil
  | (name, tree) :: more, named => by
    obtain ⟨-, other, inner, rest⟩ := FileTree.areWellNamed_cons.1 named
    rw [scanEntries]
    refine .append (h.different_scanTree _ _ _ (Path.isAbsolute_join rooted _) tree inner)
      (h.different_scanEntries _ visit rooted more rest) fun f hf g hg => ?_
    -- the ways to the two files part at this directory
    obtain ⟨behind, met⟩ := meets_of_mem_scanTree h.meets inside tree List.mem_cons_self hf
    obtain ⟨names, met'⟩ := meets_of_mem_scanEntries h.meets inside more (fun _ => id) hg
    obtain ⟨name', behind', tree', rfl, mem⟩ := met'.exists_cons
    exact met.components_ne met' rooted named rest (other _ mem).symm

end

end Scan

theorem enters_nothing : p.Enters fs fun _ _ _ => [] where
  meets _ _ _ f hf := by cases hf
  different _ _ _ _ _ := .nil

theorem enters_scanDirectory (links : Nat) : p.Enters fs (p.scanDirectory fs links) := by
  induction links with
  | zero =>
    exact ⟨fun _ _ _ _ => meets_of_mem_scanDirectory, fun _ visit entries rooted named =>
      enters_nothing.different_scanEntries _ visit rooted entries named⟩
  | succ links ih =>
    exact ⟨fun _ _ _ _ => meets_of_mem_scanDirectory, fun _ visit entries rooted named =>
      ih.different_scanEntries _ visit rooted entries named⟩

/-- A scan of a directory finds no path twice. -/
theorem distinct_scanDirectory (p : Project) (fs : FileSystem) (links : Nat)
    (inside : List (List String)) (visit : Visit) (rooted : visit.path.isAbsolute = true)
    (named : FileTree.areWellNamed entries = true) :
    Distinct Path.compare ((p.scanDirectory fs links inside visit entries).map (·.path)) :=
  (enters_scanDirectory links).different inside visit entries rooted named

end Project

end CallContext
