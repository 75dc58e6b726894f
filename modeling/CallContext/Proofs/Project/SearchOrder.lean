import CallContext.Proofs.Files.Identifier
import CallContext.Proofs.Files.Spelling
import CallContext.Proofs.Project.Location
import Mathlib.Data.List.Find
import Mathlib.Data.List.Induction

/-!
# The search order of modules

A reference is written as some dots and identifiers with dots between them.  It is looked up from
some directories in turn (`Project.bases`), and from each of them it can mean a module or a package
(`Project.moduleFiles`).

* `Project.resolveModule_eq_find?` : a reference means the first of these files that is there and
  lies in the project.

Everything is said in terms of the names on the way to a file.  The functions on paths that the
search is made of do the same to names: `Path.climb_eq`, `Project.candidates_eq`.
-/

namespace CallContext

/-- The name that a component is. -/
def Component.name? : Component → Option String
  | .name s => some s
  | _ => none

namespace Path

open FileSystem (absolute Proper components_absolute)

/-! ### Names of a path -/

/-- The names on the way along a path. -/
def names (p : Path) : List String := p.components.filterMap Component.name?

theorem filterMap_name? (names : List String) :
    (names.map Component.name).filterMap Component.name? = names := by
  induction names with
  | nil => rfl
  | cons s ss ih => simpa [Component.name?] using ih

theorem names_of_components {p : Path} {names : List String}
    (h : p.components = .root :: names.map .name) : p.names = names := by
  rw [Path.names, h]
  exact filterMap_name? names

theorem names_absolute {names : List String} (h : Proper names) : (absolute names).names = names :=
  names_of_components (components_absolute h)

/-- An absolute path without two dots consists of names. -/
theorem components_of_straight {p : Path} (rooted : p.isAbsolute = true)
    (straight : .parent ∉ p.components) :
    Proper p.names ∧ p.components = .root :: p.names.map .name := by
  have split := components_of_isAbsolute rooted
  have named : ∀ part ∈ p.parts.tail.filter (!isIdle ·), component part = .name part := by
    intro part hp
    refine if_neg fun up => straight ?_
    have mem : component part ∈ p.components := by
      rw [split]
      exact List.mem_cons_of_mem _ (List.mem_map_of_mem hp)
    rwa [up] at mem
  rw [List.map_congr_left named] at split
  have same := names_of_components split
  refine ⟨fun s hs => isName_of_mem_components (p := p) ?_, by rw [same, split]⟩
  rw [split]
  rw [same] at hs
  exact List.mem_cons_of_mem _ (List.mem_map_of_mem hs)

/-! ### Directories above a path -/

theorem parent?_eq {p : Path} {names : List String} (h : p.components = .root :: names.map .name) :
    p.parent? = if names = [] then none else some (absolute names.dropLast) := by
  by_cases none : names = []
  · simp [parent?, h, none]
  · obtain ⟨before, last, rfl⟩ : ∃ before last, names = before ++ [last] :=
      ⟨_, _, (List.dropLast_concat_getLast none).symm⟩
    have ends : p.components = (.root :: before.map .name) ++ [.name last] := by simp [h]
    rw [parent?, ends, List.getLast?_concat, List.dropLast_concat, ofComponents_root,
      List.dropLast_concat, if_neg none]

/-- The names on the way to the directory so many steps above the end of some names. -/
def up? (steps : Nat) (names : List String) : Option (List String) :=
  if steps ≤ names.length then some (names.take (names.length - steps)) else none

/-- Going up takes as many names away, and fails where there are not so many. -/
theorem climb_eq {p : Path} {names : List String} (proper : Proper names)
    (h : p.components = .root :: names.map .name) (steps : Nat) :
    Project.climb (steps + 1) p = (up? (steps + 1) names).map absolute := by
  induction steps generalizing p names with
  | zero =>
    rw [Project.climb, parent?_eq h, up?]
    by_cases none : names = []
    · simp [none]
    · have := List.length_pos_iff.2 none
      simp [none, Project.climb, List.dropLast_eq_take, Nat.succ_le_of_lt this]
  | succ steps ih =>
    rw [Project.climb, parent?_eq h, up?]
    by_cases none : names = []
    · simp [none]
    · have shorter : Proper names.dropLast := fun s hs => proper s (List.dropLast_subset names hs)
      have := List.length_pos_iff.2 none
      rw [if_neg none, Option.bind_some, ih shorter (components_absolute shorter), up?,
        List.length_dropLast, List.dropLast_eq_take, List.take_take]
      by_cases far : steps + 1 + 1 ≤ names.length
      · rw [if_pos far, if_pos (by omega)]
        congr 3
        omega
      · rw [if_neg far, if_neg (by omega)]

/-! ### Paths that are normal already -/

theorem foldl_foldComponent_name (front : List Component) (names : List String) :
    (names.map .name).foldl foldComponent front = front ++ names.map .name := by
  induction names generalizing front with
  | nil => simp
  | cons s ss ih => simp [foldComponent, ih]

theorem normalize_absolute {names : List String} (h : Proper names) :
    (absolute names).normalize = absolute names := by
  rw [normalize, components_absolute h, List.foldl_cons, foldl_foldComponent_name]
  exact ofComponents_root names

end Path

namespace Project

open FileSystem (absolute Proper isAbsolute_name join_absolute components_absolute)

/-! ### References -/

/-- A reference as it is written: dots, then segments with dots between them. -/
def reference (dots : Nat) (segments : List String) : String :=
  String.ofList (List.replicate dots '.') ++ joinTexts "." segments

/-- The segments of a reference, however it is written: what stands between its dots. -/
def segmentsOf (reference : String) : List String :=
  ((splitParts '.' reference.toList).filter (!·.isEmpty)).map String.ofList

variable {segments base : List String}

theorem proper_of_stems (stems : ∀ s ∈ segments, FileTree.isStem s = true) : Proper segments :=
  fun s hs => FileTree.isName_of_isStem (stems s hs)

theorem stems_of_words (words : ∀ s ∈ segments, Identifier.isWord s = true) :
    ∀ s ∈ segments, FileTree.isStem s = true :=
  fun s hs => Identifier.isStem_of_isWord (words s hs)

/-- The segments of a reference without slashes can be names of files and directories. -/
theorem stems_segmentsOf {reference : String} (slashless : '/' ∉ reference.toList) :
    ∀ s ∈ segmentsOf reference, FileTree.isStem s = true := by
  intro s hs
  obtain ⟨part, hp, rfl⟩ := List.mem_map.1 hs
  obtain ⟨found, some⟩ := List.mem_filter.1 hp
  refine FileTree.isStem_iff.2 ⟨by simpa using some, ?_, ?_⟩
  · rw [String.toList_ofList]
    exact fun slash => slashless (subset_of_mem_splitParts found slash)
  · rw [String.toList_ofList]
    exact not_mem_of_mem_splitParts found

theorem segmentsOf_append (reference name : String) :
    segmentsOf (reference ++ "." ++ name) = segmentsOf reference ++ segmentsOf name := by
  have dot : (reference ++ "." ++ name).toList = reference.toList ++ '.' :: name.toList := by simp
  rw [segmentsOf, dot, splitParts_append_mark, List.filter_append, List.map_append]
  rfl

theorem segmentsOf_joinTexts (stems : ∀ s ∈ segments, FileTree.isStem s = true) :
    segmentsOf (joinTexts "." segments) = segments := by
  by_cases none : segments = []
  · rw [none]
    rfl
  · have found := splitParts_joinTexts (show ".".toList = ['.'] from rfl) none
      fun s hs => FileTree.dot_not_mem (stems s hs)
    have split : splitParts '.' (joinTexts "." segments).toList = segments.map String.toList := by
      simpa using congrArg (List.map String.toList) found
    rw [segmentsOf, split, List.filter_eq_self.2]
    · simp
    · intro part hp
      obtain ⟨s, hs, rfl⟩ := List.mem_map.1 hp
      simpa using FileTree.ne_empty_of_isStem (stems s hs)

/-- The dots at the beginning do not count. -/
theorem segmentsOf_reference (stems : ∀ s ∈ segments, FileTree.isStem s = true) (dots : Nat) :
    segmentsOf (reference dots segments) = segments := by
  induction dots with
  | zero => simpa [reference] using segmentsOf_joinTexts stems
  | succ dots ih =>
    have first : reference (dots + 1) segments = "" ++ "." ++ reference dots segments := by
      rw [reference, reference, List.replicate_succ, ← String.toList_inj]
      simp
    rw [first, segmentsOf_append, ih]
    rfl

theorem joinTexts_ne_empty {names : List String} (h : Proper names) (ne : names ≠ []) :
    joinTexts "/" names ≠ "" := by
  intro empty
  have none := Path.components_eq_nil.2 (show (Path.mk (joinTexts "/" names)).text = "" from empty)
  rw [Path.components_relative h] at none
  exact ne (List.map_eq_nil_iff.1 none)

theorem join_relative {front : List String} {name : String} (hf : Proper front)
    (hn : FileTree.isName name = true) :
    Path.join ⟨joinTexts "/" front⟩ ⟨name⟩ = ⟨joinTexts "/" (front ++ [name])⟩ := by
  rw [Path.join, if_neg (by simp [isAbsolute_name hn])]
  by_cases none : front = []
  · simp [none, joinTexts]
  · have written := joinTexts_ne_empty hf none
    have ends : (joinTexts "/" front).toList.getLast? ≠ some '/' := fun slash =>
      FileSystem.getLast?_absolute hf none (by simp [absolute, List.getLast?_cons, slash])
    rw [if_neg (by simp [written, ends]), joinTexts_append "/" none (List.cons_ne_nil name [])]
    rfl

/-- Segments are put one behind the other. -/
theorem foldl_join {front : List String} (hf : Proper front) (hs : Proper segments) :
    (segments.map String.toList).foldl
        (fun path part => Path.join path ⟨String.ofList part⟩) ⟨joinTexts "/" front⟩ =
      ⟨joinTexts "/" (front ++ segments)⟩ := by
  induction segments generalizing front with
  | nil => simp
  | cons s ss ih =>
    obtain ⟨first, rest⟩ := List.forall_mem_cons.1 hs
    rw [List.map_cons, List.foldl_cons, String.ofList_toList, join_relative hf first,
      ih (hf.append (.singleton first)) rest, List.append_assoc, List.singleton_append]

theorem filter_splitParts_dropWhile (cs : List Char) :
    (splitParts '.' (cs.dropWhile (· = '.'))).filter (!·.isEmpty) =
      (splitParts '.' cs).filter (!·.isEmpty) := by
  induction cs with
  | nil => rfl
  | cons c cs ih =>
    by_cases dot : c = '.'
    · rw [List.dropWhile_cons_of_pos (by simpa using dot), ih, splitParts, if_pos dot]
      rfl
    · rw [List.dropWhile_cons_of_neg (by simpa using dot)]

/-- The dots between the segments become slashes. -/
theorem modulePath_eq {reference : String}
    (stems : ∀ s ∈ segmentsOf reference, FileTree.isStem s = true) :
    modulePath reference = ⟨joinTexts "/" (segmentsOf reference)⟩ := by
  have none : Proper [] := nofun
  have parts : (splitParts '.' reference.toList).filter (!·.isEmpty) =
      (segmentsOf reference).map String.toList := by simp [segmentsOf]
  rw [modulePath, filter_splitParts_dropWhile, parts]
  exact foldl_join none (proper_of_stems stems)

/-! ### Files of a reference -/

/-- The files that a reference can mean from a directory: the module of its segments or the
package, which alone is possible where there are no segments. -/
def moduleFiles (segments base : List String) : List Path :=
  let way := joinTexts "/" segments
  if segments = [] then [(absolute base).join ⟨"__init__.py"⟩]
  else [(absolute base).join ⟨way ++ ".py"⟩, (absolute base).join ⟨way ++ "/__init__.py"⟩]

/-- The names behind the directory on the way to these files. -/
def moduleWays (segments : List String) : List (List String) :=
  match segments.getLast? with
  | none => [["__init__.py"]]
  | some last => [segments.dropLast ++ [last ++ ".py"], segments ++ ["__init__.py"]]

theorem moduleWays_concat (before : List String) (last : String) :
    moduleWays (before ++ [last]) =
      [before ++ [last ++ ".py"], before ++ [last] ++ ["__init__.py"]] := by
  rw [moduleWays, List.getLast?_concat, List.dropLast_concat]

theorem isName_package : FileTree.isName "__init__.py" = true := by decide

theorem proper_of_mem_moduleWays (stems : ∀ s ∈ segments, FileTree.isStem s = true)
    {way : List String} (h : way ∈ moduleWays segments) : Proper way := by
  have proper := proper_of_stems stems
  cases segments using List.reverseRecOn with
  | nil =>
    cases List.mem_singleton.1 h
    exact .singleton isName_package
  | append_singleton before last =>
    rw [moduleWays_concat] at h
    have ending := FileTree.isName_append_py (stems last (by simp))
    rcases List.mem_cons.1 h with rfl | h
    · have inner : Proper before := fun s hs => proper s (List.mem_append_left _ hs)
      exact inner.append (.singleton ending)
    · cases List.mem_singleton.1 h
      exact proper.append (.singleton isName_package)

theorem joinTexts_ending (before : List String) (last ending : String) :
    joinTexts "/" (before ++ [last]) ++ ending = joinTexts "/" (before ++ [last ++ ending]) := by
  by_cases none : before = []
  · simp [none, joinTexts]
  · rw [joinTexts_append "/" none (by simp), joinTexts_append "/" none (by simp)]
    simp [joinTexts, String.append_assoc]

theorem moduleFiles_eq (hb : Proper base) (stems : ∀ s ∈ segments, FileTree.isStem s = true) :
    moduleFiles segments base = (moduleWays segments).map fun way => absolute (base ++ way) := by
  have joined (way : List String) (hw : way ∈ moduleWays segments) (ne : way ≠ []) :
      (absolute base).join ⟨joinTexts "/" way⟩ = absolute (base ++ way) :=
    join_absolute hb (proper_of_mem_moduleWays stems hw) ne
  cases segments using List.reverseRecOn with
  | nil =>
    have package := joined ["__init__.py"] (by decide) (by decide)
    rw [joinTexts] at package
    rw [moduleFiles, if_pos rfl, package]
    rfl
  | append_singleton before last =>
    have ne : before ++ [last] ≠ [] := by simp
    have below : joinTexts "/" (before ++ [last]) ++ "/__init__.py" =
        joinTexts "/" (before ++ [last] ++ ["__init__.py"]) := by
      rw [joinTexts_append "/" ne (by simp), String.append_assoc]
      rfl
    rw [moduleWays_concat] at joined ⊢
    rw [moduleFiles, if_neg ne, joinTexts_ending, below, joined _ (by simp) (by simp),
      joined _ (by simp) (by simp)]
    rfl

/-- A directory with nothing behind it still is the directory. -/
theorem join_empty_join (hb : Proper base) {name : String} (hn : FileTree.isName name = true) :
    ((absolute base).join ⟨""⟩).join ⟨name⟩ = absolute (base ++ [name]) := by
  have nothing : Path.isAbsolute ⟨""⟩ = false := rfl
  -- the directory ends in a slash now, if it did not before
  have slashed : ∃ text, (absolute base).join ⟨""⟩ = ⟨text⟩ ∧ text.toList.getLast? = some '/' ∧
      text ++ name = (absolute (base ++ [name])).text := by
    rw [Path.join, if_neg (by simp [nothing])]
    by_cases none : base = []
    · exact ⟨"/", by simp [none, absolute, joinTexts], rfl, by simp [none, absolute, joinTexts]⟩
    · have written : (absolute base).text ≠ "" := by simp [absolute]
      have ends := FileSystem.getLast?_absolute hb none
      refine ⟨_, if_neg (by simp [written, ends]), by simp, ?_⟩
      rw [absolute, absolute, joinTexts_append "/" none (by simp)]
      simp [joinTexts, String.append_assoc]
  obtain ⟨text, joined, ends, whole⟩ := slashed
  rw [joined, Path.join, if_neg (by simp [isAbsolute_name hn]), if_pos (by simp [ends])]
  exact congrArg Path.mk whole

theorem withExtension_absolute {before : List String} {last : String} (hb : Proper before)
    (stem : FileTree.isStem last = true) :
    (absolute (before ++ [last])).withExtension "py" = absolute (before ++ [last ++ ".py"]) := by
  have components : (absolute (before ++ [last])).components =
      (.root :: before.map .name) ++ [.name last] := by
    rw [components_absolute (hb.append (.singleton (FileTree.isName_of_isStem stem)))]
    simp
  have name : (absolute (before ++ [last])).fileName? = some last := by
    rw [Path.fileName?, components, List.getLast?_concat]
  rw [Path.withExtension, name]
  dsimp only
  rw [FileTree.splitExtension_of_isStem stem, components, List.dropLast_concat,
    ← Path.ofComponents_root, String.append_assoc]
  simp

/-- The search tries these files. -/
theorem candidates_eq (hb : Proper base) (stems : ∀ s ∈ segments, FileTree.isStem s = true) :
    candidates (absolute base) ⟨joinTexts "/" segments⟩ =
      (moduleWays segments).map fun way => absolute (base ++ way) := by
  have proper := proper_of_stems stems
  cases segments using List.reverseRecOn with
  | nil =>
    rw [candidates]
    dsimp only
    rw [joinTexts, if_pos rfl, join_empty_join hb isName_package]
    rfl
  | append_singleton before last =>
    have ne : before ++ [last] ≠ [] := by simp
    have above : Proper (base ++ before) :=
      hb.append fun s hs => proper s (List.mem_append_left _ hs)
    have package := join_absolute (hb.append proper) (.singleton isName_package)
      (List.cons_ne_nil _ [])
    rw [joinTexts] at package
    rw [candidates]
    dsimp only
    rw [if_neg (joinTexts_ne_empty proper ne), join_absolute hb proper ne, package,
      ← List.append_assoc, withExtension_absolute above (stems last (by simp)), moduleWays_concat]
    simp

variable {p : Project} {fs : FileSystem}

/-- From one directory, the first of its files is taken that is there and lies in the project. -/
theorem probe_eq (hb : Proper base) (stems : ∀ s ∈ segments, FileTree.isStem s = true) :
    p.probe fs (absolute base) ⟨joinTexts "/" segments⟩ =
      (moduleFiles segments base).find? fun file => fs.isFile file && p.contains file := by
  have normal : ∀ file ∈ moduleFiles segments base, file.normalize = file := by
    intro file hf
    rw [moduleFiles_eq hb stems] at hf
    obtain ⟨way, hw, rfl⟩ := List.mem_map.1 hf
    exact Path.normalize_absolute (hb.append (proper_of_mem_moduleWays stems hw))
  rw [probe, candidates_eq hb stems, ← moduleFiles_eq hb stems]
  have same : (moduleFiles segments base).find? (fun c => fs.isFile c && p.contains c.normalize) =
      (moduleFiles segments base).find? fun c => fs.isFile c && p.contains c :=
    List.find?_congr fun file hf => by rw [normal file hf]
  rw [same]
  cases found : (moduleFiles segments base).find? fun c => fs.isFile c && p.contains c with
  | none => rfl
  | some file => exact congrArg some (normal file (List.mem_of_find?_eq_some found))

/-! ### The order of the search -/

/-- The directories from which a reference is looked up in a module: without dots the root of the
project and the directory of the module, else the directory so many steps above the module. -/
def bases (root importer : List String) : (level : Nat) → List (List String)
  | 0 => root :: (Path.up? 1 importer).toList
  | level + 1 => (Path.up? (level + 1) importer).toList

/-- The files that a reference can mean in a module, in the order in which they are tried; none for
one without dots and segments. -/
def searchOrder (root importer : List String) (level : Nat) (segments : List String) : List Path :=
  if level = 0 ∧ segments = [] then []
  else (bases root importer level).flatMap (moduleFiles segments)

theorem proper_of_up? {names above : List String} (h : Proper names) {steps : Nat}
    (up : Path.up? steps names = some above) : Proper above := by
  rw [Path.up?, Option.ite_none_right_eq_some, Option.some_inj] at up
  obtain ⟨-, rfl⟩ := up
  exact fun s hs => h s (List.take_subset _ _ hs)

/-- What is found from a directory above a module, if there are as many. -/
theorem bind_probe_up? {names : List String} (hn : Proper names)
    (stems : ∀ s ∈ segments, FileTree.isStem s = true) (steps : Nat) :
    ((Path.up? steps names).map absolute).bind
        (fun base => p.probe fs base ⟨joinTexts "/" segments⟩) =
      (Path.up? steps names).toList.findSome? fun base =>
        (moduleFiles segments base).find? fun file => fs.isFile file && p.contains file := by
  cases up : Path.up? steps names with
  | none => rfl
  | some above => simp [probe_eq (proper_of_up? hn up) stems]

/-- The search in terms of the names on the way to the root and to the module. -/
theorem resolveModule_of_names {way names : List String} (hroot : p.root = absolute way)
    (hw : Proper way) {importer : Path} (hn : Proper names)
    (himporter : importer.components = .root :: names.map .name)
    (stems : ∀ s ∈ segments, FileTree.isStem s = true) {r : String}
    (spelled : segmentsOf r = segments) (level : Nat) :
    p.resolveModule fs r level importer =
      (searchOrder way names level segments).find?
        fun file => fs.isFile file && p.contains file := by
  have climbed (steps : Nat) := Path.climb_eq hn himporter steps
  unfold resolveModule searchOrder
  dsimp only
  rw [modulePath_eq (spelled ▸ stems), spelled]
  cases level with
  | zero =>
    rw [if_neg (Nat.lt_irrefl 0)]
    by_cases none : segments = []
    · simp [none, joinTexts]
    · have above : importer.parent? = (Path.up? 1 names).map absolute := by
        have one := climbed 0
        rw [climb] at one
        rw [← one]
        cases importer.parent? <;> rfl
      rw [if_neg (joinTexts_ne_empty (proper_of_stems stems) none), if_neg (by simp [none]),
        hroot, probe_eq hw stems, above, bind_probe_up? hn stems, List.find?_flatMap, bases,
        List.findSome?_cons]
      cases (moduleFiles segments way).find? fun file => fs.isFile file && p.contains file <;> rfl
  | succ level =>
    rw [if_pos (Nat.succ_pos level), climbed, bind_probe_up? hn stems, if_neg (by simp),
      List.find?_flatMap]
    rfl

/-- A reference means the first file in the search order that is there and lies in the project. -/
theorem resolveModule_eq_find? {fs₀ : FileSystem} {root : Path} {scan : ScanSettings}
    (loaded : load fs₀ root scan = .ok p) (words : ∀ s ∈ segments, Identifier.isWord s = true)
    (dots level : Nat) {importer : Path} (rooted : importer.isAbsolute = true)
    (straight : .parent ∉ importer.components) :
    p.resolveModule fs (reference dots segments) level importer =
      (searchOrder p.root.names importer.names level segments).find?
        fun file => fs.isFile file && p.contains file := by
  obtain ⟨-, way, entries, hroot, found⟩ := load_eq_ok loaded
  have proper : Proper way := (FileSystem.stands_of_resolve found).proper
  obtain ⟨inner, components⟩ := Path.components_of_straight rooted straight
  rw [hroot, Path.names_absolute proper]
  have stems := stems_of_words words
  exact resolveModule_of_names hroot proper inner components stems (segmentsOf_reference stems dots)
    level

/-- A project in which a package stands in the root and a module of the same name in a directory. -/
def sameNames : FileSystem :=
  ⟨[("p", .directory [("b", .directory [("__init__.py", .file (.text ""))]),
    ("k", .directory [("a.py", .file (.text "")), ("b.py", .file (.text ""))])])], [], rfl⟩

/-- The project in the directory at the end of some names, with the usual settings. -/
def ofNames (names : List String) : Project :=
  ⟨absolute names, FileSystem.isAbsolute_absolute names, {}⟩

/-- Without dots the package is found before the module next to the importing one; with a dot only
the module is. -/
theorem resolveModule_eq_find?_sameNames : ∃ p, p = ofNames ["p"] ∧
    load sameNames ⟨"/p"⟩ {} = .ok p ∧
    p.resolveModule sameNames "b" 0 ⟨"/p/k/a.py"⟩ =
      (searchOrder ["p"] ["p", "k", "a.py"] 0 ["b"]).find?
        (fun file => sameNames.isFile file && p.contains file) ∧
    searchOrder ["p"] ["p", "k", "a.py"] 0 ["b"] =
      [⟨"/p/b.py"⟩, ⟨"/p/b/__init__.py"⟩, ⟨"/p/k/b.py"⟩, ⟨"/p/k/b/__init__.py"⟩] ∧
    p.resolveModule sameNames "b" 0 ⟨"/p/k/a.py"⟩ = some ⟨"/p/b/__init__.py"⟩ ∧
    p.resolveModule sameNames ".b" 1 ⟨"/p/k/a.py"⟩ = some ⟨"/p/k/b.py"⟩ := by
  have loaded : load sameNames ⟨"/p"⟩ {} = .ok (ofNames ["p"]) := rfl
  have order : (ofNames ["p"]).resolveModule sameNames (reference 0 ["b"]) 0 ⟨"/p/k/a.py"⟩ = _ :=
    resolveModule_eq_find? loaded (by decide) 0 0 (by decide) (by decide)
  exact ⟨_, rfl, loaded, order, by decide +kernel, by decide +kernel, by decide +kernel⟩

end Project

end CallContext
