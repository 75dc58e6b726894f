import CallContext.Proofs.Project.SearchOrder
import Mathlib.Data.List.Basic

/-!
# Projects in other places

A project without links is looked at in two file systems, under two roots.  What a reference means
in a module depends on the files of the project only, with one exception: dots can lead above the
root, and the segments behind them can name the directories of the root again
(`Project.Reenters`).  So the names of these directories can matter.

* `Project.resolveModule_relocated` : where a reference comes back into both projects or into
  neither of them, it means the same file, seen from the root.
* `Project.resolveModule_moved` : it is found under one root and not under the other if it comes
  back into one of them only.
-/

namespace CallContext

/-! ### Directories without links -/

namespace FileTree

mutual

/-- There are no links in the tree. -/
def isSolid : FileTree → Bool
  | .file _ => true
  | .directory entries => areSolid entries
  | .link _ => false

/-- There are no links in the entries of a directory. -/
def areSolid : List (String × FileTree) → Bool
  | [] => true
  | (_, tree) :: more => isSolid tree && areSolid more

end

/-- A file stands at the end of some names in a directory. -/
def hasFile : List String → Entries → Bool
  | [], _ => false
  | name :: rest, entries =>
    match entries.lookup name with
    | some (.directory inner) => hasFile rest inner
    | some (.file _) => rest.isEmpty
    | _ => false

theorem isSolid_of_mem {entries : Entries} (h : areSolid entries = true) {name : String}
    {tree : FileTree} (hm : (name, tree) ∈ entries) : tree.isSolid = true := by
  induction entries with
  | nil => cases hm
  | cons entry more ih =>
    obtain ⟨name', tree'⟩ := entry
    rw [areSolid, Bool.and_eq_true] at h
    rcases List.mem_cons.1 hm with same | later
    · cases same
      exact h.1
    · exact ih h.2 later

end FileTree

namespace FileSystem

/-- The step has arrived at a file. -/
def Step.isFile : Step → Bool
  | .arrived _ (.file _) => true
  | _ => false

/-- Names are followed through a directory without links to what stands at their end. -/
theorem follow_solid {chain : Chain} {names : List String} (proper : Proper names)
    (solid : FileTree.areSolid (chainEntries chain) = true) :
    (∀ directory target rest, follow chain names ≠ .atLink directory target rest) ∧
      (follow chain names).isFile = FileTree.hasFile names (chainEntries chain) := by
  induction names generalizing chain with
  | nil => exact ⟨nofun, rfl⟩
  | cons name rest ih =>
    obtain ⟨first, others⟩ := List.forall_mem_cons.1 proper
    rw [follow_cons_of_isName first, FileTree.hasFile]
    cases found : (chainEntries chain).lookup name with
    | none => exact ⟨nofun, rfl⟩
    | some tree =>
      have inside := FileTree.isSolid_of_mem solid (FileTree.mem_of_lookup found)
      cases tree with
      | directory inner => exact ih others inside
      | link target => cases inside
      | file content =>
        dsimp only
        split
        · next none => exact ⟨nofun, none.symm⟩
        · next more => exact ⟨nofun, (Bool.eq_false_iff.2 more).symm⟩

theorem isFile_eq_of_reach {fs : FileSystem} {p : Path} {step : Step} (h : fs.reach p = .ok step) :
    fs.isFile p = step.isFile := by
  unfold isFile resolve
  rw [h]
  cases step with
  | arrived names tree => cases tree <;> rfl
  | _ => rfl

/-- Below a directory without links, the files are those of the directory. -/
theorem isFile_below {fs : FileSystem} {way real names : List String} {entries : Entries}
    (hw : Proper way) (h : fs.resolve (absolute way) = .ok (real, .directory entries))
    (solid : FileTree.areSolid entries = true) (hn : Proper names) :
    fs.isFile (absolute (way ++ names)) = FileTree.hasFile names entries := by
  have reached := reach_of_resolve h
  rw [reach_absolute hw.slashless] at reached
  obtain ⟨links, chain, -, -, rfl, onward⟩ :=
    (Grounded.root.of_followLinks hw.slashless reached).2 entries rfl
  obtain ⟨unlinked, same⟩ := follow_solid hn solid
  rw [← same]
  refine isFile_eq_of_reach ?_
  rw [reach_absolute (hw.append hn).slashless, onward, followLinks_of_not_atLink unlinked]

end FileSystem

namespace Project

open FileSystem (absolute Proper)

variable {p : Project} {fs : FileSystem} {way : List String} {entries : Entries}

/-! ### Seen from the root -/

/-- The names behind a directory, for what lies in it. -/
def behind? (way names : List String) : Option (List String) :=
  if way <+: names ∧ names ≠ way then some (names.drop way.length) else none

theorem behind?_append (way : List String) {rest : List String} (ne : rest ≠ []) :
    behind? way (way ++ rest) = some rest := by
  simp [behind?, ne]

theorem behind?_eq_some {names rest : List String} (h : behind? way names = some rest) :
    names = way ++ rest ∧ rest ≠ [] := by
  rw [behind?, Option.ite_none_right_eq_some, Option.some_inj] at h
  obtain ⟨⟨⟨more, rfl⟩, other⟩, rfl⟩ := h
  simpa using other

theorem behind?_append_append (front way names : List String) :
    behind? (front ++ way) (front ++ names) = behind? way names := by
  simp [behind?, List.prefix_append_right_inj, ← List.drop_drop]

/-- What lies in a directory lies in it with the whole way to its last name. -/
theorem behind?_concat (tail before : List String) (last : String) :
    behind? tail (before ++ [last]) =
      if tail <+: before then some (before.drop tail.length ++ [last]) else none := by
  by_cases inside : tail <+: before
  · obtain ⟨rest, rfl⟩ := inside
    simp [behind?]
  · rw [if_neg inside, behind?, if_neg]
    rintro ⟨starts, other⟩
    rcases List.prefix_concat_iff.1 starts with whole | inside'
    · exact other whole.symm
    · exact inside inside'

/-- A loaded project with some entries in its root. -/
structure Holds (p : Project) (fs : FileSystem) (entries : Entries) : Prop where
  loaded : ∃ root scan, load fs root scan = .ok p
  resolve_root : ∃ names, fs.resolve p.root = .ok (names, .directory entries)

namespace Holds

variable (h : p.Holds fs entries)

include h

theorem proper_names : Proper p.root.names ∧ p.root = absolute p.root.names := by
  obtain ⟨root, scan, loaded⟩ := h.loaded
  obtain ⟨-, way, inside, hroot, found⟩ := load_eq_ok loaded
  have proper : Proper way := (FileSystem.stands_of_resolve found).proper
  rw [hroot, Path.names_absolute proper]
  exact ⟨proper, rfl⟩

theorem contains_absolute {names : List String} (hn : Proper names) :
    p.contains (absolute names) = true ↔ p.root.names <+: names := by
  obtain ⟨proper, hroot⟩ := h.proper_names
  rw [contains, Path.startsWith, hroot, FileSystem.components_absolute proper,
    FileSystem.components_absolute hn, Path.names_absolute proper, List.isPrefixOf_iff_prefix,
    List.prefix_cons_inj, List.prefix_map_iff_of_injective fun _ _ => Component.name.inj]

/-- A file of the project is one of the files in its root. -/
theorem isFile_and_contains (solid : FileTree.areSolid entries = true) {names : List String}
    (hn : Proper names) :
    (fs.isFile (absolute names) && p.contains (absolute names)) =
      (behind? p.root.names names).any (FileTree.hasFile · entries) := by
  obtain ⟨proper, hroot⟩ := h.proper_names
  obtain ⟨real, found⟩ := h.resolve_root
  rw [hroot] at found
  have inside := h.contains_absolute hn
  by_cases starts : p.root.names <+: names
  · rw [inside.2 starts, Bool.and_true]
    obtain ⟨rest, rfl⟩ := starts
    have inner : Proper rest := fun s hs => hn s (List.mem_append_right _ hs)
    rw [FileSystem.isFile_below proper found solid inner]
    by_cases none : rest = []
    · simp [none, FileTree.hasFile, behind?]
    · rw [behind?_append _ none, Option.any_some]
  · rw [Bool.eq_false_iff.2 (mt inside.1 starts), behind?, if_neg (by simp [starts])]
    simp

/-- The first file of the project among some paths, seen from the root. -/
theorem map_relativePath_find? (solid : FileTree.areSolid entries = true)
    {ways : List (List String)} (hw : ∀ names ∈ ways, Proper names) :
    ((ways.map absolute).find? fun file => fs.isFile file && p.contains file).map p.relativePath =
      ((ways.filterMap (behind? p.root.names)).find? (FileTree.hasFile · entries)).map
        fun rest => ⟨joinTexts "/" rest⟩ := by
  obtain ⟨proper, hroot⟩ := h.proper_names
  induction ways with
  | nil => rfl
  | cons names ways ih =>
    obtain ⟨first, others⟩ := List.forall_mem_cons.1 hw
    have decided := h.isFile_and_contains solid first
    rw [List.map_cons, List.find?_cons, decided]
    cases split : behind? p.root.names names with
    | none =>
      rw [List.filterMap_cons_none split]
      exact ih others
    | some rest =>
      rw [List.filterMap_cons_some split, List.find?_cons, Option.any_some]
      cases there : FileTree.hasFile rest entries with
      | false => exact ih others
      | true =>
        obtain ⟨rfl, ne⟩ := behind?_eq_some split
        have inner : Proper rest := fun s hs => first s (List.mem_append_right _ hs)
        exact congrArg some (relativePath_absolute hroot proper inner ne)

end Holds

/-! ### The search seen from the root -/

variable {segments inner : List String}

/-- The reference leads above the root, and then back along the names of the directories that lead
to the root. -/
def Reenters (root inner : List String) (level : Nat) (segments : List String) : Prop :=
  inner.length < level ∧ level ≤ inner.length + root.length ∧
    root.drop (root.length - (level - inner.length)) <+: segments

instance (root inner : List String) (level : Nat) (segments : List String) :
    Decidable (Reenters root inner level segments) :=
  inferInstanceAs (Decidable (_ ∧ _ ∧ _))

/-- The names from the root to the files that a reference can mean in the module `inner`. -/
def innerOrder (inner : List String) (level : Nat) (segments : List String) (reenters : Prop)
    [Decidable reenters] : List (List String) :=
  if level = 0 then
    if segments = [] then []
    else moduleWays segments ++ (moduleWays segments).map (inner.dropLast ++ ·)
  else if level ≤ inner.length then
    (moduleWays segments).map (inner.take (inner.length - level) ++ ·)
  else if reenters then moduleWays (segments.drop (level - inner.length))
  else []

/-- What is left of a reference behind the names of the directories that lead to the root. -/
theorem filterMap_behind?_moduleWays {tail : List String} (ne : tail ≠ []) :
    (moduleWays segments).filterMap (behind? tail) =
      if tail <+: segments then moduleWays (segments.drop tail.length) else [] := by
  cases segments using List.reverseRecOn with
  | nil =>
    have package := behind?_concat tail [] "__init__.py"
    rw [if_neg (by simpa using ne)] at package
    rw [if_neg (by simpa using ne)]
    exact List.filterMap_cons_none package
  | append_singleton before last =>
    simp only [moduleWays_concat, List.filterMap_cons, List.filterMap_nil, behind?_concat,
      List.prefix_concat_iff]
    by_cases inside : tail <+: before
    · obtain ⟨rest, rfl⟩ := inside
      have left : (tail ++ rest ++ [last]).drop tail.length = rest ++ [last] := by simp
      rw [left, moduleWays_concat]
      simp
    · simp only [if_neg inside]
      by_cases whole : tail = before ++ [last]
      · simp [whole, moduleWays]
      · simp [inside, whole]

theorem ne_nil_of_mem_moduleWays {names : List String} (h : names ∈ moduleWays segments) :
    names ≠ [] := by
  rintro rfl
  cases segments using List.reverseRecOn with
  | nil => simp [moduleWays] at h
  | append_singleton before last => simp [moduleWays_concat] at h

/-- From a directory in the project, all that a reference can mean lies in the project. -/
theorem filterMap_behind?_inside (way inner segments : List String) :
    ((moduleWays segments).map (way ++ inner ++ ·)).filterMap (behind? way) =
      (moduleWays segments).map (inner ++ ·) := by
  rw [List.filterMap_map, ← List.filterMap_eq_map]
  refine List.filterMap_congr fun names hm => ?_
  have ne : inner ++ names ≠ [] := by simp [ne_nil_of_mem_moduleWays hm]
  rw [Function.comp_apply, List.append_assoc, behind?_append way ne]
  rfl

/-- From a directory above the project, only what comes back to it does. -/
theorem filterMap_behind?_above {tail : List String} (front segments : List String)
    (ne : tail ≠ []) :
    ((moduleWays segments).map (front ++ ·)).filterMap (behind? (front ++ tail)) =
      if tail <+: segments then moduleWays (segments.drop tail.length) else [] := by
  rw [← filterMap_behind?_moduleWays ne, List.filterMap_map]
  exact List.filterMap_congr fun names _ => behind?_append_append front tail names

/-- The names that were gone up from the project are those of its innermost directories. -/
theorem filterMap_behind?_climbed (way segments : List String) {steps : Nat} (pos : 0 < steps)
    (le : steps ≤ way.length) :
    ((moduleWays segments).map (way.take (way.length - steps) ++ ·)).filterMap (behind? way) =
      if way.drop (way.length - steps) <+: segments then moduleWays (segments.drop steps)
      else [] := by
  have split := List.take_append_drop (way.length - steps) way
  have length : (way.drop (way.length - steps)).length = steps := by
    rw [List.length_drop]
    omega
  have tail : way.drop (way.length - steps) ≠ [] := List.ne_nil_of_length_pos (by omega)
  have above := filterMap_behind?_above (way.take (way.length - steps)) segments tail
  rwa [split, length] at above

/-- The names on the way to the files that a reference can mean in a module. -/
def searchWays (root importer : List String) (level : Nat) (segments : List String) :
    List (List String) :=
  if level = 0 ∧ segments = [] then []
  else (bases root importer level).flatMap fun base => (moduleWays segments).map (base ++ ·)

theorem proper_of_mem_bases {root importer : List String} (hr : Proper root) (hi : Proper importer)
    {level : Nat} {base : List String} (h : base ∈ bases root importer level) : Proper base := by
  cases level with
  | zero =>
    rcases List.mem_cons.1 h with rfl | up
    · exact hr
    · exact proper_of_up? hi (Option.mem_toList.1 up)
  | succ level => exact proper_of_up? hi (Option.mem_toList.1 h)

theorem searchOrder_eq {root importer : List String} (hr : Proper root) (hi : Proper importer)
    (stems : ∀ s ∈ segments, FileTree.isStem s = true) (level : Nat) :
    searchOrder root importer level segments =
      (searchWays root importer level segments).map absolute := by
  unfold searchOrder searchWays
  split
  · rfl
  · rw [List.map_flatMap]
    refine List.flatMap_congr fun base hb => ?_
    rw [moduleFiles_eq (proper_of_mem_bases hr hi hb) stems, List.map_map]
    rfl

theorem proper_of_mem_searchWays {root importer : List String} (hr : Proper root)
    (hi : Proper importer) (stems : ∀ s ∈ segments, FileTree.isStem s = true) {level : Nat}
    {names : List String} (h : names ∈ searchWays root importer level segments) : Proper names := by
  unfold searchWays at h
  split at h
  · cases h
  · obtain ⟨base, hb, hn⟩ := List.mem_flatMap.1 h
    obtain ⟨rest, hrest, rfl⟩ := List.mem_map.1 hn
    exact (proper_of_mem_bases hr hi hb).append (proper_of_mem_moduleWays stems hrest)

theorem up?_append_of_le (way : List String) {steps : Nat} (h : steps ≤ inner.length) :
    Path.up? steps (way ++ inner) = some (way ++ inner.take (inner.length - steps)) := by
  rw [Path.up?, if_pos (by simp; omega), List.length_append, Nat.add_sub_assoc h,
    List.take_length_add_append]

theorem up?_append_of_lt (way : List String) {steps : Nat} (h : inner.length < steps) :
    Path.up? steps (way ++ inner) =
      if steps ≤ inner.length + way.length then
        some (way.take (way.length - (steps - inner.length)))
      else none := by
  have length : (way ++ inner).length = inner.length + way.length := by simp [Nat.add_comm]
  rw [Path.up?, length]
  by_cases far : steps ≤ inner.length + way.length
  · rw [if_pos far, if_pos far, List.take_append_of_le_length (by omega)]
    congr 2
    omega
  · rw [if_neg far, if_neg far]

/-- Seen from the root, the search does not depend on where the root is, but for the names that the
reference comes back along. -/
theorem filterMap_behind?_searchWays (way : List String) (ne : inner ≠ []) (level : Nat) :
    (searchWays way (way ++ inner) level segments).filterMap (behind? way) =
      innerOrder inner level segments (Reenters way inner level segments) := by
  have some := List.length_pos_iff.2 ne
  unfold searchWays innerOrder
  cases level with
  | zero =>
    by_cases none : segments = []
    · simp [none]
    · have root := filterMap_behind?_inside way [] segments
      have below := filterMap_behind?_inside way inner.dropLast segments
      rw [if_neg (by simp [none]), if_pos rfl, if_neg none, bases, up?_append_of_le way some]
      simp only [List.append_nil, List.nil_append, List.map_id'] at root
      simp only [Option.toList_some, List.flatMap_cons, List.flatMap_nil, List.append_nil,
        List.filterMap_append, root, ← List.dropLast_eq_take, below]
  | succ level =>
    rw [if_neg (by simp), if_neg (Nat.succ_ne_zero level), bases]
    by_cases inside : level + 1 ≤ inner.length
    · rw [if_pos inside, up?_append_of_le way inside, Option.toList_some, List.flatMap_singleton]
      exact filterMap_behind?_inside way _ segments
    · rw [if_neg inside, up?_append_of_lt way (by omega)]
      by_cases far : level + 1 ≤ inner.length + way.length
      · -- above the root, only what comes back is seen, and this is where the names matter
        rw [if_pos far, Option.toList_some, List.flatMap_singleton,
          filterMap_behind?_climbed way segments (by omega) (by omega)]
        refine if_congr ?_ rfl rfl
        exact ⟨fun h => ⟨by omega, far, h⟩, fun h => h.2.2⟩
      · rw [if_neg far, if_neg fun reenters => far reenters.2.1]
        rfl

/-! ### Two places -/

/-- What a reference means in a module, seen from the root. -/
theorem Holds.map_relativePath_resolveModule (h : p.Holds fs entries)
    (solid : FileTree.areSolid entries = true) (proper : Proper inner) (ne : inner ≠ [])
    (words : ∀ s ∈ segments, Identifier.isWord s = true) (dots level : Nat) :
    (p.resolveModule fs (reference dots segments) level
        (p.root.join ⟨joinTexts "/" inner⟩)).map p.relativePath =
      ((innerOrder inner level segments (Reenters p.root.names inner level segments)).find?
        (FileTree.hasFile · entries)).map fun rest => ⟨joinTexts "/" rest⟩ := by
  obtain ⟨way, hroot⟩ := h.proper_names
  have importer : p.root.join ⟨joinTexts "/" inner⟩ = absolute (p.root.names ++ inner) := by
    conv => lhs; rw [hroot]
    exact FileSystem.join_absolute way proper ne
  have whole := way.append proper
  have stems := stems_of_words words
  rw [importer, resolveModule_of_names hroot way whole (FileSystem.components_absolute whole) stems
      (segmentsOf_reference stems dots), searchOrder_eq way whole stems,
    h.map_relativePath_find? solid fun names hn => proper_of_mem_searchWays way whole stems hn,
    filterMap_behind?_searchWays p.root.names ne]

/-- A project without links in two places: a reference means the same file of it in both, seen from
the root, unless it leads above the root and comes back in one of the places only. -/
theorem resolveModule_relocated {p₁ p₂ : Project} {fs₁ fs₂ : FileSystem} {entries : Entries}
    (h₁ : p₁.Holds fs₁ entries) (h₂ : p₂.Holds fs₂ entries)
    (solid : FileTree.areSolid entries = true) {inner segments : List String}
    (proper : Proper inner) (ne : inner ≠ [])
    (words : ∀ s ∈ segments, Identifier.isWord s = true) (dots level : Nat)
    (same : Reenters p₁.root.names inner level segments ↔
      Reenters p₂.root.names inner level segments) :
    (p₁.resolveModule fs₁ (reference dots segments) level
        (p₁.root.join ⟨joinTexts "/" inner⟩)).map p₁.relativePath =
      (p₂.resolveModule fs₂ (reference dots segments) level
        (p₂.root.join ⟨joinTexts "/" inner⟩)).map p₂.relativePath := by
  have order : innerOrder inner level segments (Reenters p₁.root.names inner level segments) =
      innerOrder inner level segments (Reenters p₂.root.names inner level segments) := by
    unfold innerOrder
    simp only [same]
  rw [h₁.map_relativePath_resolveModule solid proper ne words,
    h₂.map_relativePath_resolveModule solid proper ne words, order]

/-- Two modules, one of them in a directory. -/
def twoModules : Entries :=
  [("b.py", .file (.text "")), ("k", .directory [("a.py", .file (.text ""))])]

/-- The project in a directory `x`. -/
def inX : FileSystem := ⟨[("x", .directory twoModules)], [], rfl⟩

/-- The project in a directory `x` again, inside another one. -/
def inZX : FileSystem := ⟨[("z", .directory [("x", .directory twoModules)])], [], rfl⟩

/-- The project in a directory `y`. -/
def inY : FileSystem := ⟨[("y", .directory twoModules)], [], rfl⟩

theorem holds_inX : (ofNames ["x"]).Holds inX twoModules :=
  ⟨⟨⟨"/x"⟩, {}, rfl⟩, ["x"], rfl⟩

theorem holds_inZX : (ofNames ["z", "x"]).Holds inZX twoModules :=
  ⟨⟨⟨"/z/x"⟩, {}, rfl⟩, ["z", "x"], rfl⟩

theorem holds_inY : (ofNames ["y"]).Holds inY twoModules :=
  ⟨⟨⟨"/y"⟩, {}, rfl⟩, ["y"], rfl⟩

/-- Three dots lead above the root.  Where the root is called `x`, wherever that is, `x` leads back
to it. -/
theorem resolveModule_relocated_twoModules :
    (ofNames ["x"]).Holds inX twoModules ∧ (ofNames ["z", "x"]).Holds inZX twoModules ∧
    FileTree.areSolid twoModules = true ∧
    Reenters ["x"] ["k", "a.py"] 3 ["x", "b"] ∧ Reenters ["z", "x"] ["k", "a.py"] 3 ["x", "b"] ∧
    ((ofNames ["x"]).resolveModule inX "...x.b" 3 ⟨"/x/k/a.py"⟩).map
        (ofNames ["x"]).relativePath =
      ((ofNames ["z", "x"]).resolveModule inZX "...x.b" 3 ⟨"/z/x/k/a.py"⟩).map
        (ofNames ["z", "x"]).relativePath ∧
    ((ofNames ["x"]).resolveModule inX "...x.b" 3 ⟨"/x/k/a.py"⟩).map (ofNames ["x"]).relativePath =
      some ⟨"b.py"⟩ := by
  have solid : FileTree.areSolid twoModules = true := by decide
  have proper : ∀ s ∈ ["k", "a.py"], FileTree.isName s = true := by decide
  have words : ∀ s ∈ ["x", "b"], Identifier.isWord s = true := by decide
  have same := resolveModule_relocated holds_inX holds_inZX solid proper (by decide) words 3 3
    (by decide +kernel)
  exact ⟨holds_inX, holds_inZX, solid, by decide, by decide, same, by decide +kernel⟩

/-- Where the root is called `y`, the same reference leads nowhere. -/
theorem resolveModule_moved :
    (ofNames ["x"]).Holds inX twoModules ∧ (ofNames ["y"]).Holds inY twoModules ∧
    FileTree.areSolid twoModules = true ∧
    ((ofNames ["x"]).resolveModule inX "...x.b" 3 ⟨"/x/k/a.py"⟩).map (ofNames ["x"]).relativePath =
      some ⟨"b.py"⟩ ∧
    ((ofNames ["y"]).resolveModule inY "...x.b" 3 ⟨"/y/k/a.py"⟩).map (ofNames ["y"]).relativePath =
      none :=
  ⟨holds_inX, holds_inY, by decide, by decide +kernel, by decide +kernel⟩

end Project

end CallContext
