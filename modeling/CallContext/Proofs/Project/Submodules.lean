import CallContext.Proofs.Project.Imports
import CallContext.Proofs.Project.Relocation

/-!
# Names that are modules inside a package

A name that is imported from a module and not defined there can be a module inside of it.  It ought
to stand in the directory of the module (`Project.interior`).  But the name is looked up by a search
of its own, and a search without dots goes to two places: what it finds first need not be where the
module was found.

* `Project.submodule_inside_iff` : the name stands inside the module exactly if both were found at
  one place,
* `Project.submodule_outside` : a name that is taken from another package of the same name.
-/

namespace CallContext

namespace Project

open FileSystem (absolute Proper components_absolute)

/-! ### Where modules inside a module stand -/

/-- The names on the way to the directory of a module: the one that a package begins in, or else one
that is called like the module. -/
def interior (file : Path) : List String :=
  match file.names.getLast? with
  | none => []
  | some last =>
    file.names.dropLast ++ if last = "__init__.py" then [] else [(Path.splitExtension last).1]

/-- The file is where a module of some segments stands inside of a module. -/
def Inside (file : Path) (segments : List String) (inner : Path) : Prop :=
  ∃ way ∈ moduleWays segments, inner = absolute (interior file ++ way)

instance (file : Path) (segments : List String) (inner : Path) :
    Decidable (Inside file segments inner) :=
  inferInstanceAs (Decidable (∃ way ∈ moduleWays segments, inner = absolute (interior file ++ way)))

theorem interior_concat {names : List String} {last : String} (h : Proper (names ++ [last])) :
    interior (absolute (names ++ [last])) =
      names ++ if last = "__init__.py" then [] else [(Path.splitExtension last).1] := by
  rw [interior, Path.names_absolute h, List.getLast?_concat, List.dropLast_concat]

theorem splitExtension_append_py {s : String} (h : FileTree.isStem s = true) :
    (Path.splitExtension (s ++ ".py")).1 = s := by
  have split : splitParts '.' (s ++ ".py").toList = [s.toList, ['p', 'y']] := by
    have found := splitParts_joinTexts (show ".".toList = ['.'] from rfl)
      (List.cons_ne_nil s ["py"]) (by
        simp only [List.mem_cons, List.not_mem_nil, or_false, forall_eq_or_imp, forall_eq]
        exact ⟨FileTree.dot_not_mem h, by decide⟩)
    have written : joinTexts "." [s, "py"] = s ++ ".py" := by
      simp [joinTexts, String.append_assoc]
    simpa [written] using congrArg (List.map String.toList) found
  have named := FileTree.ne_empty_of_isStem h
  rw [Path.splitExtension, split]
  simp [joinTexts, named]

variable {segments parts base : List String}

/-- The directory of a module that was found from some directory is the one of its segments, unless
it is a package that was found as a module of the name `__init__`. -/
theorem interior_of_mem_moduleWays (hb : Proper base)
    (stems : ∀ s ∈ segments, FileTree.isStem s = true) {way : List String}
    (h : way ∈ moduleWays segments) :
    interior (absolute (base ++ way)) = base ++ segments ∨
      ∃ before, segments = before ++ ["__init__"] ∧
        interior (absolute (base ++ way)) = base ++ before := by
  have proper := hb.append (proper_of_mem_moduleWays stems h)
  cases segments using List.reverseRecOn with
  | nil =>
    cases List.mem_singleton.1 h
    rw [interior_concat proper, if_pos rfl]
    exact .inl rfl
  | append_singleton before last =>
    have stem := stems last (by simp)
    rw [moduleWays_concat] at h
    rcases List.mem_cons.1 h with rfl | h
    · rw [← List.append_assoc] at proper ⊢
      rw [interior_concat proper, splitExtension_append_py stem]
      split
      · next package =>
        have name : last ++ ".py" = "__init__" ++ ".py" := package
        rw [String.append_left_inj ".py" |>.1 name, List.append_nil]
        exact .inr ⟨before, rfl, rfl⟩
      · exact .inl (List.append_assoc _ _ _)
    · cases List.mem_singleton.1 h
      rw [← List.append_assoc] at proper ⊢
      rw [interior_concat proper, if_pos rfl, List.append_nil]
      exact .inl rfl

theorem moduleWays_append (ne : parts ≠ []) :
    moduleWays (segments ++ parts) = (moduleWays parts).map (segments ++ ·) := by
  obtain ⟨before, last, rfl⟩ : ∃ before last, parts = before ++ [last] :=
    ⟨_, _, (List.dropLast_concat_getLast ne).symm⟩
  rw [← List.append_assoc, moduleWays_concat, moduleWays_concat]
  simp

/-! ### Where a search ends -/

variable {p : Project} {fs : FileSystem} {root importer : List String} {level : Nat} {file : Path}

/-- A file of the project answers to some segments from a directory. -/
def Answers (p : Project) (fs : FileSystem) (base segments : List String) : Prop :=
  ∃ file ∈ moduleFiles segments base, fs.isFile file = true ∧ p.contains file = true

/-- The directory that a search ends in; without dots it is the root if a file answers from there,
and else the directory of the importing module. -/
structure EndsIn (p : Project) (fs : FileSystem) (root importer : List String) (level : Nat)
    (segments base : List String) : Prop where
  mem : base ∈ bases root importer level
  eq_root : level = 0 → p.Answers fs root segments → base = root
  eq_directory : level = 0 → ¬ p.Answers fs root segments → Path.up? 1 importer = some base

theorem endsIn_of_find? (h : (searchOrder root importer level segments).find?
      (fun file => fs.isFile file && p.contains file) = some file) :
    ∃ base, p.EndsIn fs root importer level segments base ∧ file ∈ moduleFiles segments base := by
  unfold searchOrder at h
  split at h
  · cases h
  · rw [List.find?_flatMap] at h
    cases level with
    | succ level =>
      obtain ⟨base, hb, found⟩ := List.exists_of_findSome?_eq_some h
      have dots : level + 1 ≠ 0 := Nat.succ_ne_zero level
      exact ⟨base, ⟨hb, fun none => absurd none dots, fun none => absurd none dots⟩,
        List.mem_of_find?_eq_some found⟩
    | zero =>
      rw [bases, List.findSome?_cons] at h
      have answers : p.Answers fs root segments ↔ ((moduleFiles segments root).find?
          fun file => fs.isFile file && p.contains file).isSome = true := by
        simp [Answers]
      cases near : (moduleFiles segments root).find? fun file => fs.isFile file && p.contains file
        with
      | some found =>
        rw [near] at h answers
        cases h
        refine ⟨root, ⟨List.mem_cons_self, fun _ _ => rfl, fun _ none => ?_⟩,
          List.mem_of_find?_eq_some near⟩
        exact absurd (answers.2 rfl) none
      | none =>
        rw [near] at h answers
        obtain ⟨base, hb, found⟩ := List.exists_of_findSome?_eq_some h
        refine ⟨base, ⟨List.mem_cons_of_mem _ hb, fun _ some => ?_, fun _ _ => ?_⟩,
          List.mem_of_find?_eq_some found⟩
        · cases answers.1 some
        · exact Option.mem_toList.1 hb

theorem EndsIn.unique {base₁ base₂ : List String}
    (h₁ : p.EndsIn fs root importer level segments base₁)
    (h₂ : p.EndsIn fs root importer level segments base₂) : base₁ = base₂ := by
  cases level with
  | succ level =>
    exact Option.some.inj
      ((Option.mem_toList.1 h₁.mem).symm.trans (Option.mem_toList.1 h₂.mem))
  | zero =>
    by_cases near : p.Answers fs root segments
    · rw [h₁.eq_root rfl near, h₂.eq_root rfl near]
    · exact Option.some.inj ((h₁.eq_directory rfl near).symm.trans (h₂.eq_directory rfl near))

/-- A module and a name in it are looked up at one place. -/
def FoundTogether (p : Project) (fs : FileSystem) (importer : List String) (level : Nat)
    (segments parts : List String) : Prop :=
  level = 0 → Path.up? 1 importer = some p.root.names ∨
    (p.Answers fs p.root.names segments ↔ p.Answers fs p.root.names (segments ++ parts))

/-- Two searches end in one directory exactly if they find something at one place. -/
theorem endsIn_eq_iff {base₁ base₂ : List String}
    (h₁ : p.EndsIn fs p.root.names importer level segments base₁)
    (h₂ : p.EndsIn fs p.root.names importer level (segments ++ parts) base₂) :
    base₁ = base₂ ↔ p.FoundTogether fs importer level segments parts := by
  cases level with
  | succ level =>
    refine iff_of_true ?_ nofun
    exact Option.some.inj
      ((Option.mem_toList.1 h₁.mem).symm.trans (Option.mem_toList.1 h₂.mem))
  | zero =>
    simp only [FoundTogether, forall_const]
    have near := h₁.eq_root rfl
    have far := h₁.eq_directory rfl
    have near' := h₂.eq_root rfl
    have far' := h₂.eq_directory rfl
    by_cases first : p.Answers fs p.root.names segments <;>
      by_cases second : p.Answers fs p.root.names (segments ++ parts)
    · simp [first, second, near first, near' second]
    · simp [first, second, near first, far' second, eq_comm]
    · simp [first, second, far first, near' second]
    · have same := Option.some.inj ((far first).symm.trans (far' second))
      simp [first, second, same]

/-! ### Files from different directories -/

/-- Names that are the same if they are moved on by one are all the same. -/
theorem eq_of_rotated {x y : String} {names : List String} (h : x :: names = names ++ [y]) :
    ∀ s ∈ names, s = y := by
  induction names generalizing x with
  | nil => nofun
  | cons s names ih =>
    obtain ⟨rfl, rest⟩ := List.cons.inj h
    have later := ih rest
    refine List.forall_mem_cons.2 ⟨?_, later⟩
    cases names with
    | nil => exact (List.cons.inj rest).1
    | cons t names =>
      obtain ⟨rfl, -⟩ := List.cons.inj rest
      exact later x List.mem_cons_self

/-- If what follows is one name longer here, then it is what precedes that is one longer there. -/
theorem exists_concat_of_append_eq {xs ys as bs : List String} (same : xs ++ as = ys ++ bs)
    (one : bs.length = as.length + 1) : ∃ x, xs = ys ++ [x] ∧ bs = x :: as := by
  rcases List.append_eq_append_iff.1 same with ⟨between, rfl, rfl⟩ | ⟨between, rfl, rfl⟩
  · simp only [List.length_append] at one
    omega
  · have single : between.length = 1 := by
      simp only [List.length_append] at one
      omega
    obtain ⟨x, rfl⟩ := List.length_eq_one_iff.1 single
    exact ⟨x, rfl, rfl⟩

/-- From a directory that is one name longer, nothing is found that could have been found from the
other. -/
theorem longer_base_ne {short long way way' : List String} (ne : segments ≠ [])
    (other : segments.getLast? ≠ some "__init__") (hw : way ∈ moduleWays parts)
    (hw' : way' ∈ moduleWays parts) (longer : short.length < long.length) :
    long ++ segments ++ way ≠ short ++ segments ++ way' := by
  intro same
  have lengths := congrArg List.length same
  simp only [List.length_append] at lengths
  cases parts using List.reverseRecOn with
  | nil =>
    cases List.mem_singleton.1 hw
    cases List.mem_singleton.1 hw'
    omega
  | append_singleton before last =>
    rw [moduleWays_concat] at hw hw'
    simp only [List.mem_cons, List.not_mem_nil, or_false] at hw hw'
    -- only a package can make up in its way for what its directory is shorter
    rcases hw with rfl | rfl <;> rcases hw' with rfl | rfl <;>
      simp only [List.length_append, List.length_cons, List.length_nil] at lengths
    · omega
    · -- the module found from the longer directory would be the beginning of a package
      have apart : long ++ segments ++ before ++ [last ++ ".py"] =
          short ++ segments ++ (before ++ [last]) ++ ["__init__.py"] := by
        simpa using same
      obtain ⟨rest, last_eq⟩ := List.append_inj' apart rfl
      have name : last = "__init__" :=
        (String.append_left_inj ".py").1 (List.cons.inj last_eq).1
      rw [List.append_assoc, List.append_assoc] at rest
      obtain ⟨x, -, rotated⟩ := exists_concat_of_append_eq rest (by simp +arith)
      have all : ∀ s ∈ segments ++ before, s = last := eq_of_rotated (x := x) (by simp [← rotated])
      have final := all _ (List.mem_append_left _ (List.getLast_mem ne))
      exact other (by rw [List.getLast?_eq_some_getLast ne, final, name])
    · omega
    · omega

/-- Files that were found from different directories are different. -/
theorem base_eq_of_append_eq {base₁ base₂ way way' : List String} (ne : segments ≠ [])
    (other : segments.getLast? ≠ some "__init__") (hw : way ∈ moduleWays parts)
    (hw' : way' ∈ moduleWays parts)
    (same : base₁ ++ segments ++ way = base₂ ++ segments ++ way') : base₁ = base₂ := by
  rcases Nat.lt_trichotomy base₁.length base₂.length with short | equal | long
  · exact absurd same.symm (longer_base_ne ne other hw' hw short)
  · rw [List.append_assoc, List.append_assoc] at same
    exact (List.append_inj same equal).1
  · exact absurd same (longer_base_ne ne other hw hw' long)

/-- What is not called `__init__` is found at the end of one way only. -/
theorem front_eq_of_append_eq {xs ys way way' : List String}
    (other : parts.getLast? ≠ some "__init__") (hw : way ∈ moduleWays parts)
    (hw' : way' ∈ moduleWays parts) (same : xs ++ way = ys ++ way') : xs = ys := by
  cases parts using List.reverseRecOn with
  | nil =>
    cases List.mem_singleton.1 hw
    cases List.mem_singleton.1 hw'
    exact List.append_cancel_right same
  | append_singleton before last =>
    have plain : last ++ ".py" ≠ "__init__.py" := by
      intro name
      have : last ++ ".py" = "__init__" ++ ".py" := name
      exact other (by rw [List.getLast?_concat, String.append_left_inj ".py" |>.1 this])
    rw [moduleWays_concat] at hw hw'
    simp only [List.mem_cons, List.not_mem_nil, or_false] at hw hw'
    have ends := congrArg List.getLast? same
    rcases hw with rfl | rfl <;> rcases hw' with rfl | rfl
    · exact List.append_cancel_right same
    · simp [plain] at ends
    · simp [plain.symm] at ends
    · exact List.append_cancel_right same

/-! ### Modules inside the module of a statement -/

/-- A module that was read was located without dots and links. -/
theorem canonicalize_of_module {path : Path} {m : Module}
    (h : fs.module (p.locate fs path) = .ok m) :
    ∃ names, Proper names ∧ p.locate fs path = absolute names := by
  have read : ∃ names tree, fs.resolve (p.locate fs path) = .ok (names, tree) := by
    unfold FileSystem.module FileSystem.read at h
    cases found : fs.resolve (p.locate fs path) with
    | ok reached => exact ⟨_, _, rfl⟩
    | error e => simp [found] at h
  obtain ⟨names, tree, found⟩ := read
  unfold locate at found ⊢
  dsimp only at found ⊢
  split at found
  · next canonical =>
    obtain ⟨names, tree, reached, rfl⟩ := FileSystem.canonicalize_eq_ok.1 canonical
    exact ⟨names, (FileSystem.stands_of_resolve reached).proper, rfl⟩
  · next failed =>
    rw [FileSystem.canonicalize_of_resolve found] at failed
    cases failed

/-- The module and the name were found from some directories, the name behind the segments of the
module. -/
structure FoundAt (p : Project) (fs : FileSystem) (importer : List String) (level : Nat)
    (segments parts : List String) (file inner : Path) (base base' way way' : List String) :
    Prop where
  ends : p.EndsIn fs p.root.names importer level segments base
  ends' : p.EndsIn fs p.root.names importer level (segments ++ parts) base'
  proper : Proper base
  proper' : Proper base'
  mem : way ∈ moduleWays segments
  mem' : way' ∈ moduleWays parts
  file_eq : file = absolute (base ++ way)
  inner_eq : inner = absolute (base' ++ segments ++ way')

section Found

variable {inner : Path} {base' way way' : List String}
  (stems : ∀ s ∈ segments, FileTree.isStem s = true)
  (inner_stems : ∀ s ∈ parts, FileTree.isStem s = true)

include stems inner_stems

theorem exists_foundAt (hr : Proper p.root.names) (hi : Proper importer) (ne : parts ≠ [])
    (found : (searchOrder p.root.names importer level segments).find?
      (fun file => fs.isFile file && p.contains file) = some file)
    (inner_found : (searchOrder p.root.names importer level (segments ++ parts)).find?
      (fun file => fs.isFile file && p.contains file) = some inner) :
    ∃ base base' way way',
      p.FoundAt fs importer level segments parts file inner base base' way way' := by
  obtain ⟨base, ends, hf⟩ := endsIn_of_find? found
  obtain ⟨base', ends', hf'⟩ := endsIn_of_find? inner_found
  have hb := proper_of_mem_bases hr hi ends.mem
  have hb' := proper_of_mem_bases hr hi ends'.mem
  have all_stems : ∀ s ∈ segments ++ parts, FileTree.isStem s = true := fun s hs =>
    (List.mem_append.1 hs).elim (stems s) (inner_stems s)
  rw [moduleFiles_eq hb stems] at hf
  rw [moduleFiles_eq hb' all_stems, moduleWays_append ne] at hf'
  obtain ⟨way, hw, rfl⟩ := List.mem_map.1 hf
  obtain ⟨longer, hl, rfl⟩ := List.mem_map.1 hf'
  obtain ⟨way', hw', rfl⟩ := List.mem_map.1 hl
  exact ⟨base, base', way, way', ends, ends', hb, hb', hw, hw', rfl, by rw [List.append_assoc]⟩

variable (h : p.FoundAt fs importer level segments parts file inner base base' way way')

include h

/-- The name stands inside the module if its way leads on from the directory of the module. -/
theorem FoundAt.inside_iff : Inside file parts inner ↔
    ∃ other ∈ moduleWays parts, base' ++ segments ++ way' = interior file ++ other := by
  have proper_interior : Proper (interior file) := by
    rw [h.file_eq]
    rcases interior_of_mem_moduleWays h.proper stems h.mem with same | ⟨before, rfl, same⟩
    · rw [same]
      exact h.proper.append (proper_of_stems stems)
    · rw [same]
      exact h.proper.append fun s hs => proper_of_stems stems s (List.mem_append_left _ hs)
  have proper_inner : Proper (base' ++ segments ++ way') :=
    (h.proper'.append (proper_of_stems stems)).append (proper_of_mem_moduleWays inner_stems h.mem')
  refine exists_congr fun other => and_congr_right fun ho => ?_
  have proper := proper_interior.append (proper_of_mem_moduleWays inner_stems ho)
  rw [h.inner_eq]
  refine ⟨fun same => ?_, congrArg absolute⟩
  rw [← Path.names_absolute proper_inner, same, Path.names_absolute proper]

/-- A name other than `__init__` stands inside the module exactly if its search ended where the
segments of the module lead to the directory of the module. -/
theorem FoundAt.inside_iff_interior (other : parts.getLast? ≠ some "__init__") :
    Inside file parts inner ↔
      ∃ base, p.EndsIn fs p.root.names importer level (segments ++ parts) base ∧
        interior file = base ++ segments := by
  rw [h.inside_iff stems inner_stems]
  constructor
  · rintro ⟨way, hw, same⟩
    exact ⟨base', h.ends', (front_eq_of_append_eq other h.mem' hw same).symm⟩
  · rintro ⟨base, ends, same⟩
    exact ⟨way', h.mem', by rw [same, ends.unique h.ends']⟩

/-- A name stands inside a module other than `__init__` exactly if both were found at one place. -/
theorem FoundAt.inside_iff_together (other : segments.getLast? ≠ some "__init__")
    (some : level = 0 → segments ≠ []) :
    Inside file parts inner ↔ p.FoundTogether fs importer level segments parts := by
  have directory : interior file = base ++ segments := by
    rw [h.file_eq]
    rcases interior_of_mem_moduleWays h.proper stems h.mem with same | ⟨before, rfl, -⟩
    · exact same
    · exact absurd List.getLast?_concat other
  rw [h.inside_iff stems inner_stems, directory]
  constructor
  · rintro ⟨way, hw, same⟩
    cases level with
    | succ level => nofun
    | zero =>
      -- without dots there are segments, so that the file tells the directory it was found from
      refine (endsIn_eq_iff h.ends h.ends').1 ?_
      exact (base_eq_of_append_eq (some rfl) other h.mem' hw same).symm
  · intro together
    obtain rfl := (endsIn_eq_iff h.ends h.ends').2 together
    exact ⟨way', h.mem', rfl⟩

end Found

/-- A name that starts with an identifier has segments. -/
theorem segmentsOf_ne_nil {name : String} (h : Identifier.starts name = true) :
    segmentsOf name ≠ [] := by
  obtain ⟨c, head, start⟩ := (Option.any_eq_true _ _).1 h
  obtain ⟨cs, text⟩ := List.head?_eq_some_iff.1 head
  have other : c ≠ '.' := by
    rintro rfl
    revert start
    decide
  obtain ⟨part, parts, split⟩ := List.exists_cons_of_ne_nil (splitParts_ne_nil '.' cs)
  rw [segmentsOf, text, splitParts, if_neg other, split]
  simp

/-- What happens to a name that a statement imports from a module, which does not define it, if it
is found as a module: it is used, and stands inside the module exactly if both were found at one
place.  So it is however reference and name are written, as long as no comment in them brings in a
slash.  A module that is called `__init__` is different: its own directory is that of the package
above, where the name is not looked up. -/
theorem submodule_inside_iff {fs₀ : FileSystem} {path : Path} {scan : ScanSettings}
    {directory : Path} (loaded : load fs₀ directory scan = .ok p) {imports : ResolvedImports}
    (resolved : p.resolveImports fs path = .ok imports) :
    (p.localSources fs imports.statements).elements = Catalog.ofList
        ((imports.statements.filter (·.isLocal)).flatMap (p.contribution fs)) ∧
      ∀ s ∈ imports.statements, ∀ file segments, s.resolved = some file →
        segmentsOf s.reference = segments → '/' ∉ s.reference.toList →
        ∀ name ∈ s.names, name ∉ (offered fs s).map (·.name) → ∀ parts inner,
          segmentsOf name = parts → '/' ∉ name.toList →
          p.submodule fs s.reference s.level s.origin name = some inner →
          inner ∈ p.submodules fs s ∧
            (segments.getLast? ≠ some "__init__" → (Inside file parts inner ↔
              p.FoundTogether fs s.origin.names s.level segments parts)) ∧
            (parts.getLast? ≠ some "__init__" → (Inside file parts inner ↔
              ∃ base, p.EndsIn fs p.root.names s.origin.names s.level (segments ++ parts) base ∧
                interior file = base ++ segments)) := by
  obtain ⟨m, read, statements⟩ := exists_module_of_resolveImports resolved
  obtain ⟨names, proper, origin⟩ := canonicalize_of_module read
  obtain ⟨-, way, entries, hroot, reached⟩ := load_eq_ok loaded
  have hw : Proper way := (FileSystem.stands_of_resolve reached).proper
  refine ⟨(localSources_resolveImports resolved).1, ?_⟩
  intro s hs file segments found written slashless name hn undefined parts inner spelled
    slashless' inner_found
  rw [statements] at hs
  obtain ⟨r, hr, rfl⟩ := List.mem_map.1 hs
  have regular := m.regular_imports r hr
  have named : r.kind = .names := by
    by_contra not
    have := regular.names_eq_nil not
    simp [resolveRecord, this] at hn
  have used : inner ∈ p.submodules fs (p.resolveRecord fs (p.locate fs path) r) := by
    simp only [submodules, resolveRecord, named] at *
    exact List.mem_filterMap.2 ⟨name, List.mem_filter.2 ⟨hn, by simpa using undefined⟩, inner_found⟩
  refine ⟨used, ?_⟩
  have root : p.root.names = way := by rw [hroot, Path.names_absolute hw]
  have importer : (p.locate fs path).names = names := by rw [origin, Path.names_absolute proper]
  have stems : ∀ s ∈ segments, FileTree.isStem s = true := written ▸ stems_segmentsOf slashless
  have inner_stems : ∀ s ∈ parts, FileTree.isStem s = true :=
    spelled ▸ stems_segmentsOf slashless'
  have ne : parts ≠ [] := spelled ▸ segmentsOf_ne_nil (regular.starts_names name hn)
  have all_stems : ∀ s ∈ segments ++ parts, FileTree.isStem s = true := fun s hs =>
    (List.mem_append.1 hs).elim (stems s) (inner_stems s)
  have search {segments : List String} (stems : ∀ s ∈ segments, FileTree.isStem s = true)
      {reference : String} (spelled : segmentsOf reference = segments) :
      p.resolveModule fs reference r.level (p.locate fs path) =
        (searchOrder way names r.level segments).find?
          fun file => fs.isFile file && p.contains file :=
    resolveModule_of_names hroot hw proper (origin ▸ components_absolute proper) stems spelled
      r.level
  change segmentsOf r.reference = segments at written
  change p.resolveModule fs r.reference r.level (p.locate fs path) = some file at found
  change p.submodule fs r.reference r.level (p.locate fs path) name = some inner at inner_found
  rw [search stems written, ← root] at found
  rw [submodule, search all_stems (by rw [segmentsOf_append, written, spelled]), ← root]
    at inner_found
  obtain ⟨base, base', _, _, places⟩ :=
    exists_foundAt stems inner_stems (root ▸ hw) proper ne found inner_found
  have some : r.level = 0 → segments ≠ [] := fun flat =>
    written ▸ segmentsOf_ne_nil (regular.starts flat)
  rw [← importer] at places
  exact ⟨fun other => places.inside_iff_together stems inner_stems other some,
    places.inside_iff_interior stems inner_stems⟩

-- the package of `a.__init__` begins in the directory `a`, but names are looked up one further down
example : ¬ Inside ⟨"/p/a/__init__.py"⟩ ["x"] ⟨"/p/a/__init__/x.py"⟩ := by decide +kernel

/-- A project with two packages of one name, each with a module inside, and a module next to the
second that imports both. -/
def twoPackages : FileSystem :=
  ⟨[("p", .directory [
    ("a", .directory [("__init__.py", .file (.text "")), ("near.py", .file (.text ""))]),
    ("k", .directory [
      ("a", .directory [("far.py", .file (.text "def g(): pass"))]),
      ("m.py", .file (.text "from a import near, far"))])])], [], rfl⟩

/-- The statement of the importing module. -/
def twoPackagesStatement : ImportStatement :=
  ⟨"a", ["far", "near"], .names, 0, true, "from a import near, far", 1, some ⟨"/p/a/__init__.py"⟩,
    ⟨"/p/k/m.py"⟩⟩

/-- What the import leads to, and what it brings in. -/
theorem computed_twoPackages :
    ((ofNames ["p"]).resolveImports twoPackages ⟨"k/m.py"⟩).toOption.map
        (fun imports => (imports.modules, imports.statements)) =
      some (["a"], [twoPackagesStatement]) ∧
    (offered twoPackages twoPackagesStatement).map (·.name) = [] ∧
    (⟨"/p/k/m.py"⟩ : Path).names = ["p", "k", "m.py"] ∧
    ["near", "far"].map ((ofNames ["p"]).submodule twoPackages "a" 0 ⟨"/p/k/m.py"⟩) =
      [some ⟨"/p/a/near.py"⟩, some ⟨"/p/k/a/far.py"⟩] ∧
    ((ofNames ["p"]).localSources twoPackages [twoPackagesStatement]).elements.names = ["g"] ∧
    Inside ⟨"/p/a/__init__.py"⟩ ["near"] ⟨"/p/a/near.py"⟩ ∧
    ¬ Inside ⟨"/p/a/__init__.py"⟩ ["far"] ⟨"/p/k/a/far.py"⟩ := by
  decide +kernel

theorem resolveImports_twoPackages :
    (ofNames ["p"]).resolveImports twoPackages ⟨"k/m.py"⟩ =
      .ok ⟨["a"], [twoPackagesStatement]⟩ := by
  obtain ⟨⟨modules, statements⟩, resolved, values⟩ :=
    Option.map_eq_some_iff.1 computed_twoPackages.1
  obtain ⟨rfl, rfl⟩ := Prod.mk.inj values
  exact ok_of_toOption resolved

/-- The package is found from the root.  One name is found in it, and the other one, which it does
not have, in the other package. -/
theorem submodule_inside_iff_twoPackages :
    load twoPackages ⟨"/p"⟩ {} = .ok (ofNames ["p"]) ∧
      (Inside ⟨"/p/a/__init__.py"⟩ ["near"] ⟨"/p/a/near.py"⟩ ∧
        (ofNames ["p"]).FoundTogether twoPackages ["p", "k", "m.py"] 0 ["a"] ["near"]) ∧
      (¬ Inside ⟨"/p/a/__init__.py"⟩ ["far"] ⟨"/p/k/a/far.py"⟩ ∧
        ¬ (ofNames ["p"]).FoundTogether twoPackages ["p", "k", "m.py"] 0 ["a"] ["far"]) := by
  have loaded : load twoPackages ⟨"/p"⟩ {} = .ok (ofNames ["p"]) := rfl
  obtain ⟨-, empty, importer, files, -, near, far⟩ := computed_twoPackages
  obtain ⟨hn, hf, -⟩ := List.cons_eq_cons.1 files |>.imp_right List.cons_eq_cons.1
  have inside {name : String} {inner : Path} (hn : name ∈ ["far", "near"])
      (spelled : segmentsOf name = [name]) (slashless : '/' ∉ name.toList)
      (h : (ofNames ["p"]).submodule twoPackages "a" 0 ⟨"/p/k/m.py"⟩ name = some inner) :
      Inside ⟨"/p/a/__init__.py"⟩ [name] inner ↔
        (ofNames ["p"]).FoundTogether twoPackages ["p", "k", "m.py"] 0 ["a"] [name] := by
    rw [← importer]
    exact ((submodule_inside_iff loaded resolveImports_twoPackages).2 twoPackagesStatement
      (by simp) ⟨"/p/a/__init__.py"⟩ ["a"] rfl (by decide) (by decide) name hn (by simp [empty])
      [name] inner spelled slashless h).2.1 (by decide)
  refine ⟨loaded, ⟨near, (inside ?_ ?_ ?_ hn).1 near⟩, far, fun together => far ?_⟩
  · decide
  · decide
  · decide
  · exact (inside (by decide) (by decide) (by decide) hf).2 together

/-- What is defined in the other package is brought in, though it does not stand inside the package
that the import leads to. -/
theorem submodule_outside :
    (ofNames ["p"]).resolveImports twoPackages ⟨"k/m.py"⟩ = .ok ⟨["a"], [twoPackagesStatement]⟩ ∧
      twoPackagesStatement.resolved = some ⟨"/p/a/__init__.py"⟩ ∧
      (ofNames ["p"]).submodule twoPackages "a" 0 ⟨"/p/k/m.py"⟩ "far" = some ⟨"/p/k/a/far.py"⟩ ∧
      ((ofNames ["p"]).localSources twoPackages [twoPackagesStatement]).elements.names = ["g"] ∧
      ¬ Inside ⟨"/p/a/__init__.py"⟩ ["far"] ⟨"/p/k/a/far.py"⟩ := by
  obtain ⟨-, -, -, files, elements, -, far⟩ := computed_twoPackages
  obtain ⟨-, found, -⟩ := List.cons_eq_cons.1 files |>.imp_right List.cons_eq_cons.1
  exact ⟨resolveImports_twoPackages, rfl, found, elements, far⟩

end Project

end CallContext
