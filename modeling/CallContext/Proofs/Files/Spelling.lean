import CallContext.Proofs.Files.FileSystem

/-!
# Paths with the same components

Repeated slashes and dots in the middle of a path do not count, neither for its components nor on
the way through a file system.  At the end they do count for the file system: a file has nothing
behind it, not even a slash.

* `FileSystem.resolve_of_same` : paths with the same components lead to the same if both of them end
  in a part that does not count, or neither does,
* `FileSystem.resolve_join` : from a directory, however it is written, a name leads to its entry,
* `Path.plain_normalize` : a path from which the dots were taken is `Path.Plain`, and such paths are
  equal if they have the same components.
-/

namespace CallContext

/-- The component is a part that counts. -/
def Component.isPart : Component → Bool
  | .root => false
  | .current => false
  | _ => true

namespace Path

theorem same_self (p : Path) : p.same p = true := decide_eq_true rfl

theorem same_comm {p q : Path} : p.same q = true ↔ q.same p = true := by
  simp [same, eq_comm]

theorem same_trans {p q r : Path} (h : p.same q = true) (h' : q.same r = true) :
    p.same r = true := by
  simp_all [same]

/-! ### Components and parts -/

theorem text_component (part : String) : (component part).text = part := by
  unfold component
  split
  · next up => rw [up]; rfl
  · rfl

theorem isPart_component (part : String) : (component part).isPart = true := by
  unfold component
  split <;> rfl

/-- Parts that became components are found in them. -/
theorem filter_map_component (parts : List String) :
    ((parts.map component).filter Component.isPart).map Component.text = parts := by
  rw [List.filter_eq_self.2, List.map_map]
  · exact (List.map_congr_left fun part _ => text_component part).trans (List.map_id parts)
  · intro c hc
    obtain ⟨part, -, rfl⟩ := List.mem_map.1 hc
    exact isPart_component part

theorem parts_ne_nil (p : Path) : p.parts ≠ [] := by
  simpa [parts] using splitParts_ne_nil '/' p.text.toList

/-- The parts that count can be read off the components. -/
theorem filter_parts (p : Path) :
    p.parts.filter (!isIdle ·) = (p.components.filter Component.isPart).map Component.text := by
  obtain ⟨first, more, split⟩ := List.exists_cons_of_ne_nil p.parts_ne_nil
  have others := filter_map_component (more.filter (!isIdle ·))
  simp only [components, split]
  by_cases empty : first = ""
  · rw [if_pos empty, List.filter_cons_of_neg (by simp [empty, isIdle])]
    split
    · rw [List.filter_cons_of_neg (by simp [Component.isPart]), others]
    · exact others.symm
  · by_cases dot : first = "."
    · rw [if_neg empty, if_pos dot, List.filter_cons_of_neg (by simp [dot, isIdle]),
        List.filter_cons_of_neg (by simp [Component.isPart]), others]
    · rw [if_neg empty, if_neg dot, List.filter_cons_of_pos (by simp [empty, dot, isIdle]),
        List.filter_cons_of_pos (isPart_component first), List.map_cons, others, text_component]

/-- Only an absolute path and the empty one have nothing before the first slash. -/
theorem head?_parts {p : Path} (h : p.parts.head? = some "") :
    p.isAbsolute = true ∨ p.text = "" := by
  cases text : p.text.toList with
  | nil => exact .inr (String.toList_eq_nil_iff.1 text)
  | cons c cs =>
    refine .inl ?_
    by_cases slash : c = '/'
    · simp [isAbsolute, text, slash]
    · exfalso
      rw [parts, text, splitParts, if_neg slash] at h
      split at h <;> simp at h

/-- A component is the beginning of the path or a part that counts. -/
theorem mem_components {p : Path} {c : Component} (h : c ∈ p.components) :
    (c = .root ∧ p.isAbsolute = true) ∨ c = .current ∨
      ∃ part ∈ p.parts, isIdle part = false ∧ c = component part := by
  obtain ⟨first, more, split⟩ := List.exists_cons_of_ne_nil p.parts_ne_nil
  have others (hc : c ∈ (more.filter (!isIdle ·)).map component) :
      ∃ part ∈ p.parts, isIdle part = false ∧ c = component part := by
    obtain ⟨part, hp, rfl⟩ := List.mem_map.1 hc
    obtain ⟨mem, busy⟩ := List.mem_filter.1 hp
    exact ⟨part, split ▸ List.mem_cons_of_mem first mem, by simpa using busy, rfl⟩
  simp only [components, split] at h
  split_ifs at h with empty absolute dot
  · rcases List.mem_cons.1 h with rfl | h
    · exact .inl ⟨rfl, absolute⟩
    · exact .inr (.inr (others h))
  · exact .inr (.inr (others h))
  · rcases List.mem_cons.1 h with rfl | h
    · exact .inr (.inl rfl)
    · exact .inr (.inr (others h))
  · rcases List.mem_cons.1 h with rfl | h
    · exact .inr (.inr ⟨first, by simp [split], by simp [isIdle, empty, dot], rfl⟩)
    · exact .inr (.inr (others h))

theorem root_not_mem_components {p : Path} (h : p.isAbsolute = false) : .root ∉ p.components := by
  intro root
  rcases mem_components root with ⟨-, absolute⟩ | current | ⟨part, -, -, same⟩
  · simp [h] at absolute
  · cases current
  · exact root_not_mem_component [part] (by simp [same])

theorem isAbsolute_eq (p : Path) : p.isAbsolute = decide (p.components.head? = some .root) := by
  cases absolute : p.isAbsolute with
  | true => simp [components_of_isAbsolute absolute]
  | false =>
    have other : p.components.head? ≠ some .root := fun head =>
      root_not_mem_components absolute (List.mem_of_mem_head? head)
    simp [other]

theorem components_eq_nil {p : Path} : p.components = [] ↔ p.text = "" := by
  constructor
  · intro none
    obtain ⟨first, more, split⟩ := List.exists_cons_of_ne_nil p.parts_ne_nil
    simp only [components, split] at none
    split_ifs at none with empty absolute
    have := head?_parts (p := p) (by rw [split, empty]; rfl)
    simpa [absolute] using this
  · intro empty
    rw [show p = ⟨""⟩ from congrArg mk empty]
    rfl

/-! ### Ends of paths -/

/-- The last part does not count. -/
def endIdle (parts : List String) : Bool := parts.getLast?.any isIdle

/-- The path ends in a slash or a dot. -/
def endsIdle (p : Path) : Bool := endIdle p.parts

/-- The parts that count, and an empty one behind them if there was any. -/
def tidy : List String → List String
  | [] => []
  | part :: rest =>
    if isIdle part then
      if rest.isEmpty then [""] else tidy rest
    else part :: tidy rest

theorem tidy_eq (parts : List String) :
    tidy parts = parts.filter (!isIdle ·) ++ if endIdle parts then [""] else [] := by
  fun_induction tidy parts with
  | case1 => rfl
  | case2 part rest idle none => simp_all [endIdle]
  | case3 part rest idle more ih =>
    have ne : rest ≠ [] := by simpa using more
    simp [ih, endIdle, idle, List.getLast?_cons, List.getLast?_eq_some_getLast ne]
  | case4 part rest busy ih =>
    cases rest with
    | nil => simp_all [endIdle]
    | cons next more => simp_all [endIdle, List.getLast?_cons]

theorem isEmpty_tidy (parts : List String) : (tidy parts).isEmpty = parts.isEmpty := by
  fun_induction tidy parts <;> simp_all

theorem tidy_tidy (parts : List String) : tidy (tidy parts) = tidy parts := by
  fun_induction tidy parts with
  | case1 => rfl
  | case2 => rfl
  | case3 part rest idle more ih => exact ih
  | case4 part rest busy ih => rw [tidy, if_neg busy, ih]

/-- What comes behind some parts can be tidied first. -/
theorem tidy_append_tidy (front back : List String) :
    tidy (front ++ tidy back) = tidy (front ++ back) := by
  induction front with
  | nil => exact tidy_tidy back
  | cons part rest ih =>
    have empty : (rest ++ tidy back).isEmpty = (rest ++ back).isEmpty := by
      cases rest with
      | nil => exact isEmpty_tidy back
      | cons next more => rfl
    rw [List.cons_append, List.cons_append, tidy, tidy, ih, empty]

/-- Paths with the same components have the same parts up to those that do not count, if they end
in the same way. -/
theorem tidy_parts_of_same {p q : Path} (same : p.same q = true) (ends : p.endsIdle = q.endsIdle) :
    tidy p.parts = tidy q.parts := by
  have components : p.components = q.components := of_decide_eq_true same
  rw [tidy_eq, tidy_eq, filter_parts, filter_parts, components]
  exact congrArg (fun ends : Bool => _ ++ if ends then [""] else []) ends

end Path

/-! ### Following paths -/

namespace FileSystem

/-- The step with the parts tidied that are not followed yet. -/
def Step.tidy : Step → Step
  | .atLink directory target rest => .atLink directory target (Path.tidy rest)
  | .absent names rest => .absent names (Path.tidy rest)
  | step => step

theorem follow_tidy (chain : Chain) (parts : List String) :
    follow chain (Path.tidy parts) = (follow chain parts).tidy := by
  induction parts generalizing chain with
  | nil => rfl
  | cons part rest ih =>
    by_cases idle : Path.isIdle part = true
    · rw [follow_cons_of_isIdle idle, ← ih, Path.tidy, if_pos idle]
      split
      · next none =>
        rw [List.isEmpty_iff.1 none]
        rfl
      · rfl
    · rw [Path.tidy, if_neg idle, follow, follow, if_neg idle, if_neg idle]
      split
      · exact ih (leave chain)
      · split
        · rfl
        · exact ih _
        · rfl
        · rw [Path.isEmpty_tidy]
          split <;> rfl

theorem tidy_follow_congr {parts parts' : List String} (h : Path.tidy parts = Path.tidy parts')
    (chain : Chain) : (follow chain parts).tidy = (follow chain parts').tidy := by
  rw [← follow_tidy, h, follow_tidy]

/-- Steps that are equal when they are tidied stand at the same link, or neither stands at one. -/
theorem Step.cases_of_tidy {step step' : Step} (h : step.tidy = step'.tidy) :
    (∃ directory target rest rest', step = .atLink directory target rest ∧
      step' = .atLink directory target rest' ∧ Path.tidy rest = Path.tidy rest') ∨
    (∀ directory target rest, step ≠ .atLink directory target rest) ∧
      ∀ directory target rest, step' ≠ .atLink directory target rest := by
  cases step with
  | atLink directory target rest =>
    cases step' with
    | atLink directory' target' rest' =>
      obtain ⟨rfl, rfl, behind⟩ := Step.atLink.inj h
      exact .inl ⟨directory, target, rest, rest', rfl, rfl, behind⟩
    | _ => cases h
  | _ =>
    refine .inr ⟨nofun, ?_⟩
    rintro _ _ _ rfl
    cases h

theorem followLinks_of_not_atLink {fs : FileSystem} {chain : Chain} {parts : List String}
    (h : ∀ directory target rest, follow chain parts ≠ .atLink directory target rest)
    (links : Nat) : fs.followLinks links chain parts = .ok (follow chain parts) := by
  cases links <;> rw [followLinks] <;> split <;> simp_all

/-- Parts that do not count change nothing on the way, but for the last. -/
theorem tidy_followLinks_congr {fs : FileSystem} {parts parts' : List String}
    (h : Path.tidy parts = Path.tidy parts') (links : Nat) (chain : Chain) :
    (fs.followLinks links chain parts).map Step.tidy =
      (fs.followLinks links chain parts').map Step.tidy := by
  have same := tidy_follow_congr h chain
  rcases Step.cases_of_tidy same with
    ⟨directory, target, rest, rest', step, step', behind⟩ | ⟨no, no'⟩
  · cases links with
    | zero => rw [followLinks, followLinks, step, step']
    | succ links =>
      rw [followLinks_of_atLink step, followLinks_of_atLink step']
      refine tidy_followLinks_congr ?_ links _
      rw [← Path.tidy_append_tidy, behind, Path.tidy_append_tidy]
  · rw [followLinks_of_not_atLink no, followLinks_of_not_atLink no']
    exact congrArg Except.ok same

theorem reach_of_same (fs : FileSystem) {p q : Path} (same : p.same q = true)
    (ends : p.endsIdle = q.endsIdle) :
    (fs.reach p).map Step.tidy = (fs.reach q).map Step.tidy := by
  have components : p.components = q.components := of_decide_eq_true same
  have absolute : p.isAbsolute = q.isAbsolute := by
    rw [Path.isAbsolute_eq, Path.isAbsolute_eq, components]
  have parts := Path.tidy_parts_of_same same ends
  by_cases empty : p.text = ""
  · have : q.text = "" := Path.components_eq_nil.1 (components ▸ Path.components_eq_nil.2 empty)
    rw [reach, reach, if_pos empty, if_pos this]
  · have : q.text ≠ "" := fun h =>
      empty (Path.components_eq_nil.1 (components ▸ Path.components_eq_nil.2 h))
    rw [reach, reach, if_neg empty, if_neg this, absolute]
    refine tidy_followLinks_congr ?_ 40 _
    split
    · exact parts
    · rw [← Path.tidy_append_tidy, parts, Path.tidy_append_tidy]

/-- Paths with the same components that end in the same way lead to the same. -/
theorem resolve_of_same {fs : FileSystem} {p q : Path} (same : p.same q = true)
    (ends : p.endsIdle = q.endsIdle) : fs.resolve p = fs.resolve q := by
  have reached := reach_of_same fs same ends
  unfold resolve
  cases hp : fs.reach p with
  | error e =>
    cases hq : fs.reach q with
    | error e' =>
      rw [hp, hq] at reached
      cases reached
      rfl
    | ok step' => simp [hp, hq, Except.map] at reached
  | ok step =>
    cases hq : fs.reach q with
    | error e' => simp [hp, hq, Except.map] at reached
    | ok step' =>
      rw [hp, hq] at reached
      have tidied : step.tidy = step'.tidy := Except.ok.inj reached
      -- what is tidied away does not show in the outcome
      cases step <;> cases step' <;> simp_all [Step.tidy]

/-! ### Entries of a directory -/

/-- Parts that do not count make no difference where a path arrives, if they are not at its end. -/
theorem followLinks_of_tidy {fs : FileSystem} {parts parts' names : List String}
    {tree : FileTree} {links : Nat} {chain : Chain} (same : Path.tidy parts = Path.tidy parts')
    (h : fs.followLinks links chain parts = .ok (.arrived names tree)) :
    fs.followLinks links chain parts' = .ok (.arrived names tree) := by
  have tidied : (fs.followLinks links chain parts).map Step.tidy = _ :=
    tidy_followLinks_congr same links chain
  rw [h] at tidied
  cases step : fs.followLinks links chain parts' with
  | error e => simp [step, Except.map] at tidied
  | ok reached =>
    rw [step] at tidied
    have arrived : Step.arrived names tree = reached.tidy := Except.ok.inj tidied
    cases reached <;> simp_all [Step.tidy]

/-- From a directory, a name leads to its entry, unless that is a link. -/
theorem resolve_join {fs : FileSystem} {directory : Path} (rooted : directory.isAbsolute = true)
    {names : List String} {entries : Entries}
    (h : fs.resolve directory = .ok (names, .directory entries)) {name : String}
    {tree : FileTree} (hm : (name, tree) ∈ entries) (solid : ∀ target, tree ≠ .link target) :
    fs.resolve (directory.join ⟨name⟩) = .ok (names ++ [name], tree) := by
  have proper := (FileTree.of_mem_entries (wellNamed_of_resolve h) hm).1
  obtain ⟨front, ending, -, idle, before, behind⟩ :=
    parts_join directory (Path.text_ne_empty_of_isAbsolute rooted) proper
  have reached := reach_of_resolve h
  rw [reach_of_isAbsolute rooted] at reached
  obtain ⟨links, chain, grounded, rfl, rfl, onward⟩ :=
    (Grounded.root.of_followLinks (slashless_parts directory) reached).2 entries rfl
  -- behind the parts of the directory, the name leads to its entry
  have arrived : fs.followLinks links chain [name] = _ :=
    followLinks_of_arrived (grounded.follow_entry hm solid) links
  rw [← onward] at arrived
  have same : Path.tidy (directory.parts ++ [name]) = Path.tidy (directory.join ⟨name⟩).parts := by
    have none : ending.filter (!Path.isIdle ·) = [] :=
      List.filter_eq_nil_iff.2 fun part hp => by simp [idle part hp]
    simp [before, behind, Path.tidy_eq, Path.endIdle, none]
  refine resolve_of_reach ?_
  rw [reach_of_isAbsolute (Path.isAbsolute_join rooted _)]
  exact followLinks_of_tidy same arrived

end FileSystem

/-! ### Paths without dots -/

namespace Path

open FileSystem (absolute Proper)

/-- The path consists of names that entries can have, from the root or not. -/
inductive Plain : Path → Prop where
  | absolute {names : List String} (proper : Proper names) : Plain (absolute names)
  | relative {names : List String} (proper : Proper names) : Plain ⟨joinTexts "/" names⟩

theorem components_relative {names : List String} (h : Proper names) :
    components ⟨joinTexts "/" names⟩ = names.map .name := by
  have busy : ∀ s ∈ names, isIdle s = false := h.busy
  have named : ∀ s ∈ names, component s = .name s := fun s hs =>
    if_neg (FileTree.isName_iff.1 (h s hs)).2.1
  rw [components_joinTexts h.slashless fun s hs => busy s (List.mem_of_mem_head? hs),
    List.filter_eq_self.2 fun s hs => by simp [busy s hs], List.map_congr_left named]

/-- Such a path is known by its components. -/
theorem Plain.eq_of_same {p q : Path} (hp : p.Plain) (hq : q.Plain) (same : p.same q = true) :
    p = q := by
  have components : p.components = q.components := of_decide_eq_true same
  have named {ss ts : List String} (h : ss.map Component.name = ts.map .name) : ss = ts :=
    (List.map_inj_right fun _ _ => Component.name.inj).1 h
  have rooted {ss ts : List String} : .root :: ss.map Component.name ≠ ts.map .name := by
    cases ts <;> simp
  cases hp with
  | absolute proper =>
    rw [FileSystem.components_absolute proper] at components
    cases hq with
    | absolute proper' =>
      rw [FileSystem.components_absolute proper'] at components
      rw [named (List.cons.inj components).2]
    | relative proper' =>
      rw [components_relative proper'] at components
      exact absurd components rooted
  | relative proper =>
    rw [components_relative proper] at components
    cases hq with
    | absolute proper' =>
      rw [FileSystem.components_absolute proper'] at components
      exact absurd components.symm rooted
    | relative proper' =>
      rw [components_relative proper'] at components
      rw [named components]

/-- Two dots take the last name away, if there is one. -/
theorem foldComponent_parent {front : List Component} (hf : ∀ s, front.getLast? ≠ some (.name s))
    (names : List String) :
    foldComponent (front ++ names.map .name) .parent = front ++ names.dropLast.map .name := by
  by_cases none : names = []
  · rw [none, List.dropLast_nil, List.map_nil, List.append_nil, foldComponent]
    split
    · next s last => exact absurd last (hf s)
    · rfl
  · obtain ⟨before, last, rfl⟩ : ∃ before last, names = before ++ [last] :=
      ⟨_, _, (List.dropLast_concat_getLast none).symm⟩
    have split : front ++ (before ++ [last]).map Component.name =
        (front ++ before.map .name) ++ [.name last] := by
      simp
    rw [split, foldComponent, List.getLast?_concat, List.dropLast_concat, List.dropLast_concat]

/-- Names and dots behind the front are folded into names. -/
theorem exists_foldl_foldComponent (front : List Component)
    (hf : ∀ s, front.getLast? ≠ some (.name s)) {cs : List Component} (noRoot : .root ∉ cs)
    (proper : ∀ s, .name s ∈ cs → FileTree.isName s = true) {names : List String}
    (h : Proper names) :
    ∃ names', Proper names' ∧
      cs.foldl foldComponent (front ++ names.map .name) = front ++ names'.map .name := by
  induction cs generalizing names with
  | nil => exact ⟨names, h, rfl⟩
  | cons c cs ih =>
    have onward {names : List String} (h : Proper names) :=
      ih (fun root => noRoot (List.mem_cons_of_mem c root))
        (fun s hs => proper s (List.mem_cons_of_mem c hs)) h
    rw [List.foldl_cons]
    cases c with
    | root => exact absurd List.mem_cons_self noRoot
    | current => exact onward h
    | parent =>
      rw [foldComponent_parent hf]
      exact onward fun s hs => h s (List.dropLast_subset names hs)
    | name s =>
      have step : foldComponent (front ++ names.map .name) (.name s) =
          front ++ (names ++ [s]).map .name := by
        simp [foldComponent]
      rw [step]
      exact onward (h.append (.singleton (proper s List.mem_cons_self)))

theorem isName_of_mem_components {p : Path} {s : String} (h : .name s ∈ p.components) :
    FileTree.isName s = true := by
  rcases mem_components h with ⟨root, -⟩ | current | ⟨part, mem, busy, same⟩
  · cases root
  · cases current
  · unfold component at same
    split at same
    · cases same
    · next up =>
      cases same
      exact FileTree.isName_iff.2 ⟨busy, up, not_mem_of_mem_parts mem⟩

theorem map_text_name (names : List String) :
    (names.map Component.name).map Component.text = names := by
  rw [List.map_map]
  exact List.map_id names

theorem ofComponents_root (names : List String) :
    ofComponents (.root :: names.map .name) = absolute names := by
  rw [ofComponents, map_text_name, absolute]

theorem ofComponents_name (names : List String) :
    ofComponents (names.map .name) = ⟨joinTexts "/" names⟩ := by
  have text := map_text_name names
  cases names with
  | nil => rfl
  | cons s ss =>
    rw [List.map_cons] at text ⊢
    rw [ofComponents, text]
    nofun

theorem normalize_of_isAbsolute {p : Path} (h : p.isAbsolute = true) :
    ∃ names, Proper names ∧ p.normalize = absolute names := by
  have inner (s : String) (hs : .name s ∈ p.components) := isName_of_mem_components hs
  have none : Proper [] := nofun
  rw [normalize]
  rw [components_of_isAbsolute h] at inner ⊢
  obtain ⟨names, proper, folded⟩ := exists_foldl_foldComponent [.root] nofun
    (root_not_mem_component _) (fun s hs => inner s (List.mem_cons_of_mem _ hs)) none
  refine ⟨names, proper, ?_⟩
  rw [List.foldl_cons, show foldComponent [] .root = [.root] ++ [].map .name from rfl, folded,
    List.singleton_append, ofComponents_root]

theorem normalize_of_relative {p : Path} (h : p.isAbsolute = false) :
    ∃ names, Proper names ∧ p.normalize = ⟨joinTexts "/" names⟩ := by
  have inner (s : String) (hs : .name s ∈ p.components) := isName_of_mem_components hs
  have none : Proper [] := nofun
  obtain ⟨names, proper, folded⟩ := exists_foldl_foldComponent [] nofun
    (root_not_mem_components h) inner none
  refine ⟨names, proper, ?_⟩
  rw [normalize, show ([] : List Component) = [] ++ [].map .name from rfl, folded, List.nil_append,
    ofComponents_name]

/-- A path without dots is plain. -/
theorem plain_normalize (p : Path) : p.normalize.Plain := by
  cases absolute : p.isAbsolute with
  | true =>
    obtain ⟨names, proper, normal⟩ := normalize_of_isAbsolute absolute
    exact normal ▸ .absolute proper
  | false =>
    obtain ⟨names, proper, normal⟩ := normalize_of_relative absolute
    exact normal ▸ .relative proper

theorem isAbsolute_normalize (p : Path) : p.normalize.isAbsolute = p.isAbsolute := by
  cases absolute : p.isAbsolute with
  | true =>
    obtain ⟨names, -, normal⟩ := normalize_of_isAbsolute absolute
    rw [normal, FileSystem.isAbsolute_absolute]
  | false =>
    obtain ⟨names, proper, normal⟩ := normalize_of_relative absolute
    rw [normal, FileSystem.isAbsolute_joinTexts proper]

end Path

end CallContext
