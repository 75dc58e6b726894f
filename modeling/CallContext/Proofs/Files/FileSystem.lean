import CallContext.Files.FileSystem
import CallContext.Proofs.Files.Path

/-!
# Where paths lead to

A path is followed from the root of the file system.  The directories on the way form a chain that
is `Grounded`: each stands in the one before it.  So what a path leads to `Stands` at the end of the
names on the way, and is found there again:

* `FileSystem.resolve_absolute` : the path along these names leads to the same file or directory,
* `FileSystem.canonicalize_of_canonicalize` : a path without dots and links stays as it is,
* `FileSystem.Grounded.follow_entry` : from a directory, a name leads to its entry.
-/

namespace CallContext

/-! ### Names of entries -/

namespace FileTree

theorem isName_iff {s : String} :
    isName s = true ↔ Path.isIdle s = false ∧ s ≠ ".." ∧ '/' ∉ s.toList := by
  simp [isName, and_assoc]

theorem areWellNamed_cons {name : String} {tree : FileTree} {more : Entries} :
    areWellNamed ((name, tree) :: more) = true ↔
      isName name = true ∧ (∀ entry ∈ more, entry.1 ≠ name) ∧ tree.isWellNamed = true ∧
        areWellNamed more = true := by
  simp [areWellNamed, and_assoc]

/-- An entry has a proper name, is found under it, and is well named itself. -/
theorem of_mem_entries {entries : Entries} (h : areWellNamed entries = true) {name : String}
    {tree : FileTree} (hm : (name, tree) ∈ entries) :
    isName name = true ∧ entries.lookup name = some tree ∧ tree.isWellNamed = true := by
  induction entries with
  | nil => cases hm
  | cons entry more ih =>
    obtain ⟨proper, different, inner, rest⟩ := areWellNamed_cons.1 h
    rcases List.mem_cons.1 hm with rfl | later
    · exact ⟨proper, List.lookup_cons_self, inner⟩
    · obtain ⟨proper', found, inner'⟩ := ih rest later
      have other : (name == entry.1) = false := beq_false_of_ne (different _ later)
      exact ⟨proper', by rw [List.lookup_cons, other, found], inner'⟩

theorem mem_of_lookup {entries : Entries} {name : String} {tree : FileTree}
    (h : entries.lookup name = some tree) : (name, tree) ∈ entries := by
  obtain ⟨before, after, rfl, -⟩ := List.lookup_eq_some_iff.1 h
  simp

end FileTree

/-! ### Paths along names -/

namespace FileSystem

/-- All parts are free of slashes, as the parts of a path are. -/
def Slashless (parts : List String) : Prop := ∀ s ∈ parts, '/' ∉ s.toList

theorem slashless_parts (p : Path) : Slashless p.parts := fun _ => Path.not_mem_of_mem_parts

theorem Slashless.append {front back : List String} (h : Slashless front) (h' : Slashless back) :
    Slashless (front ++ back) :=
  List.forall_mem_append.2 ⟨h, h'⟩

theorem parts_absolute {names : List String} (h : Slashless names) :
    (absolute names).parts = "" :: if names = [] then [""] else names := by
  have parts : (absolute names).parts = "" :: Path.parts ⟨joinTexts "/" names⟩ := by
    simp [absolute, Path.parts, splitParts]
  rw [parts]
  split
  · next none => rw [none]; rfl
  · next some => rw [Path.parts_joinTexts some h]

/-- All of a list are names that entries can have. -/
def Proper (names : List String) : Prop := ∀ s ∈ names, FileTree.isName s = true

theorem Proper.slashless {names : List String} (h : Proper names) : Slashless names :=
  fun s hs => (FileTree.isName_iff.1 (h s hs)).2.2

theorem Proper.busy {names : List String} (h : Proper names) :
    ∀ s ∈ names, Path.isIdle s = false :=
  fun s hs => (FileTree.isName_iff.1 (h s hs)).1

theorem Proper.append {front back : List String} (h : Proper front) (h' : Proper back) :
    Proper (front ++ back) :=
  List.forall_mem_append.2 ⟨h, h'⟩

theorem Proper.singleton {name : String} (h : FileTree.isName name = true) : Proper [name] :=
  List.forall_mem_singleton.2 h

theorem toList_ne_nil_of_isName {s : String} (h : FileTree.isName s = true) : s.toList ≠ [] := by
  intro none
  rw [String.toList_eq_nil_iff.1 none] at h
  cases h

theorem components_absolute {names : List String} (h : Proper names) :
    (absolute names).components = .root :: names.map .name := by
  have named : ∀ s ∈ names, Path.component s = .name s := fun s hs =>
    if_neg (FileTree.isName_iff.1 (h s hs)).2.1
  have counted : (absolute names).parts.tail.filter (!Path.isIdle ·) = names := by
    rw [parts_absolute h.slashless, List.tail_cons]
    split
    · next none => rw [none]; rfl
    · exact List.filter_eq_self.2 fun s hs => by simp [h.busy s hs]
  rw [Path.components_of_isAbsolute (isAbsolute_absolute names), counted,
    List.map_congr_left named]

theorem isAbsolute_joinTexts {names : List String} (h : Proper names) :
    Path.isAbsolute ⟨joinTexts "/" names⟩ = false := by
  cases names with
  | nil => rfl
  | cons s ss =>
    have proper := h s List.mem_cons_self
    obtain ⟨c, cs, text⟩ := List.exists_cons_of_ne_nil (toList_ne_nil_of_isName proper)
    have other : c ≠ '/' := fun slash => by
      have := (FileTree.isName_iff.1 proper).2.2
      simp [text, slash] at this
    cases ss <;> simp [Path.isAbsolute, joinTexts, text, other]

theorem isAbsolute_name {name : String} (h : FileTree.isName name = true) :
    Path.isAbsolute ⟨name⟩ = false := by
  have relative := isAbsolute_joinTexts (.singleton h)
  rwa [joinTexts] at relative

/-- A name behind a directory is a part behind those of the directory; an empty one at the end makes
way for it. -/
theorem parts_join (directory : Path) {name : String} (written : directory.text ≠ "")
    (proper : FileTree.isName name = true) :
    ∃ front ending, front ≠ [] ∧ (∀ part ∈ ending, Path.isIdle part = true) ∧
      directory.parts = front ++ ending ∧ (directory.join ⟨name⟩).parts = front ++ [name] := by
  have last := splitParts_of_not_mem (FileTree.isName_iff.1 proper).2.2
  rw [Path.join, if_neg (by simp [isAbsolute_name proper])]
  by_cases slash : directory.text.toList.getLast? = some '/'
  · obtain ⟨front, text⟩ := List.getLast?_eq_some_iff.1 slash
    refine ⟨(splitParts '/' front).map String.ofList, [""], by simp [splitParts_ne_nil],
      by simp [Path.isIdle], ?_, ?_⟩
    · rw [Path.parts, text, splitParts_append_mark]
      simp [splitParts]
    · rw [if_pos (by simp [slash]), Path.parts, String.toList_append, text, List.append_assoc,
        List.singleton_append, splitParts_append_mark, last]
      simp
  · refine ⟨directory.parts, [], by simp [Path.parts, splitParts_ne_nil], by simp, by simp, ?_⟩
    rw [if_neg (by simp [slash, written]), Path.parts, Path.parts, String.toList_append,
      String.toList_append, List.append_assoc]
    change (splitParts '/' (_ ++ '/' :: name.toList)).map _ = _
    rw [splitParts_append_mark, last]
    simp

theorem components_join {directory : Path} (h : directory.isAbsolute = true) {name : String}
    (proper : FileTree.isName name = true) :
    (directory.join ⟨name⟩).components = directory.components ++ [.name name] := by
  obtain ⟨front, ending, ne, idle, before, after⟩ :=
    parts_join directory (Path.text_ne_empty_of_isAbsolute h) proper
  have none : ending.filter (!Path.isIdle ·) = [] :=
    List.filter_eq_nil_iff.2 fun part hp => by simp [idle part hp]
  obtain ⟨busy, up, -⟩ := FileTree.isName_iff.1 proper
  rw [Path.components_of_isAbsolute (Path.isAbsolute_join h _), Path.components_of_isAbsolute h,
    before, after, List.tail_append_of_ne_nil ne, List.tail_append_of_ne_nil ne]
  simp [none, busy, Path.component, up]

theorem getLast?_absolute {names : List String} (h : Proper names) (ne : names ≠ []) :
    (absolute names).text.toList.getLast? ≠ some '/' := by
  obtain ⟨before, last, rfl⟩ : ∃ before last, names = before ++ [last] :=
    ⟨_, _, (List.dropLast_concat_getLast ne).symm⟩
  have proper := h last (by simp)
  have ends : ∃ front, (absolute (before ++ [last])).text.toList = front ++ last.toList := by
    by_cases none : before = []
    · exact ⟨['/'], by simp [none, absolute, joinTexts]⟩
    · refine ⟨'/' :: ((joinTexts "/" before).toList ++ ['/']), ?_⟩
      rw [absolute, joinTexts_append "/" none (by simp)]
      simp [joinTexts]
  obtain ⟨front, text⟩ := ends
  rw [text, List.getLast?_append, List.getLast?_eq_some_getLast (toList_ne_nil_of_isName proper)]
  intro slash
  have mem := List.getLast_mem (toList_ne_nil_of_isName proper)
  rw [Option.some.inj slash] at mem
  exact (FileTree.isName_iff.1 proper).2.2 mem

/-- Names behind a directory lengthen the way. -/
theorem join_absolute {front back : List String} (hf : Proper front) (hb : Proper back)
    (ne : back ≠ []) : (absolute front).join ⟨joinTexts "/" back⟩ = absolute (front ++ back) := by
  rw [Path.join, if_neg (by simp [isAbsolute_joinTexts hb])]
  by_cases none : front = []
  · simp [none, absolute, joinTexts]
  · have inner :
        ¬ ((absolute front).text = "" ∨ (absolute front).text.toList.getLast? = some '/') := by
      rintro (empty | slash)
      · simp [absolute] at empty
      · exact getLast?_absolute hf none slash
    rw [if_neg (by simpa using inner), absolute, absolute, joinTexts_append "/" none ne]
    simp [String.append_assoc]

/-- What remains behind a directory on the way. -/
theorem stripDirectory?_absolute {front back : List String} (hf : Proper front) (hb : Proper back)
    (ne : back ≠ []) :
    (absolute (front ++ back)).stripDirectory? (absolute front) = some ⟨joinTexts "/" back⟩ := by
  have starts : (absolute (front ++ back)).startsWith (absolute front) = true := by
    rw [Path.startsWith, components_absolute hf, components_absolute (hf.append hb),
      List.isPrefixOf_iff_prefix, List.map_append]
    exact ⟨back.map .name, rfl⟩
  have tail : (absolute (front ++ back)).parts.tail = front ++ back := by
    rw [parts_absolute (hf.append hb).slashless, if_neg (by simp [ne]), List.tail_cons]
  have length : (absolute front).components.length - 1 = front.length := by
    rw [components_absolute hf]
    simp
  rw [Path.stripDirectory?, if_pos starts, length, tail, Path.dropParts_append hf.busy]
  exact congrArg (fun parts => some (Path.mk (joinTexts "/" parts))) (Path.trim_of_busy hb.busy)

/-- Parts that do not count change nothing. -/
theorem follow_cons_of_isIdle {part : String} (h : Path.isIdle part = true) (chain : Chain)
    (rest : List String) : follow chain (part :: rest) = follow chain rest := by
  rw [follow, if_pos h]

theorem follow_parts_absolute {names : List String} (h : Slashless names) (chain : Chain)
    (rest : List String) :
    follow chain ((absolute names).parts ++ rest) = follow chain (names ++ rest) := by
  rw [parts_absolute h, List.cons_append, follow_cons_of_isIdle rfl]
  split
  · next none => rw [none, List.singleton_append, follow_cons_of_isIdle rfl, List.nil_append]
  · rfl

/-! ### Chains of directories -/

variable {fs : FileSystem} {chain : Chain}

/-- The chain leads from the root of the file system through directories. -/
inductive Grounded (fs : FileSystem) : Chain → Prop where
  | root : Grounded fs fs.rootChain
  | enter {chain : Chain} {name : String} {inner : Entries} (above : Grounded fs chain)
    (proper : FileTree.isName name = true)
    (found : (chainEntries chain).lookup name = some (.directory inner)) :
    Grounded fs ((name, inner) :: chain)

namespace Grounded

theorem ne_nil (h : Grounded fs chain) : chain ≠ [] := by
  cases h <;> simp [rootChain]

theorem leave (h : Grounded fs chain) : Grounded fs (leave chain) := by
  cases h with
  | root => exact .root
  | @enter chain name inner above proper found =>
    match chain, above with
    | [], above => exact absurd rfl above.ne_nil
    | _ :: _, above => exact above

theorem chainNames_cons (h : Grounded fs chain) (name : String) (inner : Entries) :
    chainNames ((name, inner) :: chain) = chainNames chain ++ [name] := by
  have nonempty : (chain.map (·.1)).reverse ≠ [] := by simpa using h.ne_nil
  rw [chainNames, chainNames, List.map_cons, List.reverse_cons, List.tail_append_of_ne_nil nonempty]

theorem proper (h : Grounded fs chain) : Proper (chainNames chain) := by
  induction h with
  | root =>
    intro name hn
    cases hn
  | enter above proper _ ih =>
    rw [above.chainNames_cons]
    exact ih.append (.singleton proper)

/-- Every directory of the chain is well named. -/
theorem wellNamed (h : Grounded fs chain) :
    FileTree.areWellNamed (chainEntries chain) = true := by
  induction h with
  | root => exact fs.wellNamed
  | enter above _ found ih =>
    have := (FileTree.of_mem_entries ih (FileTree.mem_of_lookup found)).2.2
    rwa [FileTree.isWellNamed] at this

end Grounded

/-- A name leads to the entry that the directory has under it. -/
theorem follow_cons_of_isName {name : String} (proper : FileTree.isName name = true)
    (chain : Chain) (rest : List String) :
    follow chain (name :: rest) =
      match (chainEntries chain).lookup name with
      | none => .absent (chainNames chain ++ [name]) rest
      | some (.directory inner) => follow ((name, inner) :: chain) rest
      | some (.link target) => .atLink chain target rest
      | some (.file content) =>
        if rest.isEmpty then .arrived (chainNames chain ++ [name]) (.file content)
        else .blocked := by
  obtain ⟨busy, up, -⟩ := FileTree.isName_iff.1 proper
  rw [follow, if_neg (by simp [busy])]
  exact if_neg up

theorem follow_directory {name : String} {inner : Entries} (proper : FileTree.isName name = true)
    (found : (chainEntries chain).lookup name = some (.directory inner)) (rest : List String) :
    follow chain (name :: rest) = follow ((name, inner) :: chain) rest := by
  rw [follow_cons_of_isName proper, found]

/-- The names on the way to a directory lead there from the root. -/
theorem Grounded.follow_chainNames (h : Grounded fs chain) (rest : List String) :
    follow fs.rootChain (chainNames chain ++ rest) = follow chain rest := by
  induction h generalizing rest with
  | root => rfl
  | enter above proper found ih =>
    rw [above.chainNames_cons, List.append_assoc, List.singleton_append, ih,
      follow_directory proper found]

/-! ### Where paths arrive -/

/-- The file or directory stands at the end of some names. -/
inductive Stands (fs : FileSystem) : List String → FileTree → Prop where
  | directory {chain : Chain} (way : Grounded fs chain) :
    Stands fs (chainNames chain) (.directory (chainEntries chain))
  | file {chain : Chain} {name : String} {content : Content} (way : Grounded fs chain)
    (proper : FileTree.isName name = true)
    (found : (chainEntries chain).lookup name = some (.file content)) :
    Stands fs (chainNames chain ++ [name]) (.file content)

theorem Stands.proper {names : List String} {tree : FileTree} (h : Stands fs names tree) :
    Proper names := by
  cases h with
  | directory way => exact way.proper
  | file way proper => exact way.proper.append (.singleton proper)

/-- What is known of a step from a chain along some parts: where it has arrived something stands,
and behind a directory or before a link it goes on as from there. -/
def Step.Reached (fs : FileSystem) (chain : Chain) (parts : List String) : Step → Prop
  | .arrived names (.directory entries) =>
    ∃ chain', Grounded fs chain' ∧ names = chainNames chain' ∧ entries = chainEntries chain' ∧
      ∀ more, follow chain (parts ++ more) = follow chain' more
  | .arrived names tree => Stands fs names tree
  | .atLink directory target rest =>
    Grounded fs directory ∧ Slashless rest ∧
      ∀ more, follow chain (parts ++ more) = .atLink directory target (rest ++ more)
  | _ => True

theorem Grounded.reached_follow (h : Grounded fs chain) {parts : List String}
    (slashless : Slashless parts) : (follow chain parts).Reached fs chain parts := by
  induction parts generalizing chain with
  | nil => exact ⟨chain, h, rfl, rfl, fun _ => rfl⟩
  | cons part rest ih =>
    obtain ⟨first, others⟩ := List.forall_mem_cons.1 slashless
    -- what is reached behind the part is reached with it, if the part leads to the next chain
    have onward {chain' : Chain} (way : Grounded fs chain')
        (same : ∀ more, follow chain (part :: more) = follow chain' more) :
        (follow chain (part :: rest)).Reached fs chain (part :: rest) := by
      have reached := ih way others
      rw [same]
      simp only [Step.Reached, List.cons_append, same] at reached ⊢
      exact reached
    by_cases idle : Path.isIdle part = true
    · exact onward h (follow_cons_of_isIdle idle chain)
    · by_cases up : part = ".."
      · exact onward h.leave fun more => by rw [follow, if_neg idle, if_pos up]
      · have proper : FileTree.isName part = true :=
          FileTree.isName_iff.2 ⟨by simpa using idle, up, first⟩
        match found : (chainEntries chain).lookup part with
        | none =>
          rw [follow_cons_of_isName proper, found]
          trivial
        | some (.directory inner) =>
          exact onward (h.enter proper found) (follow_directory proper found)
        | some (.link target) =>
          have before (more : List String) :
              follow chain (part :: more) = .atLink chain target more := by
            rw [follow_cons_of_isName proper, found]
          rw [before]
          exact ⟨h, others, fun more => before (rest ++ more)⟩
        | some (.file content) =>
          rw [follow_cons_of_isName proper, found]
          dsimp only
          split
          · exact .file h proper found
          · trivial

/-! ### Links -/

theorem followLinks_congr {chain chain' : Chain} {parts parts' : List String}
    (h : follow chain parts = follow chain' parts') (links : Nat) :
    fs.followLinks links chain parts = fs.followLinks links chain' parts' := by
  cases links <;> rw [followLinks, followLinks, h]

theorem followLinks_of_arrived {parts : List String} {names : List String} {tree : FileTree}
    (h : follow chain parts = .arrived names tree) (links : Nat) :
    fs.followLinks links chain parts = .ok (.arrived names tree) := by
  cases links <;> rw [followLinks, h]

/-- The directory from which the target of a link is followed. -/
def linkStart (fs : FileSystem) (directory : Chain) (target : Path) : Chain :=
  if target.isAbsolute then fs.rootChain else directory

theorem followLinks_of_atLink {parts rest : List String} {directory : Chain} {target : Path}
    (h : follow chain parts = .atLink directory target rest) (links : Nat) :
    fs.followLinks (links + 1) chain parts =
      fs.followLinks links (fs.linkStart directory target) (target.parts ++ rest) := by
  rw [followLinks, h]
  rfl

theorem Grounded.linkStart (h : Grounded fs chain) (target : Path) :
    Grounded fs (fs.linkStart chain target) := by
  unfold FileSystem.linkStart
  split
  · exact .root
  · exact h

/-- The way along some parts leads to a directory: what comes behind them is followed from there. -/
def LeadsTo (fs : FileSystem) (links : Nat) (chain : Chain) (parts : List String)
    (names : List String) (entries : Entries) : Prop :=
  ∃ links' chain', Grounded fs chain' ∧ names = chainNames chain' ∧ entries = chainEntries chain' ∧
    ∀ more, fs.followLinks links chain (parts ++ more) = fs.followLinks links' chain' more

theorem Grounded.of_arrived {parts names : List String} {tree : FileTree} (h : Grounded fs chain)
    (slashless : Slashless parts) (step : follow chain parts = .arrived names tree) (links : Nat) :
    Stands fs names tree ∧
      ∀ entries, tree = .directory entries → LeadsTo fs links chain parts names entries := by
  have reached := h.reached_follow slashless
  rw [step] at reached
  cases tree with
  | directory entries =>
    obtain ⟨chain', way, rfl, rfl, same⟩ := reached
    refine ⟨.directory way, fun entries he => ?_⟩
    cases he
    exact ⟨links, chain', way, rfl, rfl, fun more => followLinks_congr (same more) links⟩
  | file content => exact ⟨reached, fun entries he => by cases he⟩
  | link target => exact ⟨reached, fun entries he => by cases he⟩

/-- Where a path arrives something stands, and behind a directory it goes on as from there. -/
theorem Grounded.of_followLinks {links : Nat} {parts names : List String} {tree : FileTree}
    (h : Grounded fs chain) (slashless : Slashless parts)
    (arrived : fs.followLinks links chain parts = .ok (.arrived names tree)) :
    Stands fs names tree ∧
      ∀ entries, tree = .directory entries → LeadsTo fs links chain parts names entries := by
  induction links generalizing chain parts with
  | zero =>
    rw [followLinks] at arrived
    split at arrived
    · cases arrived
    · exact h.of_arrived slashless (Except.ok.inj arrived) 0
  | succ links ih =>
    rw [followLinks] at arrived
    split at arrived
    · next directory target rest step =>
      have reached := h.reached_follow slashless
      rw [step] at reached
      obtain ⟨way, others, onward⟩ := reached
      obtain ⟨stands, leads⟩ :=
        ih (way.linkStart target) ((slashless_parts target).append others) arrived
      refine ⟨stands, fun entries he => ?_⟩
      obtain ⟨links', chain', way', hn, he', same⟩ := leads entries he
      refine ⟨links', chain', way', hn, he', fun more => ?_⟩
      rw [followLinks_of_atLink (onward more), ← same, List.append_assoc]
    · exact h.of_arrived slashless (Except.ok.inj arrived) (links + 1)

/-! ### Paths without dots and links -/

theorem reach_of_isAbsolute {p : Path} (rooted : p.isAbsolute = true) :
    fs.reach p = fs.followLinks 40 fs.rootChain p.parts := by
  rw [reach, if_neg (Path.text_ne_empty_of_isAbsolute rooted), if_pos rooted]

theorem reach_absolute {names : List String} (h : Slashless names) :
    fs.reach (absolute names) = fs.followLinks 40 fs.rootChain names := by
  rw [reach_of_isAbsolute (isAbsolute_absolute names)]
  have same := follow_parts_absolute h fs.rootChain []
  rw [List.append_nil, List.append_nil] at same
  exact followLinks_congr same 40

theorem resolve_of_reach {p : Path} {names : List String} {tree : FileTree}
    (h : fs.reach p = .ok (.arrived names tree)) : fs.resolve p = .ok (names, tree) := by
  rw [resolve, h]

theorem reach_of_resolve {p : Path} {names : List String} {tree : FileTree}
    (h : fs.resolve p = .ok (names, tree)) : fs.reach p = .ok (.arrived names tree) := by
  unfold resolve at h
  split at h
  · cases h
  · next reached => cases h; exact reached
  · cases h
  · cases h

/-- What a path leads to stands at the end of the names on the way. -/
theorem stands_of_resolve {p : Path} {names : List String} {tree : FileTree}
    (h : fs.resolve p = .ok (names, tree)) : Stands fs names tree := by
  have reached := reach_of_resolve h
  unfold reach at reached
  split at reached
  · cases reached
  · refine (Grounded.root.of_followLinks ?_ reached).1
    split
    · exact slashless_parts p
    · exact (slashless_parts _).append (slashless_parts p)

/-- What stands at the end of some names is found along them. -/
theorem resolve_absolute {names : List String} {tree : FileTree} (h : Stands fs names tree) :
    fs.resolve (absolute names) = .ok (names, tree) := by
  refine resolve_of_reach ((reach_absolute h.proper.slashless).trans (followLinks_of_arrived ?_ 40))
  cases h with
  | directory way =>
    have step := way.follow_chainNames []
    rwa [List.append_nil] at step
  | file way proper found =>
    rw [way.follow_chainNames, follow_cons_of_isName proper, found]
    rfl

theorem canonicalize_of_resolve {p : Path} {names : List String} {tree : FileTree}
    (h : fs.resolve p = .ok (names, tree)) : fs.canonicalize p = .ok (absolute names) := by
  rw [canonicalize, h]

theorem canonicalize_eq_ok {p q : Path} : fs.canonicalize p = .ok q ↔
    ∃ names tree, fs.resolve p = .ok (names, tree) ∧ q = absolute names := by
  unfold canonicalize
  match fs.resolve p with
  | .ok (names, tree) => simp [eq_comm]
  | .error e => simp

/-- The path without dots and links leads to the same. -/
theorem resolve_of_canonicalize {p q : Path} (h : fs.canonicalize p = .ok q) :
    fs.resolve q = fs.resolve p := by
  obtain ⟨names, tree, found, rfl⟩ := canonicalize_eq_ok.1 h
  rw [resolve_absolute (stands_of_resolve found), found]

/-- A path without dots and links stays as it is. -/
theorem canonicalize_of_canonicalize {p q : Path} (h : fs.canonicalize p = .ok q) :
    fs.canonicalize q = .ok q := by
  rw [canonicalize, resolve_of_canonicalize h, ← canonicalize, h]

theorem read_of_canonicalize {p q : Path} (h : fs.canonicalize p = .ok q) :
    fs.read q = fs.read p := by
  rw [read, resolve_of_canonicalize h, ← read]

/-! ### Entries of a directory -/

theorem wellNamed_of_resolve {p : Path} {names : List String} {entries : Entries}
    (h : fs.resolve p = .ok (names, .directory entries)) :
    FileTree.areWellNamed entries = true := by
  cases stands_of_resolve h with
  | directory way => exact way.wellNamed

/-- A name in a directory leads to its entry, unless that is a link. -/
theorem Grounded.follow_entry {chain : Chain} (h : Grounded fs chain) {name : String}
    {tree : FileTree} (hm : (name, tree) ∈ chainEntries chain)
    (solid : ∀ target, tree ≠ .link target) :
    follow chain [name] = .arrived (chainNames chain ++ [name]) tree := by
  obtain ⟨proper, found, -⟩ := FileTree.of_mem_entries h.wellNamed hm
  rw [follow_cons_of_isName proper, found]
  cases tree with
  | file content => rfl
  | directory inner =>
    exact congrArg (Step.arrived · (.directory inner)) (h.chainNames_cons name inner)
  | link target => exact absurd rfl (solid target)

end FileSystem

end CallContext
