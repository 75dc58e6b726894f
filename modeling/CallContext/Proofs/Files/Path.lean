import CallContext.Model.ElementId
import CallContext.Proofs.Model.Sorted

/-!
# Paths and their components

The order of paths is the lexicographic order of their components, so two paths are equal in it
exactly if they have the same components.  Taking the directory off an absolute path takes its
components off (`Path.components_of_stripDirectory?`).
-/

namespace CallContext

open Std

/-! ### The order -/

instance : TransCmp Component.compare :=
  inferInstanceAs (TransCmp (compareLex (compareOn Component.rank) (compareOn Component.text)))

theorem Component.eq_of_compare {a b : Component} (h : a.compare b = .eq) : a = b := by
  rw [compare, Ordering.then_eq_eq] at h
  have rank : a.rank = b.rank := LawfulEqCmp.eq_of_compare h.1
  have text : a.text = b.text := LawfulEqCmp.eq_of_compare h.2
  cases a with
  | name s =>
    cases b with
    | name t => exact congrArg name text
    | _ => cases rank
  | _ => cases b <;> first | rfl | cases rank

instance : LawfulEqCmp Component.compare where
  compare_self := ReflCmp.compare_self
  eq_of_compare := Component.eq_of_compare

namespace Path

theorem compareComponents_eq :
    compareComponents = List.compareLex Component.compare := by
  funext as bs
  induction as generalizing bs with
  | nil => cases bs <;> rfl
  | cons a as ih =>
    cases bs with
    | nil => rfl
    | cons b bs =>
      rw [compareComponents, List.compareLex_cons_cons, ih]

instance : TransCmp compareComponents := compareComponents_eq ▸ inferInstance

instance : LawfulEqCmp compareComponents := compareComponents_eq ▸ inferInstance

instance : TransCmp Path.compare := transCmp_on compareComponents components

theorem compare_eq_iff {p q : Path} : p.compare q = .eq ↔ p.components = q.components := by
  rw [compare, LawfulEqCmp.compare_eq_iff_eq]

end Path

instance : TransCmp ElementId.compare :=
  have := transCmp_on Path.compare ElementId.path
  inferInstanceAs (TransCmp (compareLex (fun a b : ElementId => a.path.compare b.path)
    (compareOn ElementId.name)))

theorem ElementId.compare_eq_iff {a b : ElementId} :
    a.compare b = .eq ↔ a.path.components = b.path.components ∧ a.name = b.name := by
  rw [compare, Ordering.then_eq_eq, Path.compare_eq_iff, LawfulEqCmp.compare_eq_iff_eq]

/-! ### Parts -/

theorem splitParts_ne_nil (mark : Char) (cs : List Char) : splitParts mark cs ≠ [] := by
  cases cs with
  | nil => simp [splitParts]
  | cons c cs =>
    unfold splitParts
    split
    · simp
    · split <;> simp

/-- Nothing that stands between marks has a mark inside. -/
theorem not_mem_of_mem_splitParts {mark : Char} {cs part : List Char}
    (h : part ∈ splitParts mark cs) : mark ∉ part := by
  induction cs generalizing part with
  | nil =>
    rw [splitParts, List.mem_singleton] at h
    simp [h]
  | cons c cs ih =>
    unfold splitParts at h
    split at h
    · rcases List.mem_cons.1 h with rfl | h
      · simp
      · exact ih h
    · next other =>
      split at h
      · next none => exact absurd none (splitParts_ne_nil mark cs)
      · next first more split =>
        rcases List.mem_cons.1 h with rfl | h
        · have := ih (split ▸ List.mem_cons_self)
          simp [this, Ne.symm other]
        · exact ih (split ▸ List.mem_cons_of_mem _ h)

theorem subset_of_mem_splitParts {mark : Char} {cs part : List Char}
    (h : part ∈ splitParts mark cs) : part ⊆ cs := by
  induction cs generalizing part with
  | nil =>
    rw [splitParts, List.mem_singleton] at h
    simp [h]
  | cons c cs ih =>
    unfold splitParts at h
    split at h
    · rcases List.mem_cons.1 h with rfl | h
      · exact List.nil_subset _
      · exact List.subset_cons_of_subset c (ih h)
    · split at h
      · next none => exact absurd none (splitParts_ne_nil mark cs)
      · next first more split =>
        rcases List.mem_cons.1 h with rfl | h
        · exact List.cons_subset_cons c (ih (split ▸ List.mem_cons_self))
        · exact List.subset_cons_of_subset c (ih (split ▸ List.mem_cons_of_mem _ h))

theorem splitParts_of_not_mem {mark : Char} {part : List Char} (h : mark ∉ part) :
    splitParts mark part = [part] := by
  induction part with
  | nil => rfl
  | cons c cs ih =>
    rw [List.mem_cons, not_or] at h
    rw [splitParts, if_neg (Ne.symm h.1), ih h.2]

/-- A mark divides the parts of a text. -/
theorem splitParts_append_mark (mark : Char) (front back : List Char) :
    splitParts mark (front ++ mark :: back) = splitParts mark front ++ splitParts mark back := by
  induction front with
  | nil => simp [splitParts]
  | cons c cs ih =>
    rw [List.cons_append, splitParts, splitParts, ih]
    obtain ⟨part, parts, split⟩ := List.exists_cons_of_ne_nil (splitParts_ne_nil mark cs)
    rw [split]
    split <;> rfl

theorem splitParts_append {mark : Char} {part : List Char} (h : mark ∉ part) (cs : List Char) :
    splitParts mark (part ++ mark :: cs) = part :: splitParts mark cs := by
  rw [splitParts_append_mark, splitParts_of_not_mem h, List.singleton_append]

theorem joinTexts_append (between : String) {front back : List String} (hf : front ≠ [])
    (hb : back ≠ []) :
    joinTexts between (front ++ back) =
      joinTexts between front ++ between ++ joinTexts between back := by
  induction front with
  | nil => exact absurd rfl hf
  | cons s ss ih =>
    cases ss with
    | nil =>
      cases back with
      | nil => exact absurd rfl hb
      | cons t ts => rfl
    | cons t ts =>
      have rest := ih (List.cons_ne_nil t ts)
      simp only [List.cons_append, joinTexts, String.append_assoc] at rest ⊢
      rw [rest]

/-- Texts that were joined with a mark between them are found again. -/
theorem splitParts_joinTexts {mark : Char} {between : String} (hm : between.toList = [mark])
    {ss : List String} (hne : ss ≠ []) (h : ∀ s ∈ ss, mark ∉ s.toList) :
    (splitParts mark (joinTexts between ss).toList).map String.ofList = ss := by
  induction ss with
  | nil => exact absurd rfl hne
  | cons s ss ih =>
    obtain ⟨first, rest⟩ := List.forall_mem_cons.1 h
    cases ss with
    | nil => simp [joinTexts, splitParts_of_not_mem first]
    | cons t ts =>
      have found := ih (by simp) rest
      rw [joinTexts, String.toList_append, String.toList_append, hm, List.append_assoc,
        List.singleton_append, splitParts_append first, List.map_cons, found, String.ofList_toList]
      nofun

/-- Parts are joined to the text that they were cut from. -/
theorem joinTexts_splitParts {mark : Char} {between : String} (hm : between.toList = [mark])
    (cs : List Char) :
    joinTexts between ((splitParts mark cs).map String.ofList) = String.ofList cs := by
  induction cs with
  | nil => rfl
  | cons c cs ih =>
    obtain ⟨part, parts, split⟩ := List.exists_cons_of_ne_nil (splitParts_ne_nil mark cs)
    have whole : String.ofList (c :: cs) = String.ofList [c] ++ String.ofList cs := by simp
    have first : String.ofList (c :: part) = String.ofList [c] ++ String.ofList part := by simp
    rw [splitParts, split, whole]
    rw [split] at ih
    split
    · next same =>
      have front : between = String.ofList [c] := by rw [same, ← hm, String.ofList_toList]
      rw [← ih, front]
      simp [joinTexts]
    · rw [← ih]
      cases parts with
      | nil => simp [joinTexts]
      | cons next more => simp only [List.map_cons, joinTexts, first, String.append_assoc]

namespace Path

theorem not_mem_of_mem_parts {p : Path} {part : String} (h : part ∈ p.parts) :
    '/' ∉ part.toList := by
  obtain ⟨cs, hcs, rfl⟩ := List.mem_map.1 h
  rw [String.toList_ofList]
  exact not_mem_of_mem_splitParts hcs

/-- Parts that were joined are found again. -/
theorem parts_joinTexts {ps : List String} (hne : ps ≠ [])
    (h : ∀ s ∈ ps, '/' ∉ s.toList) : parts ⟨joinTexts "/" ps⟩ = ps :=
  splitParts_joinTexts rfl hne h

theorem text_of_isAbsolute {p : Path} (h : p.isAbsolute = true) :
    ∃ rest, p.text.toList = '/' :: rest := by
  rw [isAbsolute, decide_eq_true_eq] at h
  exact List.head?_eq_some_iff.1 h

theorem text_ne_empty_of_isAbsolute {p : Path} (h : p.isAbsolute = true) : p.text ≠ "" := by
  intro empty
  simp [isAbsolute, empty] at h

theorem isAbsolute_join {directory : Path} (h : directory.isAbsolute = true) (p : Path) :
    (directory.join p).isAbsolute = true := by
  obtain ⟨rest, text⟩ := text_of_isAbsolute h
  unfold join
  split
  · assumption
  · split <;> simp [isAbsolute, text]

/-- The components of an absolute path: the root and the parts that count. -/
theorem components_of_isAbsolute {p : Path} (h : p.isAbsolute = true) :
    p.components = .root :: (p.parts.tail.filter (!isIdle ·)).map component := by
  obtain ⟨rest, text⟩ := text_of_isAbsolute h
  have split : p.parts = "" :: (splitParts '/' rest).map String.ofList := by
    rw [parts, text, splitParts, if_pos rfl]
    rfl
  simp only [components, split, h, if_true, List.tail_cons]

/-! ### Extensions -/

/-- The extension of a name stands behind its last dot, if something stands before that. -/
theorem splitExtension_eq_some {name extension : String} :
    (splitExtension name).2 = some extension ↔
      ∃ stem, stem ≠ "" ∧ '.' ∉ extension.toList ∧ name = stem ++ "." ++ extension := by
  constructor
  · intro h
    unfold splitExtension at h
    split at h
    · cases h
    · next last before split =>
      -- the parts are joined to the name again, so those before the last one make the stem
      have parts : splitParts '.' name.toList = before.reverse ++ [last] := by
        rw [← List.reverse_cons, ← split, List.reverse_reverse]
      have joined := joinTexts_splitParts (show ".".toList = ['.'] from rfl) name.toList
      rw [parts, String.ofList_toList, List.map_append] at joined
      dsimp only at h
      split at h
      · cases h
      · next stem =>
        obtain rfl := Option.some.inj h
        have some : before.reverse.map String.ofList ≠ [] := by
          intro none
          rw [none] at stem
          exact stem rfl
        refine ⟨_, stem, ?_, ?_⟩
        · rw [String.toList_ofList]
          exact not_mem_of_mem_splitParts (parts ▸ List.mem_append_right _ List.mem_cons_self)
        · rw [← joined, joinTexts_append "." some (by simp)]
          rfl
  · rintro ⟨stem, written, dotless, rfl⟩
    -- without dots in it the extension is a part of its own, whatever dots are in the stem
    have parts : splitParts '.' (stem ++ "." ++ extension).toList =
        splitParts '.' stem.toList ++ [extension.toList] := by
      rw [← splitParts_of_not_mem dotless, ← splitParts_append_mark]
      simp
    have joined := joinTexts_splitParts (show ".".toList = ['.'] from rfl) stem.toList
    rw [String.ofList_toList] at joined
    have last : (splitParts '.' (stem ++ "." ++ extension).toList).reverse =
        extension.toList :: (splitParts '.' stem.toList).reverse := by
      rw [parts, List.reverse_append, List.reverse_singleton, List.singleton_append]
    rw [splitExtension, last]
    simp [joined, written]

/-! ### Taking a directory off -/

theorem filter_dropParts (n : Nat) (parts : List String) :
    (dropParts n parts).filter (!isIdle ·) = (parts.filter (!isIdle ·)).drop n := by
  induction parts generalizing n with
  | nil => cases n <;> simp [dropParts]
  | cons part parts ih =>
    cases n with
    | zero => simp [dropParts]
    | succ n =>
      unfold dropParts
      split
      · next idle => rw [ih, List.filter_cons_of_neg (by simp [idle])]
      · next busy =>
        rw [ih, List.filter_cons_of_pos (by simp [busy]), List.drop_succ_cons]

theorem dropParts_subset (n : Nat) (parts : List String) : dropParts n parts ⊆ parts := by
  induction parts generalizing n with
  | nil => cases n <;> simp [dropParts]
  | cons part parts ih =>
    cases n with
    | zero => simp [dropParts]
    | succ n =>
      unfold dropParts
      split
      · exact fun x hx => List.mem_cons_of_mem _ (ih _ hx)
      · exact fun x hx => List.mem_cons_of_mem _ (ih _ hx)

theorem filter_dropWhile_isIdle (parts : List String) :
    (parts.dropWhile isIdle).filter (!isIdle ·) = parts.filter (!isIdle ·) := by
  induction parts with
  | nil => rfl
  | cons part parts ih =>
    rw [List.dropWhile_cons]
    split
    · next idle => rw [ih, List.filter_cons_of_neg (by simp [idle])]
    · rfl

/-- The path of some parts of which the first counts. -/
theorem components_joinTexts {ps : List String} (h : ∀ s ∈ ps, '/' ∉ s.toList)
    (first : ∀ s ∈ ps.head?, isIdle s = false) :
    components ⟨joinTexts "/" ps⟩ = (ps.filter (!isIdle ·)).map component := by
  cases ps with
  | nil => rfl
  | cons s ss =>
    have busy : isIdle s = false := first s rfl
    have ⟨hs, hd⟩ : s ≠ "" ∧ s ≠ "." := by simpa [isIdle] using busy
    simp only [components, parts_joinTexts (List.cons_ne_nil s ss) h, hs, hd, if_false]
    rw [List.filter_cons_of_pos (by simp [busy]), List.map_cons]

/-- The parts without those at both ends that do not count. -/
def trim (parts : List String) : List String :=
  ((parts.dropWhile isIdle).reverse.dropWhile isIdle).reverse

theorem trim_subset (parts : List String) : trim parts ⊆ parts := by
  intro s hs
  have inner := (List.dropWhile_suffix isIdle).subset (List.mem_reverse.1 hs)
  exact (List.dropWhile_suffix isIdle).subset (List.mem_reverse.1 inner)

theorem filter_trim (parts : List String) :
    (trim parts).filter (!isIdle ·) = parts.filter (!isIdle ·) := by
  rw [trim, List.filter_reverse, filter_dropWhile_isIdle, List.filter_reverse,
    List.reverse_reverse, filter_dropWhile_isIdle]

theorem dropParts_append {front : List String} (h : ∀ s ∈ front, isIdle s = false)
    (back : List String) : dropParts front.length (front ++ back) = back := by
  induction front with
  | nil => simp [dropParts]
  | cons s ss ih =>
    obtain ⟨first, rest⟩ := List.forall_mem_cons.1 h
    rw [List.length_cons, List.cons_append, dropParts, if_neg (by simp [first]), ih rest]

theorem trim_of_busy {parts : List String} (h : ∀ s ∈ parts, isIdle s = false) :
    trim parts = parts := by
  have kept {ps : List String} (busy : ∀ s ∈ ps, isIdle s = false) : ps.dropWhile isIdle = ps := by
    cases ps with
    | nil => rfl
    | cons s ss => rw [List.dropWhile_cons_of_neg (by simp [busy s List.mem_cons_self])]
  rw [trim, kept h, kept (fun s hs => h s (List.mem_reverse.1 hs)), List.reverse_reverse]

theorem isIdle_head?_trim {parts : List String} : ∀ s ∈ (trim parts).head?, isIdle s = false := by
  intro s hs
  have front : trim parts <+: parts.dropWhile isIdle := by
    have := List.reverse_prefix.2
      (List.dropWhile_suffix (l := (parts.dropWhile isIdle).reverse) isIdle)
    rwa [List.reverse_reverse] at this
  obtain ⟨rest, split⟩ := front
  have head : (parts.dropWhile isIdle).head? = some s := by
    rw [← split, List.head?_append, show (trim parts).head? = some s from hs]
    rfl
  have := List.head?_dropWhile_not isIdle parts
  rwa [head] at this

theorem root_not_mem_component (parts : List String) : .root ∉ parts.map component := by
  intro h
  obtain ⟨part, -, hp⟩ := List.mem_map.1 h
  unfold component at hp
  split at hp <;> cases hp

/-- What remains behind a directory has the components that remain. -/
theorem components_of_stripDirectory? {p directory q : Path} (hp : p.isAbsolute = true)
    (hd : directory.isAbsolute = true) (h : p.stripDirectory? directory = some q) :
    p.components = directory.components ++ q.components ∧ .root ∉ q.components := by
  unfold stripDirectory? at h
  split at h
  · next starts =>
    obtain rfl := Option.some.inj h
    generalize hrest : dropParts (directory.components.length - 1) p.parts.tail = parts
    have slashless : ∀ s ∈ trim parts, '/' ∉ s.toList := fun s hs =>
      not_mem_of_mem_parts
        (List.mem_of_mem_tail (dropParts_subset _ _ (hrest ▸ trim_subset parts hs)))
    have kept : components ⟨joinTexts "/" (trim parts)⟩ =
        (parts.filter (!isIdle ·)).map component := by
      rw [components_joinTexts slashless isIdle_head?_trim, filter_trim]
    refine ⟨?_, fun root => root_not_mem_component _ (kept ▸ root)⟩
    -- the first component of the directory is the root, which is no part, hence the `- 1`
    obtain ⟨rest, split⟩ := List.isPrefixOf_iff_prefix.1 starts
    have length : directory.components.length = directory.components.length - 1 + 1 := by
      rw [components_of_isAbsolute hd]
      rfl
    have remains : rest = (parts.filter (!isIdle ·)).map component := by
      have drop := congrArg (List.drop directory.components.length) split
      rw [List.drop_left, length, components_of_isAbsolute hp, List.drop_succ_cons] at drop
      rw [drop, ← hrest, filter_dropParts, List.map_drop]
    exact split.symm.trans (congrArg _ (remains.trans kept.symm))
  · cases h

end Path

end CallContext
