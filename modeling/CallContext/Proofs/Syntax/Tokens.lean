import CallContext.Analysis.Imports
import CallContext.Proofs.Syntax.Spacing
import Mathlib.Data.List.Nodup
import Mathlib.Data.List.TakeWhile

/-!
# Import statements and their tokens

What an import statement says is a matter of its tokens: `readImport` reads it off them.  The
records of a statement are made from stretches of the text instead, in which blank space, comments
and line ends can stand between the tokens.  They say the same exactly if the statement is spaced:
there is no gap inside a dotted name, and no dot in a gap between the dots before a name
(`Node.spellings_iff`).
-/

namespace CallContext

/-! ### Tokens of a statement -/

/-- What an import statement says of a module. -/
structure Spelling where
  reference : String
  level : Nat
  names : List String
  kind : ImportKind
deriving DecidableEq, Repr

/-- The identifiers among some tokens, with dots between them. -/
def dottedText (ts : List (Symbol × String)) : String :=
  joinTexts "." ((ts.filter (·.1 = Symbol.identifier)).map (·.2))

/-- The name that a module or object has where it comes from. -/
def itemName (ts : List (Symbol × String)) : String :=
  dottedText (ts.takeWhile (·.1 ≠ Symbol.asKeyword))

/-- The tokens between commas. -/
def splitAtCommas : List (Symbol × String) → List (List (Symbol × String))
  | [] => [[]]
  | t :: ts =>
    if t.1 = Symbol.comma then [] :: splitAtCommas ts
    else
      match splitAtCommas ts with
      | [] => [[t]]
      | item :: items => (t :: item) :: items

/-- The names in a list with commas, perhaps one after the last name, and perhaps in parentheses. -/
def namesIn (ts : List (Symbol × String)) : List String :=
  let inner := ts.filter fun t =>
    t.1 ≠ Symbol.openParenthesis && t.1 ≠ Symbol.closeParenthesis
  ((splitAtCommas inner).filter (!·.isEmpty)).map itemName

/-- The module that names come from, with the number of dots before it. -/
def readSource (ts : List (Symbol × String)) : String × Nat :=
  let level := (ts.takeWhile (·.1 = Symbol.dot)).length
  (String.ofList (List.replicate level '.') ++ dottedText ts, level)

/-- What an import statement says, read off its tokens. -/
def readImport : List (Symbol × String) → List Spelling
  | [] => []
  | first :: rest =>
    if first.1 = Symbol.importKeyword then
      (namesIn rest).map fun name => ⟨name, 0, [], .wholeModule⟩
    else
      let source := rest.takeWhile (·.1 ≠ Symbol.importKeyword)
      let names := (rest.dropWhile (·.1 ≠ Symbol.importKeyword)).tail
      if source.any (·.1 = Symbol.futureKeyword) then [⟨"__future__", 0, namesIn names, .names⟩]
      else
        let (reference, level) := readSource source
        if names.any (·.1 = Symbol.star) then [⟨reference, level, [], .wildcard⟩]
        else [⟨reference, level, namesIn names, .names⟩]

theorem splitAtCommas_of_none {ts : List (Symbol × String)} (h : ∀ t ∈ ts, t.1 ≠ Symbol.comma) :
    splitAtCommas ts = [ts] := by
  induction ts with
  | nil => rfl
  | cons t ts ih =>
    rw [List.forall_mem_cons] at h
    rw [splitAtCommas, if_neg h.1, ih h.2]

theorem splitAtCommas_append {front : List (Symbol × String)}
    (h : ∀ t ∈ front, t.1 ≠ Symbol.comma) {comma : Symbol × String}
    (hc : comma.1 = Symbol.comma) (back : List (Symbol × String)) :
    splitAtCommas (front ++ comma :: back) = front :: splitAtCommas back := by
  induction front with
  | nil => rw [List.nil_append, splitAtCommas, if_pos hc]
  | cons t ts ih =>
    rw [List.forall_mem_cons] at h
    rw [List.cons_append, splitAtCommas, if_neg h.1, ih h.2]

namespace Node

variable {text : List Char}

mutual

/-- The tokens of a node; what may stand anywhere is left out. -/
def tokens : Node text → List (Symbol × String)
  | mk kind _ start stop _ _ children =>
    if kind = Symbol.comment || kind = Symbol.lineContinuation then []
    else if children.isEmpty then [(kind, start.between stop)]
    else tokensAll children

/-- The tokens of several nodes. -/
def tokensAll : List (Node text) → List (Symbol × String)
  | [] => []
  | n :: ns => tokens n ++ tokensAll ns

end

theorem tokensAll_eq (ns : List (Node text)) : tokensAll ns = ns.flatMap tokens := by
  induction ns with
  | nil => rfl
  | cons n ns ih => rw [tokensAll, ih, List.flatMap_cons]

theorem tokens_eq (n : Node text) :
    n.tokens =
      if n.isExtra then []
      else if n.children.isEmpty then [(n.kind, n.source)]
      else n.children.flatMap tokens := by
  obtain ⟨kind, field, start, stop, isMissing, hasFault, children⟩ := n
  rw [tokens, tokensAll_eq]
  rfl

theorem tokens_of_isExtra {n : Node text} (h : n.isExtra = true) : n.tokens = [] := by
  rw [tokens_eq, if_pos h]

theorem tokens_of_leaf {n : Node text} (solid : n.isExtra = false) (leaf : n.children = []) :
    n.tokens = [(n.kind, n.source)] := by
  rw [tokens_eq, solid, leaf]
  rfl

/-- The tokens of a node are those of its parts. -/
theorem tokens_of_parts {n : Node text} (solid : n.isExtra = false) (some : n.parts ≠ []) :
    n.tokens = n.parts.flatMap tokens := by
  have kept (ns : List (Node text)) :
      (ns.filter (!·.isExtra)).flatMap tokens = ns.flatMap tokens := by
    induction ns with
    | nil => rfl
    | cons m ns ih =>
      by_cases extra : m.isExtra = true
      · rw [List.filter_cons_of_neg (by simp [extra]), ih, List.flatMap_cons,
          tokens_of_isExtra extra, List.nil_append]
      · rw [List.filter_cons_of_pos (by simpa using extra), List.flatMap_cons, List.flatMap_cons,
          ih]
  have filled : n.children ≠ [] := by
    intro none
    rw [parts, none] at some
    exact some rfl
  rw [tokens_eq, solid, if_neg (by simp), if_neg (by simpa using filled), parts, kept]

theorem isExtra_of_kind {n : Node text} {kind : Symbol} (h : n.kind = kind)
    (other : kind ≠ Symbol.comment ∧ kind ≠ Symbol.lineContinuation) : n.isExtra = false := by
  simp [isExtra, h, other]

theorem tokens_of_isToken {kind : Symbol} {n : Node text} (h : n.isToken kind = true)
    (other : kind ≠ Symbol.comment ∧ kind ≠ Symbol.lineContinuation) :
    n.tokens = [(kind, n.source)] := by
  obtain ⟨same, leaf, -⟩ := isToken_iff.1 h
  rw [tokens_of_leaf (isExtra_of_kind same other) leaf, same]

theorem parts_of_leaf {n : Node text} (leaf : n.children = []) : n.parts = [] := by
  rw [parts, leaf]
  rfl

theorem flatMap_tokens_of_leaves {ns : List (Node text)}
    (h : ∀ n ∈ ns, n.isExtra = false ∧ n.children = []) :
    ns.flatMap tokens = ns.map fun n => (n.kind, n.source) := by
  induction ns with
  | nil => rfl
  | cons n ns ih =>
    rw [List.forall_mem_cons] at h
    rw [List.flatMap_cons, ih h.2, tokens_of_leaf h.1.1 h.1.2, List.map_cons, List.singleton_append]

/-! ### Dotted names -/

theorem leaf_of_mem_alternate {ns : List (Node text)} (h : alternate ns = true) :
    ∀ n ∈ ns, (n.kind = Symbol.identifier ∨ n.kind = Symbol.dot) ∧ n.children = [] := by
  fun_induction alternate ns with
  | case1 => cases h
  | case2 n =>
    obtain ⟨kind, leaf, -⟩ := isIdentifier_iff.1 h
    simp [kind, leaf]
  | case3 n dot rest ih =>
    simp only [Bool.and_eq_true] at h
    obtain ⟨⟨word, dotted⟩, others⟩ := h
    obtain ⟨kind, leaf, -⟩ := isIdentifier_iff.1 word
    obtain ⟨dot_kind, dot_leaf, -⟩ := isDot_iff.1 dotted
    rw [List.forall_mem_cons, List.forall_mem_cons]
    exact ⟨⟨.inl kind, leaf⟩, ⟨.inr dot_kind, dot_leaf⟩, ih others⟩

section Dotted

variable {n : Node text}

theorem kind_of_isDotted (h : n.isDotted = true) : n.kind = Symbol.dottedName := by
  simp only [isDotted, Bool.and_eq_true, decide_eq_true_eq] at h
  exact h.1.1

theorem alternate_of_isDotted (h : n.isDotted = true) : alternate n.parts = true := by
  simp only [isDotted, Bool.and_eq_true] at h
  exact h.1.2

/-- The tokens of a dotted name are its parts. -/
theorem tokens_of_isDotted (h : n.isDotted = true) :
    n.tokens = n.parts.map fun part => (part.kind, part.source) := by
  have leaves := leaf_of_mem_alternate (alternate_of_isDotted h)
  have some : n.parts ≠ [] := fun none => by
    have := alternate_of_isDotted h
    rw [none] at this
    cases this
  rw [tokens_of_parts (isExtra_of_kind (kind_of_isDotted h) (by decide)) some]
  refine flatMap_tokens_of_leaves fun part hp => ?_
  obtain ⟨kind | kind, leaf⟩ := leaves part hp
  · exact ⟨isExtra_of_kind kind (by decide), leaf⟩
  · exact ⟨isExtra_of_kind kind (by decide), leaf⟩

theorem dottedText_of_isDotted (h : n.isDotted = true) :
    dottedText n.tokens = joinTexts "." (identifiers n.parts) := by
  rw [dottedText, tokens_of_isDotted h, List.filter_map, List.map_map]
  rfl

theorem kinds_of_isDotted (h : n.isDotted = true) :
    ∀ t ∈ n.tokens, t.1 = Symbol.identifier ∨ t.1 = Symbol.dot := by
  intro t ht
  rw [tokens_of_isDotted h] at ht
  obtain ⟨part, hp, rfl⟩ := List.mem_map.1 ht
  exact (leaf_of_mem_alternate (alternate_of_isDotted h) part hp).1

end Dotted

/-! ### Spacing -/

/-- A dotted name has no gaps, and dots before a name have no further dot in a gap. -/
structure Spaced (n : Node text) : Prop where
  dotted : n.kind = Symbol.dottedName → ∀ gap ∈ n.gaps, gap = ""
  dots : n.kind = Symbol.importDots → ∀ gap ∈ n.gaps, '.' ∉ gap.toList

/-- The node and its parts are spaced. -/
def SpacedWithin (n : Node text) : Prop := n.Spaced ∧ ∀ part ∈ n.parts, part.Spaced

/-- The parts of an import statement, and their parts, are spaced. -/
def WellSpaced (n : Node text) : Prop := ∀ part ∈ n.parts, part.SpacedWithin

theorem spaced_of_kind {n : Node text} {kind : Symbol} (h : n.kind = kind)
    (other : kind ≠ Symbol.dottedName ∧ kind ≠ Symbol.importDots) : n.Spaced :=
  ⟨fun same => absurd (h.symm.trans same) other.1, fun same => absurd (h.symm.trans same) other.2⟩

theorem spacedWithin_of_isToken {kind : Symbol} {n : Node text} (h : n.isToken kind = true)
    (other : kind ≠ Symbol.dottedName ∧ kind ≠ Symbol.importDots) : n.SpacedWithin := by
  obtain ⟨same, leaf, -⟩ := isToken_iff.1 h
  refine ⟨spaced_of_kind same other, ?_⟩
  rw [parts_of_leaf leaf]
  nofun

/-- A dotted name is spaced exactly if it is written as its tokens. -/
theorem spaced_iff_of_isDotted {n : Node text} (nested : n.Nested) (h : n.isDotted = true) :
    n.Spaced ↔ n.source = dottedText n.tokens := by
  rw [dottedText_of_isDotted h, source_eq_joinTexts_iff nested h]
  have kind := kind_of_isDotted h
  have other : Symbol.dottedName ≠ Symbol.importDots := by decide
  exact ⟨fun spaced => spaced.dotted kind,
    fun gaps => ⟨fun _ => gaps, fun same => absurd (kind.symm.trans same) other⟩⟩

theorem spacedWithin_of_isDotted {n : Node text} (h : n.isDotted = true) :
    n.SpacedWithin ↔ n.Spaced := by
  rw [SpacedWithin, and_iff_left_iff_imp]
  intro _ part hp
  rcases (leaf_of_mem_alternate (alternate_of_isDotted h) part hp).1 with kind | kind
  · exact spaced_of_kind kind (by decide)
  · exact spaced_of_kind kind (by decide)

theorem nested_of_mem_parts {n part : Node text} (nested : n.Nested) (h : part ∈ n.parts) :
    part.Nested :=
  (nested.between_children.of_mem (List.mem_filter.1 h).1).2.1

/-! ### Imported names -/

theorem childrenOf_eq {n : Node text} (plain : n.hasPlainExtras = true) (field : Field) :
    n.childrenOf field = n.parts.filter (·.field = some field) := by
  rw [childrenOf, parts, List.filter_filter]
  refine List.filter_congr fun child hc => ?_
  have bare := List.all_eq_true.1 plain child hc
  cases extra : child.isExtra with
  | false => simp
  | true =>
    have none : child.field = none := by simpa [extra] using bare
    simp [none]

theorem child?_eq {n : Node text} (plain : n.hasPlainExtras = true) (field : Field) :
    n.child? field = n.parts.find? (·.field = some field) := by
  rw [child?, ← List.head?_filter, ← List.head?_filter]
  exact congrArg List.head? (childrenOf_eq plain field)

theorem childOfKind?_eq (n : Node text) {kind : Symbol}
    (other : kind ≠ Symbol.comment ∧ kind ≠ Symbol.lineContinuation) :
    n.childOfKind? kind = n.parts.find? (·.kind = kind) := by
  rw [childOfKind?, parts, ← List.head?_filter, ← List.head?_filter, List.filter_filter]
  refine congrArg List.head? (List.filter_congr fun child _ => ?_)
  by_cases same : child.kind = kind
  · simp [same, isExtra_of_kind same other]
  · simp [same]

/-- The parts of a name with another name for it. -/
theorem parts_of_isAliased {n : Node text} (h : n.isAliased = true) :
    ∃ name as other, n.parts = [name, as, other] ∧ n.kind = Symbol.aliasedImport ∧
      n.child? .name = some name ∧ name.isDotted = true ∧
      as.isToken Symbol.asKeyword = true ∧ other.isIdentifier = true := by
  simp only [isAliased, Bool.and_eq_true, decide_eq_true_eq] at h
  obtain ⟨⟨kind, plain⟩, built⟩ := h
  split at built
  · next name as other parts =>
    simp only [Bool.and_eq_true, decide_eq_true_eq] at built
    obtain ⟨⟨⟨dotted, field⟩, keyword⟩, word⟩ := built
    refine ⟨name, as, other, parts, kind, ?_, dotted, keyword, word⟩
    rw [child?_eq plain, parts, List.find?_cons_of_pos (by simpa using field)]
  · cases built

theorem tokens_of_isIdentifier {n : Node text} (h : n.isIdentifier = true) :
    n.tokens = [(Symbol.identifier, n.source)] := by
  obtain ⟨kind, leaf, -⟩ := isIdentifier_iff.1 h
  rw [tokens_of_leaf (isExtra_of_kind kind (by decide)) leaf, kind]

/-- The node is an imported name with the parts that it has. -/
def IsItem (n : Node text) : Prop := n.isDotted = true ∨ n.isAliased = true

namespace IsItem

variable {n : Node text}

/-- The tokens of an imported name are those of a dotted name, with those of an alias behind. -/
theorem exists_name (h : n.IsItem) : ∃ name back, n.tokens = name.tokens ++ back ∧
    name.isDotted = true ∧ n.importedName = name.source ∧ (name = n ∨ name ∈ n.parts) ∧
    (n.SpacedWithin ↔ name.Spaced) ∧
    (∀ t ∈ back, t.1 = Symbol.asKeyword ∨ t.1 = Symbol.identifier) ∧
    (back.head?.all fun t => t.1 = Symbol.asKeyword) = true := by
  rcases h with dotted | aliased
  · have other : n.kind ≠ Symbol.aliasedImport := by
      rw [kind_of_isDotted dotted]
      decide
    refine ⟨n, [], (List.append_nil _).symm, dotted, ?_, .inl rfl,
      spacedWithin_of_isDotted dotted, nofun, rfl⟩
    rw [importedName, if_neg other]
  · obtain ⟨name, as, other, parts, kind, child, dotted, keyword, word⟩ :=
      parts_of_isAliased aliased
    refine ⟨name, [(Symbol.asKeyword, as.source), (Symbol.identifier, other.source)], ?_, dotted,
      ?_, .inr (by simp [parts]), ?_, by simp, rfl⟩
    · rw [tokens_of_parts (isExtra_of_kind kind (by decide)) (by simp [parts]), parts]
      simp [tokens_of_isToken keyword (by decide), tokens_of_isIdentifier word]
    · rw [importedName, if_pos kind, child, Option.getD_some]
    · have as_spaced := (spacedWithin_of_isToken keyword (by decide)).1
      have other_spaced : other.Spaced := spaced_of_kind (isIdentifier_iff.1 word).1 (by decide)
      have spaced : n.Spaced := spaced_of_kind kind (by decide)
      simp [SpacedWithin, parts, as_spaced, other_spaced, spaced]

/-- An imported name is spaced exactly if it is what its tokens say. -/
theorem importedName_eq_iff (h : n.IsItem) (nested : n.Nested) :
    n.importedName = itemName n.tokens ↔ n.SpacedWithin := by
  obtain ⟨name, back, tokens, dotted, imported, place, spaced, -, stops⟩ := h.exists_name
  have inner : name.Nested := by
    rcases place with rfl | part
    · exact nested
    · exact nested_of_mem_parts nested part
  have front : ∀ t ∈ name.tokens, decide (t.1 ≠ Symbol.asKeyword) = true := by
    intro t ht
    rcases kinds_of_isDotted dotted t ht with kind | kind <;> rw [kind] <;> decide
  have cut : (name.tokens ++ back).takeWhile (·.1 ≠ Symbol.asKeyword) = name.tokens := by
    rw [List.takeWhile_append_of_pos front]
    cases back with
    | nil => rw [List.takeWhile_nil, List.append_nil]
    | cons t ts =>
      have keyword : t.1 = Symbol.asKeyword := by simpa using stops
      rw [List.takeWhile_cons_of_neg (by simp [keyword]), List.append_nil]
  rw [spaced, spaced_iff_of_isDotted inner dotted, imported, tokens, itemName, cut]

theorem kinds (h : n.IsItem) : ∀ t ∈ n.tokens,
    t.1 = Symbol.identifier ∨ t.1 = Symbol.dot ∨ t.1 = Symbol.asKeyword := by
  obtain ⟨name, back, tokens, dotted, -, -, -, behind, -⟩ := h.exists_name
  intro t ht
  rw [tokens] at ht
  rcases List.mem_append.1 ht with own | back
  · rcases kinds_of_isDotted dotted t own with kind | kind <;> simp [kind]
  · rcases behind t back with kind | kind <;> simp [kind]

theorem tokens_ne_nil (h : n.IsItem) : n.tokens ≠ [] := by
  obtain ⟨name, back, tokens, dotted, -⟩ := h.exists_name
  have some := ne_nil_of_alternate (alternate_of_isDotted dotted)
  rw [tokens, tokens_of_isDotted dotted]
  intro none
  have : name.parts = [] := by simpa using (List.append_eq_nil_iff.1 none).1
  simp [this, identifiers] at some

/-- No token of an imported name separates it from others. -/
theorem apart (h : n.IsItem) : ∀ t ∈ n.tokens, t.1 ≠ Symbol.comma ∧
    t.1 ≠ Symbol.openParenthesis ∧ t.1 ≠ Symbol.closeParenthesis ∧ t.1 ≠ Symbol.star := by
  intro t ht
  rcases h.kinds t ht with kind | kind | kind <;> rw [kind] <;> decide

end IsItem

/-! ### Lists of names -/

/-- The nodes with a name are imported names, and all others are commas. -/
theorem cases_of_areNames {ns : List (Node text)} (h : areNames ns = true) :
    ∀ n ∈ ns, (n.field = some .name ∧ n.IsItem) ∨ n.isToken Symbol.comma = true := by
  fun_induction areNames ns with
  | case1 => nofun
  | case2 n =>
    simp only [Bool.and_eq_true, Bool.or_eq_true, decide_eq_true_eq] at h
    rw [List.forall_mem_singleton]
    exact .inl h
  | case3 n comma rest ih =>
    simp only [Bool.and_eq_true, Bool.or_eq_true, decide_eq_true_eq, List.isEmpty_iff] at h
    obtain ⟨⟨item, separator⟩, others⟩ := h
    rw [List.forall_mem_cons, List.forall_mem_cons]
    refine ⟨.inl item, .inr separator, ?_⟩
    rcases others with rfl | others
    · nofun
    · exact ih others

/-- The tokens between parentheses that are left out. -/
theorem filter_parentheses {ts : List (Symbol × String)}
    (h : ∀ t ∈ ts, t.1 ≠ Symbol.openParenthesis ∧ t.1 ≠ Symbol.closeParenthesis) :
    (ts.filter fun t => t.1 ≠ Symbol.openParenthesis && t.1 ≠ Symbol.closeParenthesis) = ts := by
  rw [List.filter_eq_self]
  intro t ht
  simpa using h t ht

theorem apart_of_areNames {ns : List (Node text)} (h : areNames ns = true) :
    ∀ t ∈ ns.flatMap tokens, t.1 ≠ Symbol.openParenthesis ∧ t.1 ≠ Symbol.closeParenthesis ∧
      t.1 ≠ Symbol.star := by
  intro t ht
  obtain ⟨n, hn, ht⟩ := List.mem_flatMap.1 ht
  rcases cases_of_areNames h n hn with ⟨-, item⟩ | comma
  · exact (item.apart t ht).2
  · rw [tokens_of_isToken comma (by decide), List.mem_singleton] at ht
    rw [ht]
    dsimp only
    decide

/-- Names with commas between them are read one by one. -/
theorem splitAtCommas_of_areNames {ns : List (Node text)} (h : areNames ns = true) :
    (splitAtCommas (ns.flatMap tokens)).filter (!·.isEmpty) =
      (ns.filter (·.field = some .name)).map tokens := by
  have commaless {n : Node text} (item : n.IsItem) : ∀ t ∈ n.tokens, t.1 ≠ Symbol.comma :=
    fun t ht => (item.apart t ht).1
  fun_induction areNames ns with
  | case1 => cases h
  | case2 n =>
    simp only [Bool.and_eq_true, Bool.or_eq_true, decide_eq_true_eq] at h
    obtain ⟨field, item⟩ := h
    have some : n.tokens.isEmpty = false := by simpa using IsItem.tokens_ne_nil item
    rw [List.flatMap_cons, List.flatMap_nil, List.append_nil,
      splitAtCommas_of_none (commaless item)]
    simp [field, some]
  | case3 n comma rest ih =>
    simp only [Bool.and_eq_true, Bool.or_eq_true, decide_eq_true_eq, List.isEmpty_iff] at h
    obtain ⟨⟨⟨field, item⟩, separator⟩, others⟩ := h
    have some : n.tokens.isEmpty = false := by simpa using IsItem.tokens_ne_nil item
    have bare := (isToken_iff.1 separator).2.2
    rw [List.flatMap_cons, List.flatMap_cons, tokens_of_isToken separator (by decide),
      List.singleton_append, splitAtCommas_append (commaless item) rfl]
    rcases others with rfl | others
    · simp [splitAtCommas, field, some, bare]
    · simp [field, some, bare, ih others]

theorem namesIn_of_areNames {ns : List (Node text)} (h : areNames ns = true) :
    namesIn (ns.flatMap tokens) =
      (ns.filter (·.field = some .name)).map fun n => itemName n.tokens := by
  have apart := apart_of_areNames h
  rw [namesIn, filter_parentheses fun t ht => ⟨(apart t ht).1, (apart t ht).2.1⟩,
    splitAtCommas_of_areNames h, List.map_map]
  rfl

/-- The names in a list are what its tokens say exactly if all of it is spaced. -/
theorem names_iff_of_areNames {ns : List (Node text)} (h : areNames ns = true)
    (nested : ∀ n ∈ ns, n.Nested) :
    (ns.filter (·.field = some .name)).map importedName = namesIn (ns.flatMap tokens) ↔
      ∀ n ∈ ns, n.SpacedWithin := by
  rw [namesIn_of_areNames h, List.map_inj_left]
  simp only [List.mem_filter, decide_eq_true_eq, and_imp]
  refine forall₂_congr fun n hn => ?_
  rcases cases_of_areNames h n hn with ⟨field, item⟩ | comma
  · rw [item.importedName_eq_iff (nested n hn)]
    simp [field]
  · have bare := (isToken_iff.1 comma).2.2
    simp [bare, spacedWithin_of_isToken comma (by decide)]

/-- Parentheses around the names do not count. -/
theorem exists_names_of_areEnclosed {ns : List (Node text)} (h : areEnclosed ns = true) :
    ∃ inner, areNames inner = true ∧ (∀ n ∈ inner, n ∈ ns) ∧
      ns.filter (·.field = some .name) = inner.filter (·.field = some .name) ∧
      namesIn (ns.flatMap tokens) = namesIn (inner.flatMap tokens) ∧
      ∀ n ∈ ns, n ∈ inner ∨ n.isToken Symbol.openParenthesis = true ∨
        n.isToken Symbol.closeParenthesis = true := by
  unfold areEnclosed at h
  rw [Bool.or_eq_true] at h
  rcases h with plain | enclosed
  · exact ⟨ns, plain, fun _ hn => hn, rfl, rfl, fun _ hn => .inl hn⟩
  · split at enclosed
    · cases enclosed
    · next first inner =>
      simp only [Bool.and_eq_true] at enclosed
      obtain ⟨⟨opens, closes⟩, names⟩ := enclosed
      obtain ⟨last, hl, final⟩ := (Option.any_eq_true _ _).1 closes
      obtain ⟨before, rfl⟩ := List.getLast?_eq_some_iff.1 hl
      rw [List.dropLast_concat] at names
      have open_bare := (isToken_iff.1 opens).2.2
      have close_bare := (isToken_iff.1 final).2.2
      refine ⟨before, names, by simp +contextual, ?_, ?_, ?_⟩
      · simp [open_bare, close_bare]
      · simp [namesIn, tokens_of_isToken opens (by decide), tokens_of_isToken final (by decide)]
      · intro n hn
        rcases List.mem_cons.1 hn with rfl | hn
        · exact .inr (.inl opens)
        · rcases List.mem_append.1 hn with own | hn
          · exact .inl own
          · rw [List.mem_singleton.1 hn]
            exact .inr (.inr final)

section Enclosed

variable {ns : List (Node text)} (h : areEnclosed ns = true)

include h

theorem names_iff_of_areEnclosed (nested : ∀ n ∈ ns, n.Nested) :
    (ns.filter (·.field = some .name)).map importedName = namesIn (ns.flatMap tokens) ↔
      ∀ n ∈ ns, n.SpacedWithin := by
  obtain ⟨inner, names, subset, filtered, tokens, rest⟩ := exists_names_of_areEnclosed h
  rw [filtered, tokens, names_iff_of_areNames names fun n hn => nested n (subset n hn)]
  refine ⟨fun spaced n hn => ?_, fun spaced n hn => spaced n (subset n hn)⟩
  rcases rest n hn with own | opens | closes
  · exact spaced n own
  · exact spacedWithin_of_isToken opens (by decide)
  · exact spacedWithin_of_isToken closes (by decide)

theorem starless_of_areEnclosed : ¬ (ns.flatMap tokens).any (·.1 = Symbol.star) = true := by
  obtain ⟨inner, names, -, -, -, rest⟩ := exists_names_of_areEnclosed h
  simp only [List.any_eq_true, decide_eq_true_eq, not_exists, not_and]
  intro t ht
  obtain ⟨n, hn, ht⟩ := List.mem_flatMap.1 ht
  rcases rest n hn with own | opens | closes
  · exact (apart_of_areNames names t (List.mem_flatMap.2 ⟨n, own, ht⟩)).2.2
  · rw [tokens_of_isToken opens (by decide), List.mem_singleton] at ht
    rw [ht]
    dsimp only
    decide
  · rw [tokens_of_isToken closes (by decide), List.mem_singleton] at ht
    rw [ht]
    dsimp only
    decide

theorem kind_of_mem_areEnclosed : ∀ n ∈ ns, n.kind ≠ Symbol.wildcardImport := by
  obtain ⟨inner, names, -, -, -, rest⟩ := exists_names_of_areEnclosed h
  intro n hn
  rcases rest n hn with own | opens | closes
  · rcases cases_of_areNames names n own with ⟨-, dotted | aliased⟩ | comma
    · rw [kind_of_isDotted dotted]
      decide
    · obtain ⟨-, -, -, -, kind, -⟩ := parts_of_isAliased aliased
      rw [kind]
      decide
    · rw [(isToken_iff.1 comma).1]
      decide
  · rw [(isToken_iff.1 opens).1]
    decide
  · rw [(isToken_iff.1 closes).1]
    decide

end Enclosed

/-! ### Modules that names come from -/

theorem tokens_of_isImportDots {n : Node text} (h : n.isImportDots = true) :
    n.tokens = n.parts.map fun part => (Symbol.dot, part.source) := by
  simp only [isImportDots, Bool.and_eq_true, decide_eq_true_eq] at h
  obtain ⟨⟨kind, dots⟩, filled⟩ := h
  have some : n.parts ≠ [] := by
    intro none
    simp [isFilled, none] at filled
  have leaves (part : Node text) (hp : part ∈ n.parts) :
      part.kind = Symbol.dot ∧ part.children = [] :=
    have dot := isDot_iff.1 (List.all_eq_true.1 dots part hp)
    ⟨dot.1, dot.2.1⟩
  rw [tokens_of_parts (isExtra_of_kind kind (by decide)) some, flatMap_tokens_of_leaves]
  · exact List.map_congr_left fun part hp => by rw [(leaves part hp).1]
  · exact fun part hp => ⟨isExtra_of_kind (leaves part hp).1 (by decide), (leaves part hp).2⟩

/-- Dots before a name are spaced exactly if they are counted rightly. -/
theorem spaced_iff_of_isImportDots {n : Node text} (nested : n.Nested)
    (h : n.isImportDots = true) :
    n.Spaced ↔ n.source.toList.count '.' = n.parts.length := by
  rw [count_dot_iff nested h]
  simp only [isImportDots, Bool.and_eq_true, decide_eq_true_eq] at h
  have other : Symbol.importDots ≠ Symbol.dottedName := by decide
  exact ⟨fun spaced => spaced.dots h.1.1,
    fun gaps => ⟨fun same => absurd (h.1.1.symm.trans same) other, fun _ => gaps⟩⟩

/-- The reading of dots and what stands behind them. -/
theorem readSource_append {front back : List (Symbol × String)}
    (dots : ∀ t ∈ front, t.1 = Symbol.dot) (stops : ∀ t, back.head? = some t → t.1 ≠ Symbol.dot) :
    readSource (front ++ back) =
      (String.ofList (List.replicate front.length '.') ++ dottedText back, front.length) := by
  have level : (front ++ back).takeWhile (·.1 = Symbol.dot) = front := by
    rw [List.takeWhile_append_of_pos fun t ht => by simpa using dots t ht]
    cases back with
    | nil => rw [List.takeWhile_nil, List.append_nil]
    | cons t ts =>
      rw [List.takeWhile_cons_of_neg (by simpa using stops t rfl), List.append_nil]
  have none : front.filter (·.1 = Symbol.identifier) = [] := by
    rw [List.filter_eq_nil_iff]
    intro t ht
    rw [dots t ht]
    decide
  rw [readSource, level, dottedText, dottedText, List.filter_append, none, List.nil_append]

theorem exists_first_of_alternate {ns : List (Node text)} (h : alternate ns = true) :
    ∃ first rest, ns = first :: rest ∧ first.isIdentifier = true := by
  fun_cases alternate ns with
  | case1 => cases h
  | case2 n => exact ⟨n, [], rfl, h⟩
  | case3 n dot rest =>
    simp only [alternate, Bool.and_eq_true] at h
    exact ⟨n, dot :: rest, rfl, h.1.1⟩

theorem head?_tokens_of_isDotted {n : Node text} (h : n.isDotted = true) :
    ∀ t, n.tokens.head? = some t → t.1 ≠ Symbol.dot := by
  obtain ⟨first, rest, parts, word⟩ := exists_first_of_alternate (alternate_of_isDotted h)
  rw [tokens_of_isDotted h, parts]
  rintro t ⟨⟩
  dsimp only
  rw [(isIdentifier_iff.1 word).1]
  decide

/-- The parts of a name with dots before it. -/
theorem parts_of_isRelative {n : Node text} (h : n.isRelative = true) :
    n.kind = Symbol.relativeImport ∧ ∃ dots, dots.isImportDots = true ∧
      (n.parts = [dots] ∨ ∃ name, name.isDotted = true ∧ n.parts = [dots, name]) := by
  simp only [isRelative, Bool.and_eq_true, decide_eq_true_eq] at h
  obtain ⟨kind, built⟩ := h
  refine ⟨kind, ?_⟩
  split at built
  · next dots parts => exact ⟨dots, built, .inl parts⟩
  · next dots name parts =>
    rw [Bool.and_eq_true] at built
    exact ⟨dots, built.1, .inr ⟨name, built.2, parts⟩⟩
  · cases built

/-- The references to a module are equal exactly if their dots are as many and their names alike. -/
theorem reference_eq_iff {level level' : Nat} {name name' : String} :
    (String.ofList (List.replicate level '.') ++ name, level) =
        (String.ofList (List.replicate level' '.') ++ name', level') ↔
      level = level' ∧ name = name' := by
  rw [Prod.mk.injEq]
  constructor
  · rintro ⟨same, rfl⟩
    exact ⟨rfl, (String.append_right_inj _).1 same⟩
  · rintro ⟨rfl, rfl⟩
    exact ⟨rfl, rfl⟩

theorem kind_of_isImportDots {n : Node text} (h : n.isImportDots = true) :
    n.kind = Symbol.importDots := by
  simp only [isImportDots, Bool.and_eq_true, decide_eq_true_eq] at h
  exact h.1.1

theorem kinds_of_source {n : Node text} (h : n.isDotted = true ∨ n.isRelative = true) :
    ∀ t ∈ n.tokens, t.1 = Symbol.identifier ∨ t.1 = Symbol.dot := by
  rcases h with dotted | relative
  · exact kinds_of_isDotted dotted
  · obtain ⟨kind, dots, prefixed, parts⟩ := parts_of_isRelative relative
    have solid := isExtra_of_kind kind (by decide)
    have front : ∀ t ∈ dots.tokens, t.1 = Symbol.identifier ∨ t.1 = Symbol.dot := by
      rw [tokens_of_isImportDots prefixed]
      simp +contextual
    rcases parts with parts | ⟨name, dotted, parts⟩
    · rw [tokens_of_parts solid (by simp [parts]), parts]
      simpa using front
    · rw [tokens_of_parts solid (by simp [parts]), parts, List.flatMap_cons, List.flatMap_cons,
        List.flatMap_nil, List.append_nil, List.forall_mem_append]
      exact ⟨front, kinds_of_isDotted dotted⟩

theorem moduleReference_eq_iff_of_isDotted {n : Node text} (nested : n.Nested)
    (dotted : n.isDotted = true) :
    n.moduleReference = readSource n.tokens ↔ n.SpacedWithin := by
  have other : n.kind ≠ Symbol.relativeImport := by
    rw [kind_of_isDotted dotted]
    decide
  have read : readSource ([] ++ n.tokens) = _ :=
    readSource_append nofun (head?_tokens_of_isDotted dotted)
  rw [List.nil_append] at read
  rw [spacedWithin_of_isDotted dotted, spaced_iff_of_isDotted nested dotted, moduleReference,
    if_neg other, read]
  simp

/-- With dots before it, the number of dots is at stake as well as the name behind them. -/
theorem moduleReference_eq_iff_of_isRelative {n : Node text} (nested : n.Nested)
    (relative : n.isRelative = true) :
    n.moduleReference = readSource n.tokens ↔ n.SpacedWithin := by
  obtain ⟨kind, dots, prefixed, parts⟩ := parts_of_isRelative relative
  have solid := isExtra_of_kind kind (by decide)
  have spaced : n.Spaced := spaced_of_kind kind (by decide)
  have front : ∀ t ∈ dots.tokens, t.1 = Symbol.dot := by
    rw [tokens_of_isImportDots prefixed]
    simp +contextual
  have many : dots.tokens.length = dots.parts.length := by
    rw [tokens_of_isImportDots prefixed, List.length_map]
  have dots_kind := kind_of_isImportDots prefixed
  have other : dots.kind ≠ Symbol.dottedName := by
    rw [dots_kind]
    decide
  have found : n.childOfKind? Symbol.importDots = some dots := by
    rw [childOfKind?_eq n (by decide)]
    rcases parts with parts | ⟨name, -, parts⟩ <;> simp [parts, dots_kind]
  have inner : dots.Nested := by
    refine nested_of_mem_parts nested ?_
    rcases parts with parts | ⟨name, -, parts⟩ <;> simp [parts]
  rw [moduleReference, if_pos kind, found, childOfKind?_eq n (by decide), Option.map_some,
    Option.getD_some]
  rcases parts with parts | ⟨name, dotted, parts⟩
  · have read : readSource (dots.tokens ++ []) = _ := readSource_append front nofun
    have none : n.parts.find? (·.kind = Symbol.dottedName) = none := by simp [parts, other]
    rw [List.append_nil] at read
    rw [none, tokens_of_parts solid (by simp [parts]), parts, List.flatMap_cons,
      List.flatMap_nil, List.append_nil, read, many, reference_eq_iff,
      ← spaced_iff_of_isImportDots inner prefixed]
    simp [SpacedWithin, parts, spaced, dottedText, joinTexts]
  · have read : readSource (dots.tokens ++ name.tokens) = _ :=
      readSource_append front (head?_tokens_of_isDotted dotted)
    have found : n.parts.find? (·.kind = Symbol.dottedName) = some name := by
      simp [parts, other, kind_of_isDotted dotted]
    have name_nested : name.Nested := nested_of_mem_parts nested (by simp [parts])
    rw [found, tokens_of_parts solid (by simp [parts]), parts, List.flatMap_cons,
      List.flatMap_cons, List.flatMap_nil, List.append_nil, read, many, Option.map_some,
      Option.getD_some, reference_eq_iff, ← spaced_iff_of_isImportDots inner prefixed,
      ← spaced_iff_of_isDotted name_nested dotted]
    simp [SpacedWithin, parts, spaced]

/-- The module of an import is what its tokens say exactly if it is spaced. -/
theorem moduleReference_eq_iff {n : Node text} (nested : n.Nested)
    (h : n.isDotted = true ∨ n.isRelative = true) :
    n.moduleReference = readSource n.tokens ↔ n.SpacedWithin := by
  rcases h with dotted | relative
  · exact moduleReference_eq_iff_of_isDotted nested dotted
  · exact moduleReference_eq_iff_of_isRelative nested relative

/-! ### Import statements -/

/-- What an import statement says, made from stretches of its text. -/
def spellings (n : Node text) : List Spelling :=
  let names := (n.childrenOf .name).map importedName
  if n.kind = Symbol.importStatement then names.map fun name => ⟨name, 0, [], .wholeModule⟩
  else if n.kind = Symbol.importFromStatement then
    match n.child? .moduleName with
    | none => []
    | some moduleName =>
      let (reference, level) := moduleName.moduleReference
      let kind : ImportKind :=
        if (n.childOfKind? Symbol.wildcardImport).isSome then .wildcard else .names
      [⟨reference, level, names, kind⟩]
  else if n.kind = Symbol.futureImportStatement then [⟨"__future__", 0, names, .names⟩]
  else []

/-- The records of a statement are what it says, with its text and its line. -/
theorem imports_eq (n : Node text) :
    n.imports = n.spellings.map fun s =>
      ⟨s.reference, s.level, nameSet s.names, s.kind, n.source, n.startLine⟩ := by
  unfold imports spellings
  dsimp only
  split
  · simp [nameSet, sortedSet]
  · split
    · cases n.child? .moduleName with
      | none => rfl
      | some moduleName => rfl
    · split
      · rfl
      · rfl

theorem readImport_from {keyword : Symbol × String} {source names : List (Symbol × String)}
    {middle : Symbol × String} (hk : keyword.1 = Symbol.fromKeyword)
    (hs : ∀ t ∈ source, t.1 ≠ Symbol.importKeyword) (hm : middle.1 = Symbol.importKeyword) :
    readImport (keyword :: (source ++ middle :: names)) =
      if source.any (·.1 = Symbol.futureKeyword) then [⟨"__future__", 0, namesIn names, .names⟩]
      else if names.any (·.1 = Symbol.star) then
        [⟨(readSource source).1, (readSource source).2, [], .wildcard⟩]
      else [⟨(readSource source).1, (readSource source).2, namesIn names, .names⟩] := by
  have other : Symbol.fromKeyword ≠ Symbol.importKeyword := by decide
  have front : ∀ t ∈ source, decide (t.1 ≠ Symbol.importKeyword) = true := by simpa using hs
  have taken : (source ++ middle :: names).takeWhile (·.1 ≠ Symbol.importKeyword) = source := by
    rw [List.takeWhile_append_of_pos front]
    simp [hm]
  have left : (source ++ middle :: names).dropWhile (·.1 ≠ Symbol.importKeyword) =
      middle :: names := by
    rw [List.dropWhile_append_of_pos front]
    simp [hm]
  rw [readImport, if_neg (by rw [hk]; exact other), taken, left, List.tail_cons]

/-! ### The three forms of the statement -/

section Forms

variable {n : Node text} (built : n.isImport = true)

include built

/-- The parts of a statement that imports modules. -/
theorem form_of_importStatement (kind : n.kind = Symbol.importStatement) :
    n.hasPlainExtras = true ∧ ∃ keyword names, n.parts = keyword :: names ∧
      keyword.isToken Symbol.importKeyword = true ∧ areNames names = true := by
  simp only [isImport, Bool.and_eq_true] at built
  obtain ⟨plain, built⟩ := built
  split at built
  · next keyword names parts =>
    rw [if_pos kind, Bool.and_eq_true] at built
    exact ⟨plain, keyword, names, parts, built⟩
  · cases built

/-- The parts of a statement that imports from somewhere. -/
theorem parts_of_from (other : n.kind ≠ Symbol.importStatement) :
    n.hasPlainExtras = true ∧ ∃ keyword source middle names,
      n.parts = keyword :: source :: middle :: names ∧
      keyword.isToken Symbol.fromKeyword = true ∧ middle.isToken Symbol.importKeyword = true ∧
      (if n.kind = Symbol.futureImportStatement then
        source.isToken Symbol.futureKeyword && areEnclosed names
      else
        source.field = some .moduleName && (source.isDotted || source.isRelative) &&
          (areEnclosed names ||
            match names with
            | [wildcard] => wildcard.isWildcard
            | _ => false)) = true := by
  simp only [isImport, Bool.and_eq_true] at built
  obtain ⟨plain, built⟩ := built
  refine ⟨plain, ?_⟩
  split at built
  · next keyword rest parts =>
    rw [if_neg other] at built
    split at built
    · next source middle names =>
      rw [Bool.and_eq_true, Bool.and_eq_true] at built
      exact ⟨keyword, source, middle, names, parts, built.1.1, built.1.2, built.2⟩
    · cases built
  · cases built

/-- The parts of a statement that imports from the future. -/
theorem form_of_futureImportStatement (kind : n.kind = Symbol.futureImportStatement) :
    n.hasPlainExtras = true ∧ ∃ keyword source middle names,
      n.parts = keyword :: source :: middle :: names ∧
      keyword.isToken Symbol.fromKeyword = true ∧ middle.isToken Symbol.importKeyword = true ∧
      source.isToken Symbol.futureKeyword = true ∧ areEnclosed names = true := by
  obtain ⟨plain, keyword, source, middle, names, parts, hk, hm, rest⟩ :=
    parts_of_from built (by rw [kind]; decide)
  rw [if_pos kind, Bool.and_eq_true] at rest
  exact ⟨plain, keyword, source, middle, names, parts, hk, hm, rest⟩

/-- The parts of a statement that imports from a module: some of its names, or all of them. -/
theorem form_of_importFromStatement (kind : n.kind = Symbol.importFromStatement) :
    n.hasPlainExtras = true ∧ ∃ keyword source middle names,
      n.parts = keyword :: source :: middle :: names ∧
      keyword.isToken Symbol.fromKeyword = true ∧ middle.isToken Symbol.importKeyword = true ∧
      source.field = some .moduleName ∧ (source.isDotted = true ∨ source.isRelative = true) ∧
      (areEnclosed names = true ∨ ∃ wildcard, names = [wildcard] ∧ wildcard.isWildcard = true) := by
  obtain ⟨plain, keyword, source, middle, names, parts, hk, hm, rest⟩ :=
    parts_of_from built (by rw [kind]; decide)
  rw [if_neg (by rw [kind]; decide)] at rest
  simp only [Bool.and_eq_true, Bool.or_eq_true, decide_eq_true_eq] at rest
  obtain ⟨⟨field, shape⟩, listed⟩ := rest
  refine ⟨plain, keyword, source, middle, names, parts, hk, hm, field, shape, ?_⟩
  rcases listed with enclosed | wild
  · exact .inl enclosed
  · split at wild
    · next wildcard => exact .inr ⟨wildcard, rfl, wild⟩
    · cases wild

end Forms

/-- The parts of the sign for all names. -/
theorem parts_of_isWildcard {n : Node text} (h : n.isWildcard = true) :
    n.kind = Symbol.wildcardImport ∧ n.field = none ∧
      ∃ star, n.parts = [star] ∧ star.isToken Symbol.star = true := by
  simp only [isWildcard, Bool.and_eq_true, decide_eq_true_eq] at h
  obtain ⟨⟨kind, field⟩, built⟩ := h
  refine ⟨kind, field, ?_⟩
  split at built
  · next star parts => exact ⟨star, parts, built⟩
  · cases built

theorem tokens_of_isWildcard {n : Node text} (h : n.isWildcard = true) :
    ∃ star, n.tokens = [(Symbol.star, star)] ∧ n.SpacedWithin := by
  obtain ⟨kind, -, star, parts, isStar⟩ := parts_of_isWildcard h
  refine ⟨star.source, ?_, spaced_of_kind kind (by decide), ?_⟩
  · rw [tokens_of_parts (isExtra_of_kind kind (by decide)) (by simp [parts]), parts]
    simp [tokens_of_isToken isStar (by decide)]
  · rw [parts, List.forall_mem_singleton]
    exact (spacedWithin_of_isToken isStar (by decide)).1

/-- A statement that imports modules says what its tokens say exactly if it is spaced. -/
theorem spellings_iff_of_importStatement {n : Node text} (nested : n.Nested)
    (built : n.isImport = true) (kind : n.kind = Symbol.importStatement) :
    n.spellings = readImport n.tokens ↔ n.WellSpaced := by
  obtain ⟨plain, keyword, names, parts, hk, areNames⟩ := form_of_importStatement built kind
  have bare := (isToken_iff.1 hk).2.2
  have inner : ∀ part ∈ names, part.Nested := fun part hp =>
    nested_of_mem_parts nested (by simp [parts, hp])
  have injective : Function.Injective fun name : String =>
      (⟨name, 0, [], .wholeModule⟩ : Spelling) := fun _ _ same => (Spelling.mk.inj same).1
  rw [spellings, if_pos kind, childrenOf_eq plain, tokens_of_parts
    (isExtra_of_kind kind (by decide)) (by simp [parts]), WellSpaced, parts, List.flatMap_cons,
    tokens_of_isToken hk (by decide), List.singleton_append, readImport,
    if_pos rfl, List.filter_cons_of_neg (by simp [bare]),
    injective.list_map.eq_iff, names_iff_of_areNames areNames inner, List.forall_mem_cons]
  simp [spacedWithin_of_isToken hk (by decide)]

section From

variable {n keyword source middle : Node text} {names : List (Node text)}
  (parts : n.parts = keyword :: source :: middle :: names)
  (from_keyword : keyword.isToken Symbol.fromKeyword = true)
  (import_keyword : middle.isToken Symbol.importKeyword = true)

include parts from_keyword import_keyword

theorem tokens_of_from (solid : n.isExtra = false) :
    n.tokens = (Symbol.fromKeyword, keyword.source) ::
      (source.tokens ++ (Symbol.importKeyword, middle.source) :: names.flatMap tokens) := by
  rw [tokens_of_parts solid (by simp [parts]), parts, List.flatMap_cons, List.flatMap_cons,
    List.flatMap_cons, tokens_of_isToken from_keyword (by decide),
    tokens_of_isToken import_keyword (by decide)]
  rfl

theorem wellSpaced_of_from :
    n.WellSpaced ↔ source.SpacedWithin ∧ ∀ part ∈ names, part.SpacedWithin := by
  rw [WellSpaced, parts]
  simp [spacedWithin_of_isToken from_keyword (by decide),
    spacedWithin_of_isToken import_keyword (by decide)]

theorem childrenOf_name_of_from (plain : n.hasPlainExtras = true)
    (unnamed : source.field ≠ some .name) :
    n.childrenOf .name = names.filter (·.field = some .name) := by
  have bare := (isToken_iff.1 from_keyword).2.2
  have bare' := (isToken_iff.1 import_keyword).2.2
  rw [childrenOf_eq plain, parts]
  simp [bare, bare', unnamed]

omit import_keyword in
theorem child?_moduleName_of_from (plain : n.hasPlainExtras = true)
    (field : source.field = some .moduleName) : n.child? .moduleName = some source := by
  have bare := (isToken_iff.1 from_keyword).2.2
  rw [child?_eq plain, parts]
  simp [bare, field]

/-- What the tokens of the statement say. -/
theorem readImport_of_from (solid : n.isExtra = false)
    (shape : source.isDotted = true ∨ source.isRelative = true) :
    readImport n.tokens =
      if (names.flatMap tokens).any (·.1 = Symbol.star) then
        [⟨(readSource source.tokens).1, (readSource source.tokens).2, [], .wildcard⟩]
      else
        [⟨(readSource source.tokens).1, (readSource source.tokens).2,
          namesIn (names.flatMap tokens), .names⟩] := by
  have front : ∀ t ∈ source.tokens, t.1 ≠ Symbol.importKeyword := by
    intro t ht
    rcases kinds_of_source shape t ht with kind | kind <;> rw [kind] <;> decide
  have unsaid : ¬ (source.tokens.any (·.1 = Symbol.futureKeyword)) = true := by
    simp only [List.any_eq_true, decide_eq_true_eq, not_exists, not_and]
    intro t ht
    rcases kinds_of_source shape t ht with kind | kind <;> rw [kind] <;> decide
  rw [tokens_of_from parts from_keyword import_keyword solid, readImport_from rfl front rfl,
    if_neg unsaid]

theorem readImport_of_future (solid : n.isExtra = false)
    (future : source.isToken Symbol.futureKeyword = true) :
    readImport n.tokens = [⟨"__future__", 0, namesIn (names.flatMap tokens), .names⟩] := by
  have front : ∀ t ∈ source.tokens, t.1 ≠ Symbol.importKeyword := by
    rw [tokens_of_isToken future (by decide)]
    simp
    decide
  have said : (source.tokens.any (·.1 = Symbol.futureKeyword)) = true := by
    rw [tokens_of_isToken future (by decide)]
    rfl
  rw [tokens_of_from parts from_keyword import_keyword solid, readImport_from rfl front rfl,
    if_pos said]

theorem childOfKind?_of_enclosed (shape : source.isDotted = true ∨ source.isRelative = true)
    (enclosed : areEnclosed names = true) : n.childOfKind? Symbol.wildcardImport = none := by
  rw [childOfKind?_eq n (by decide), parts, List.find?_eq_none]
  simp only [List.forall_mem_cons, decide_eq_true_eq]
  refine ⟨?_, ?_, ?_, kind_of_mem_areEnclosed enclosed⟩
  · rw [(isToken_iff.1 from_keyword).1]
    decide
  · rcases shape with dotted | relative
    · rw [kind_of_isDotted dotted]
      decide
    · rw [(parts_of_isRelative relative).1]
      decide
  · rw [(isToken_iff.1 import_keyword).1]
    decide

omit from_keyword import_keyword in
theorem childOfKind?_of_wildcard {wildcard : Node text} (single : names = [wildcard])
    (wild : wildcard.isWildcard = true) :
    (n.childOfKind? Symbol.wildcardImport).isSome = true := by
  rw [childOfKind?_eq n (by decide), parts, single, List.find?_isSome]
  exact ⟨wildcard, by simp, by simpa using (parts_of_isWildcard wild).1⟩

end From

theorem spellings_iff_of_futureImportStatement {n : Node text} (nested : n.Nested)
    (built : n.isImport = true) (kind : n.kind = Symbol.futureImportStatement) :
    n.spellings = readImport n.tokens ↔ n.WellSpaced := by
  have other : Symbol.futureImportStatement ≠ Symbol.importStatement := by decide
  have other' : Symbol.futureImportStatement ≠ Symbol.importFromStatement := by decide
  obtain ⟨plain, keyword, source, middle, names, parts, hk, hm, future, enclosed⟩ :=
    form_of_futureImportStatement built kind
  have inner : ∀ part ∈ names, part.Nested := fun part hp =>
    nested_of_mem_parts nested (by simp [parts, hp])
  have bare : source.field ≠ some .name := by
    rw [(isToken_iff.1 future).2.2]
    nofun
  rw [wellSpaced_of_from parts hk hm, readImport_of_future parts hk hm
    (isExtra_of_kind kind (by decide)) future, spellings,
    if_neg (by rw [kind]; exact other), if_neg (by rw [kind]; exact other'), if_pos kind,
    childrenOf_name_of_from parts hk hm plain bare]
  simp only [List.cons.injEq, Spelling.mk.injEq, and_true, true_and]
  rw [names_iff_of_areEnclosed enclosed inner]
  simp [spacedWithin_of_isToken future (by decide)]

theorem spellings_iff_of_importFromStatement {n : Node text} (nested : n.Nested)
    (built : n.isImport = true) (kind : n.kind = Symbol.importFromStatement) :
    n.spellings = readImport n.tokens ↔ n.WellSpaced := by
  have other : Symbol.importFromStatement ≠ Symbol.importStatement := by decide
  obtain ⟨plain, keyword, source, middle, names, parts, hk, hm, field, shape, listed⟩ :=
    form_of_importFromStatement built kind
  have source_nested : source.Nested := nested_of_mem_parts nested (by simp [parts])
  have inner : ∀ part ∈ names, part.Nested := fun part hp =>
    nested_of_mem_parts nested (by simp [parts, hp])
  have bare : source.field ≠ some .name := by
    rw [field]
    nofun
  have found := child?_moduleName_of_from parts hk plain field
  rw [wellSpaced_of_from parts hk hm, readImport_of_from parts hk hm
    (isExtra_of_kind kind (by decide)) shape, spellings, if_neg (by rw [kind]; exact other),
    if_pos kind, found, childrenOf_name_of_from parts hk hm plain bare,
    ← moduleReference_eq_iff source_nested shape, Prod.ext_iff]
  dsimp only
  rcases listed with enclosed | ⟨wildcard, rfl, wild⟩
  · have named := childOfKind?_of_enclosed parts hk hm shape enclosed
    rw [if_neg (starless_of_areEnclosed enclosed), named, ← names_iff_of_areEnclosed enclosed inner]
    simp [and_assoc]
  · -- the sign for all names is not a name, and nothing in it can be spaced apart
    obtain ⟨star, tokens, spaced⟩ := tokens_of_isWildcard wild
    rw [if_pos (childOfKind?_of_wildcard parts rfl wild), List.flatMap_cons, List.flatMap_nil,
      List.append_nil, tokens]
    simp [(parts_of_isWildcard wild).2.1, spaced]

/-- An import statement says what its tokens say exactly if it is spaced. -/
theorem spellings_iff {n : Node text} (nested : n.Nested) (built : n.isImport = true)
    (kind : n.kind = Symbol.importStatement ∨ n.kind = Symbol.importFromStatement ∨
      n.kind = Symbol.futureImportStatement) :
    n.spellings = readImport n.tokens ↔ n.WellSpaced := by
  rcases kind with kind | kind | kind
  · exact spellings_iff_of_importStatement nested built kind
  · exact spellings_iff_of_importFromStatement nested built kind
  · exact spellings_iff_of_futureImportStatement nested built kind

end Node

end CallContext
