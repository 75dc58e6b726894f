import CallContext.Proofs.Syntax.Shape

/-!
# The shape of modules

A syntax tree without faults comes from a subtree that conforms to the grammar, so that each of its
nodes has the parts that the analysis asks for: this goes by induction over the subtree, with one
case for each kind of node.  So the tree of a module has the shape that the analysis asks for
(`Node.isShapely_of_parse?`, `Module.shapely_of_mem`).
-/

namespace CallContext

variable {text : List Char}

namespace Node

open Subtree SymbolSet

variable {n : Node text} {t : Subtree text}

/-! ### Parts of imports -/

/-- A dotted name starts with an identifier. -/
theorem starts_of_isDotted (nested : n.Nested) (h : n.isDotted = true) :
    Identifier.starts n.source = true := by
  have filled : n.isFilled = true := by
    simp only [isDotted, Bool.and_eq_true] at h
    exact h.2
  obtain ⟨first, rest, parts, identifier⟩ := exists_first_of_alternate (alternate_of_isDotted h)
  have word := (isIdentifier_iff.1 identifier).2.2
  have starts : Identifier.starts first.source = true := by
    unfold Identifier.isWord at word
    unfold Identifier.starts
    cases chars : first.source.toList with
    | nil => rw [chars] at word; cases word
    | cons c cs =>
      rw [chars, Bool.and_eq_true] at word
      simpa using word.1
  have front : ∃ back, textOf (first :: rest) = first.source ++ back := by
    cases rest with
    | nil => exact ⟨"", by rw [String.append_empty, textOf]⟩
    | cons second others => exact ⟨_, by rw [textOf, String.append_assoc]⟩
  obtain ⟨back, whole⟩ := front
  rw [source_eq_textOf nested filled, parts, whole]
  unfold Identifier.starts at starts ⊢
  obtain ⟨c, hc, start⟩ := (Option.any_eq_true _ _).1 starts
  rw [String.toList_append, List.head?_append, hc]
  simpa using start

theorem isDottedName_of_isDotted (nested : n.Nested) (h : n.isDotted = true) :
    n.isDottedName = true := by
  rw [isDottedName, Bool.and_eq_true, decide_eq_true_eq]
  exact ⟨kind_of_isDotted h, starts_of_isDotted nested h⟩

theorem IsItem.isImportedName (nested : n.Nested) (h : n.IsItem) : n.isImportedName = true := by
  rw [Node.isImportedName, Bool.or_eq_true]
  rcases h with dotted | aliased
  · exact .inl (isDottedName_of_isDotted nested dotted)
  · obtain ⟨name, as, other, parts, kind, found, dotted, -⟩ := parts_of_isAliased aliased
    have inner : name.Nested := nested_of_mem_parts nested (by simp [parts])
    refine .inr ?_
    rw [found, Bool.and_eq_true, decide_eq_true_eq]
    exact ⟨kind, isDottedName_of_isDotted inner dotted⟩

/-- Dots before a name are dots in the text. -/
theorem contains_dot_of_isImportDots (nested : n.Nested) (h : n.isImportDots = true) :
    n.source.toList.contains '.' = true := by
  simp only [isImportDots, Bool.and_eq_true] at h
  obtain ⟨⟨-, dots⟩, filled⟩ := h
  obtain ⟨first, head, -⟩ := (Option.any_eq_true _ _).1 (Bool.and_eq_true_iff.1 filled).1
  obtain ⟨rest, parts⟩ := List.head?_eq_some_iff.1 head
  have dot := (isDot_iff.1 (List.all_eq_true.1 dots first (by simp [parts]))).2.2.2
  rw [source_eq_textOf nested filled, parts]
  cases rest with
  | nil => rw [textOf, dot]; decide
  | cons second others =>
    rw [textOf, dot, String.append_assoc, String.toList_append]
    simp

theorem isModuleName_of_source (nested : n.Nested) (h : n.isDotted = true ∨ n.isRelative = true) :
    n.isModuleName = true := by
  rw [isModuleName, Bool.or_eq_true]
  rcases h with dotted | relative
  · exact .inl (isDottedName_of_isDotted nested dotted)
  · obtain ⟨kind, dots, prefixed, parts⟩ := parts_of_isRelative relative
    have inside : dots ∈ n.parts := by
      rcases parts with parts | ⟨name, -, parts⟩ <;> simp [parts]
    have found : n.childOfKind? Symbol.importDots = some dots := by
      have := kind_of_isImportDots prefixed
      rw [childOfKind?_eq n (by decide)]
      rcases parts with parts | ⟨name, -, parts⟩ <;> simp [parts, this]
    refine .inr ?_
    rw [found, Bool.and_eq_true, decide_eq_true_eq]
    exact ⟨kind, contains_dot_of_isImportDots (nested_of_mem_parts nested inside) prefixed⟩

/-- A list of imported names has a name, and all its names are imported names. -/
theorem all_isImportedName_of_areNames {ns : List (Node text)} (nested : ∀ n ∈ ns, n.Nested)
    (h : areNames ns = true) :
    (!(ns.filter (·.field = some .name)).isEmpty &&
      (ns.filter (·.field = some .name)).all isImportedName) = true := by
  rw [Bool.and_eq_true, List.all_eq_true]
  constructor
  · fun_cases areNames ns with
    | case1 => cases h
    | case2 n => simp_all [areNames]
    | case3 n comma rest => simp_all [areNames]
  · intro n hn
    obtain ⟨member, field⟩ := List.mem_filter.1 hn
    rcases cases_of_areNames h n member with ⟨-, item⟩ | comma
    · exact item.isImportedName (nested n member)
    · rw [(isToken_iff.1 comma).2.2] at field
      cases field

theorem all_isImportedName_of_areEnclosed {ns : List (Node text)} (nested : ∀ n ∈ ns, n.Nested)
    (h : areEnclosed ns = true) :
    (!(ns.filter (·.field = some .name)).isEmpty &&
      (ns.filter (·.field = some .name)).all isImportedName) = true := by
  obtain ⟨inner, names, subset, filtered, -⟩ := exists_names_of_areEnclosed h
  rw [filtered]
  exact all_isImportedName_of_areNames (fun n hn => nested n (subset n hn)) names

/-- The names in a statement that imports whole modules, or from the future. -/
theorem hasParts_of_names (nested : n.Nested) (built : n.isImport = true)
    (kind : n.kind = Symbol.importStatement ∨ n.kind = Symbol.futureImportStatement) :
    (!(n.childrenOf .name).isEmpty && (n.childrenOf .name).all isImportedName) = true := by
  have inner (part : Node text) (hp : part ∈ n.parts) : part.Nested :=
    nested_of_mem_parts nested hp
  rcases kind with kind | kind
  · obtain ⟨plain, keyword, names, parts, hk, areNames⟩ := form_of_importStatement built kind
    have bare := (isToken_iff.1 hk).2.2
    rw [childrenOf_eq plain, parts, List.filter_cons_of_neg (by simp [bare])]
    exact all_isImportedName_of_areNames (fun part hp => inner part (by simp [parts, hp])) areNames
  · obtain ⟨plain, keyword, source, middle, names, parts, hk, hm, future, enclosed⟩ :=
      form_of_futureImportStatement built kind
    have bare : source.field ≠ some .name := by
      simp [(isToken_iff.1 future).2.2]
    rw [childrenOf_name_of_from parts hk hm plain bare]
    exact all_isImportedName_of_areEnclosed (fun part hp => inner part (by simp [parts, hp]))
      enclosed

theorem hasParts_of_from (nested : n.Nested) (built : n.isImport = true)
    (kind : n.kind = Symbol.importFromStatement) :
    ((n.child? .moduleName).any isModuleName && (n.childrenOf .name).all isImportedName &&
      decide ((n.childrenOf .name).isEmpty = (n.childOfKind? Symbol.wildcardImport).isSome)) =
        true := by
  obtain ⟨plain, keyword, source, middle, names, parts, hk, hm, field, shape, listed⟩ :=
    form_of_importFromStatement built kind
  have bare : source.field ≠ some .name := by
    simp [field]
  have inner (part : Node text) (hp : part ∈ n.parts) : part.Nested :=
    nested_of_mem_parts nested hp
  have isModule := isModuleName_of_source (inner source (by simp [parts])) shape
  rw [child?_moduleName_of_from parts hk plain field, Option.any_some, isModule, Bool.true_and,
    childrenOf_name_of_from parts hk hm plain bare]
  rcases listed with enclosed | ⟨wildcard, rfl, wild⟩
  · have all := all_isImportedName_of_areEnclosed
      (fun part hp => inner part (by simp [parts, hp])) enclosed
    rw [Bool.and_eq_true] at all
    rw [childOfKind?_of_enclosed parts hk hm shape enclosed, all.2]
    simpa using all.1
  · rw [childOfKind?_of_wildcard parts rfl wild]
    simp [(parts_of_isWildcard wild).2.1]

/-! ### All nodes -/

theorem isImport_display (h : t.Conforms) (field : Option Field)
    (symbol : t.symbol = Symbol.importStatement ∨ t.symbol = Symbol.futureImportStatement ∨
      t.symbol = Symbol.importFromStatement) : (display none field t).isImport = true := by
  rcases symbol with symbol | symbol | symbol
  · exact isImport_of_plain h symbol field
  · exact isImport_of_future h symbol field
  · exact isImport_of_from h symbol field

/-- A node under its own name is built as the grammar says. -/
theorem isBuilt_display (h : t.Conforms) (field : Option Field) :
    (display none field t).isBuilt = true := by
  unfold isBuilt
  rw [kind_display, Option.getD_none]
  split
  · next symbol =>
    exact isIdentifier_display h (.inl symbol) (by rw [symbol]; decide) (by simpa using symbol)
      field
  split
  · next symbol => exact callee_display h symbol field
  split
  · next symbol => exact attribute_display h symbol field
  split
  · next symbol => exact (definition_display h (by simpa using symbol) field).2
  split
  · next symbol => exact block_display h (.inl symbol) field
  split
  · next symbol => exact expressionStatement_display h symbol field
  split
  · next symbol => exact isImport_display h field (by simpa [or_assoc] using symbol)
  split
  · next symbol => exact literal_display h symbol field
  · rfl

theorem hasParts_display (h : t.Conforms) (field : Option Field)
    (nested : (display none field t).Nested) : (display none field t).hasParts = true := by
  have built := isImport_display h field
  unfold hasParts
  rw [kind_display, Option.getD_none]
  split
  · next symbol => exact (definition_display h (by simpa using symbol) field).1
  split
  · next symbol => exact decorated_display h symbol field
  split
  · next symbol =>
    have symbol : t.symbol = Symbol.importStatement ∨ t.symbol = Symbol.futureImportStatement := by
      simpa using symbol
    exact hasParts_of_names nested (built (symbol.imp_right .inl)) (by simpa using symbol)
  split
  · next symbol =>
    exact hasParts_of_from nested (built (.inr (.inr symbol))) (by simpa using symbol)
  · rfl

/-- A node has the parts that the analysis asks for and is built as the grammar says. -/
def Formed (n : Node text) : Prop := n.Nested → (n.hasParts && n.isBuilt) = true

/-- A subtree is displayed as a node that is formed, whatever the kind that its parent gives it. -/
theorem formed_display (h : t.Conforms) {kind : Option Symbol} (displayable : Displayable kind t)
    (field : Option Field) : (display kind field t).Formed := by
  intro nested
  rw [Bool.and_eq_true]
  cases kind with
  | none => exact ⟨hasParts_display h field nested, isBuilt_display h field⟩
  | some k =>
    unfold hasParts isBuilt
    rw [kind_display, Option.getD_some]
    rcases displayable k rfl with ⟨rfl, keyword⟩ | ⟨rfl, has⟩ | other
    · have word : Lexeme.isKeyword t.symbol = true ∧ t.symbol.code < Symbol.terminalCount := by
        generalize t.symbol = symbol at keyword
        obtain ⟨code⟩ := symbol
        rw [nameKeywords, has_only] at keyword
        simp only [List.contains_eq_mem, List.mem_cons, List.not_mem_nil, or_false,
          decide_eq_true_eq] at keyword
        rcases keyword with rfl | rfl | rfl | rfl | rfl | rfl <;> decide
      exact ⟨rfl, isIdentifier_display h (.inr word.1) word.2 rfl field⟩
    · exact ⟨rfl, block_display h (.inr has) field⟩
    · obtain ⟨code⟩ := k
      simp only [List.mem_cons, List.not_mem_nil, or_false] at other
      rcases other with rfl | rfl | rfl | rfl | rfl | rfl <;> exact ⟨rfl, rfl⟩

theorem mem_preorderAll {m : Node text} {ns : List (Node text)} (h : m ∈ preorderAll ns) :
    ∃ n ∈ ns, m ∈ n.preorder := by
  induction ns with
  | nil => cases h
  | cons n ns ih =>
    rw [preorderAll, List.mem_append] at h
    rcases h with own | later
    · exact ⟨n, by simp, own⟩
    · obtain ⟨n', hn, inner⟩ := ih later
      exact ⟨n', by simp [hn], inner⟩

theorem cost_of_hasFault {kind : Option Symbol} {field : Option Field}
    (h : (display kind field t).hasFault = false) : t.cost = 0 := by
  cases t with
  | leaf => rfl
  | missing => cases h
  | node => simpa [display, hasFault, cost] using h

section Everywhere

variable {P : Node text → Prop}
  (step : ∀ {t : Subtree text} {kind : Option Symbol} (field : Option Field), t.Conforms →
    Displayable kind t → P (display kind field t))

include step

/-- What holds of the node of each subtree that conforms to the grammar holds of all nodes that
stand for one. -/
theorem forall_mem_ofSubtree : ∀ {t : Subtree text}, t.Conforms → ∀ {kind : Option Symbol},
    Displayable kind t → ∀ {field : Option Field},
      ∀ n ∈ ofSubtree kind field t [], ∀ m ∈ n.preorder, P m := by
  refine @induct _ _ fun t ih h kind displayable field => ?_
  have below {field : Option Field} :
      ∀ n ∈ ofSubtrees t.labels field 0 t.children [], ∀ m ∈ n.preorder, P m := by
    refine forall_mem_ofSubtrees (fun u hu _ n hn => ?_) fun i u hu n hn => ?_
    · exact ih u hu (h.children u hu) (displayable_none u) n hn
    · rw [Nat.zero_add] at hn
      exact ih u (mem_of_mem_solid (List.mem_of_getElem? hu)).1
        (h.proper u (List.mem_of_getElem? hu)).conforms (h.displayable hu) n hn
  rw [ofSubtree_eq]
  split
  · rw [List.forall_mem_singleton, preorder_eq, List.forall_mem_cons, children_display]
    refine ⟨step field h displayable, fun m hm => ?_⟩
    obtain ⟨n, hn, inner⟩ := mem_preorderAll hm
    exact below n hn m inner
  · exact below

theorem forall_mem_of_complete (h : t.Complete) (root : P (display none none t)) :
    ∀ m ∈ (display none none t).preorder, P m := by
  rw [preorder_eq, List.forall_mem_cons, children_display, h.labels]
  refine ⟨root, fun m hm => ?_⟩
  have child (u : Subtree text) (hu : u ∈ t.children) :
      ∀ n ∈ ofSubtree none none u [], ∀ m ∈ n.preorder, P m := by
    rcases h.children u hu with conforms | ⟨token, rfl, ended⟩
    · exact forall_mem_ofSubtree step conforms (displayable_none u)
    · rw [ofSubtree_eq, if_neg (by rw [symbol, ended]; decide)]
      exact List.forall_mem_nil _
  have below : ∀ n ∈ ofSubtrees Labels.none none 0 t.children [], ∀ m ∈ n.preorder, P m := by
    refine forall_mem_ofSubtrees (fun u hu _ => child u hu) fun i u hu => ?_
    exact child u (mem_of_mem_solid (List.mem_of_getElem? hu)).1
  obtain ⟨n, hn, inner⟩ := mem_preorderAll hm
  exact below n hn m inner

/-- What holds of the nodes of subtrees that conform to the grammar, and of modules, holds of all
nodes of a syntax tree without faults. -/
theorem forall_mem_of_parse? (modules : ∀ n : Node text, n.kind = ⟨108⟩ → P n) {root : Node text}
    (h : parse? text = some root) (sound : root.hasFault = false) : ∀ m ∈ root.preorder, P m := by
  obtain ⟨t, parsed, head⟩ := Option.bind_eq_some_iff.1 h
  have whole := Machine.whole_of_parse? parsed
  rw [ofSubtree_eq, if_pos (by simp [whole.shown])] at head
  obtain rfl : display none none t = root := Option.some.inj head
  have complete := whole.complete (cost_of_hasFault sound)
  refine forall_mem_of_complete step complete (modules _ ?_)
  rw [kind_display, Option.getD_none, complete.symbol]

end Everywhere

/-- The syntax tree of a text without faults has the shape that the analysis asks for. -/
theorem isShapely_of_parse? {root : Node text} (h : parse? text = some root)
    (sound : root.hasFault = false) : root.isShapely = true := by
  have nested := nested_of_parse? h
  have formed : ∀ m ∈ root.preorder, m.Formed := by
    refine forall_mem_of_parse? (fun field conforms displayable => ?_) (fun n kind _ => ?_) h sound
    · exact formed_display conforms displayable field
    · unfold hasParts isBuilt
      rw [kind]
      rfl
  rw [isShapely, walk_eq_preorder, List.all_eq_true]
  exact fun m hm => formed m hm (nested.of_mem hm)

/-! ### Extras and keywords -/

/-- What may stand anywhere has nothing inside. -/
theorem children_of_isExtra {root : Node text} (h : parse? text = some root)
    (sound : root.hasFault = false) :
    ∀ m ∈ root.preorder, m.isExtra = true → m.children = [] := by
  refine forall_mem_of_parse? (fun {t kind} field conforms displayable extra => ?_)
    (fun n kind extra => ?_) h sound
  · cases solid : t.isExtra with
    | false =>
      rw [isExtra_display ⟨conforms, solid⟩ displayable field] at extra
      cases extra
    | true =>
      refine children_display_of_terminal conforms ?_ kind field
      rcases conforms.isExtra_iff.1 solid with symbol | symbol <;> rw [symbol] <;> decide
  · rw [isExtra_of_kind kind (by decide)] at extra
    cases extra

theorem lt_of_isWord {a b : Cursor text} (h : Identifier.isWord (a.between b) = true) :
    a.offset < b.offset := by
  refine Nat.lt_of_not_le fun le => ?_
  rw [Cursor.between, Nat.sub_eq_zero_of_le le] at h
  exact absurd h (by simp [takeBytes, takeBytesOnto, Identifier.isWord])

/-- A keyword that a statement starts with has a text. -/
theorem start_lt_stop_of_keyword {root : Node text} (h : parse? text = some root)
    (sound : root.hasFault = false) : ∀ m ∈ root.preorder,
      m.kind = Symbol.importKeyword ∨ m.kind = Symbol.fromKeyword →
        m.start.offset < m.stop.offset := by
  refine forall_mem_of_parse? (fun {t kind} field conforms displayable keyword => ?_)
    (fun n kind keyword => ?_) h sound
  · have own : kind = none := by
      cases kind with
      | none => rfl
      | some k =>
        rw [kind_display, Option.getD_some] at keyword
        rcases displayable k rfl with ⟨rfl, -⟩ | ⟨rfl, -⟩ | other
        · exact absurd keyword (by decide)
        · exact absurd keyword (by decide)
        · rcases keyword with rfl | rfl <;> exact absurd other (by decide)
    subst own
    rw [kind_display, Option.getD_none] at keyword
    have known : Lexeme.isKeyword t.symbol = true ∧ t.symbol.code < Symbol.terminalCount := by
      rcases keyword with keyword | keyword <;> rw [keyword] <;> decide
    obtain ⟨token, extra, rfl, spelled⟩ := conforms.leaf_of_terminal known.2
    exact lt_of_isWord (spelled.word (.inr known.1))
  · rw [kind] at keyword
    exact absurd keyword (by decide)

end Node

/-- The nodes of a module have the shape that the analysis asks for. -/
theorem Module.shapely_of_mem {m : Module} {n : Node m.text} (h : n ∈ m.root.preorder) :
    n.hasParts = true ∧ n.isBuilt = true := by
  have shapely := Node.isShapely_of_parse? m.found m.sound
  rw [← Bool.and_eq_true]
  exact List.all_eq_true.1 shapely n (by rwa [Node.walk_eq_preorder])

end CallContext
