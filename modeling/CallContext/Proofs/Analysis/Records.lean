import CallContext.Proofs.Analysis.Imports
import CallContext.Proofs.Analysis.Tokens

/-!
# Records of import statements

A module has a record for each module that an import statement names, in the order of the text.

* `Node.Recorded` : what the records of one import statement are, compared with its tokens and with
  the bytes of the text,
* `Node.importless_below` : there is no import statement inside another one,
* `Module.recorded_imports` : the records of a module are those of its import statements, wherever
  these stand, each statement before the next one.
-/

namespace CallContext

namespace Node

variable {text : List Char}

/-! ### Import statements -/

/-- The node is an import statement of one of the three forms. -/
def isImporting (n : Node text) : Bool :=
  n.kind = Symbol.importStatement || n.kind = Symbol.importFromStatement ||
    n.kind = Symbol.futureImportStatement

theorem isImporting_iff {n : Node text} : n.isImporting = true ↔
    n.kind = Symbol.importStatement ∨ n.kind = Symbol.importFromStatement ∨
      n.kind = Symbol.futureImportStatement := by
  simp [isImporting, or_assoc]

theorem tag_eq_importing_iff {n : Node text} (parts : n.hasParts = true) :
    n.tag = .importing ↔ n.isImporting = true := by
  refine ⟨fun tagged => isImporting_iff.2 (kind_of_tag_eq_importing tagged parts), fun h => ?_⟩
  obtain ⟨kind, field, start, stop, isMissing, hasFault, children⟩ := n
  have cases : kind = Symbol.importStatement ∨ kind = Symbol.importFromStatement ∨
      kind = Symbol.futureImportStatement := isImporting_iff.1 h
  rcases cases with rfl | rfl | rfl <;> rfl

/-- The node names a module in an import statement. -/
def isItem (n : Node text) : Bool := n.isDotted || n.isAliased

theorem isItem_iff {n : Node text} : n.isItem = true ↔ n.IsItem := by
  rw [isItem, Bool.or_eq_true, IsItem]

theorem isItem_eq_false {n : Node text} {kind : Symbol} (h : n.kind = kind)
    (other : kind ≠ Symbol.dottedName ∧ kind ≠ Symbol.aliasedImport) : n.isItem = false := by
  simp [isItem, isDotted, isAliased, h, other]

/-- The names in a list are the nodes that play the part of names. -/
theorem filter_isItem_of_areNames {ns : List (Node text)} (h : areNames ns = true) :
    ns.filter isItem = ns.filter (·.field = some .name) := by
  refine List.filter_congr fun n hn => ?_
  rcases cases_of_areNames h n hn with ⟨field, item⟩ | comma
  · simp [field, isItem_iff.2 item]
  · obtain ⟨kind, -, bare⟩ := isToken_iff.1 comma
    simp [bare, isItem_eq_false kind (by decide)]

end Node

/-- The reference has as many dots before its name as the level says, only what is imported from a
module can have dots, and names are given exactly if names are imported. -/
structure ImportRecord.WellFormed (r : ImportRecord) : Prop where
  dots : (r.reference.toList.takeWhile (· = '.')).length = r.level
  relative : 0 < r.level → r.kind = .names ∨ r.kind = .wildcard
  names : r.names = [] ↔ r.kind = .wholeModule ∨ r.kind = .wildcard

namespace Node

variable {text : List Char} {n : Node text}

/-! ### Dots of references -/

theorem takeWhile_dot_of_starts {s : String} (h : Identifier.starts s = true) :
    s.toList.takeWhile (· = '.') = [] := by
  obtain ⟨c, first, start⟩ := (Option.any_eq_true _ _).1 h
  obtain ⟨cs, chars⟩ := List.head?_eq_some_iff.1 first
  have other : c ≠ '.' := by
    rintro rfl
    exact absurd start (by decide)
  rw [chars, List.takeWhile_cons_of_neg (by simpa using other)]

/-- The reference to a module has the dots that its level counts, and none behind them before the
name. -/
theorem dots_moduleReference (nested : n.Nested) (h : n.isDotted = true ∨ n.isRelative = true) :
    (n.moduleReference.1.toList.takeWhile (· = '.')).length = n.moduleReference.2 := by
  rcases h with dotted | relative
  · have other : n.kind ≠ Symbol.relativeImport := by
      rw [kind_of_isDotted dotted]
      decide
    rw [moduleReference, if_neg other, takeWhile_dot_of_starts (starts_of_isDotted nested dotted)]
    rfl
  · obtain ⟨kind, dots, prefixed, parts⟩ := parts_of_isRelative relative
    have none_behind :
        (((n.childOfKind? Symbol.dottedName).map source).getD "").toList.takeWhile (· = '.') =
          [] := by
      have other : dots.kind ≠ Symbol.dottedName := by
        rw [kind_of_isImportDots prefixed]
        decide
      rw [childOfKind?_eq n (by decide)]
      rcases parts with parts | ⟨name, dotted, parts⟩
      · simp [parts, other]
      · have found : n.parts.find? (·.kind = Symbol.dottedName) = some name := by
          simp [parts, other, kind_of_isDotted dotted]
        rw [found]
        exact takeWhile_dot_of_starts
          (starts_of_isDotted (nested_of_mem_parts nested (by simp [parts])) dotted)
    rw [moduleReference, if_pos kind, String.toList_append, String.toList_ofList,
      List.takeWhile_append_of_pos (by simp), none_behind]
    simp

/-! ### Records of a statement -/

/-- The module that names are imported from. -/
theorem exists_source_of_from (built : n.isImport = true)
    (kind : n.kind = Symbol.importFromStatement) :
    ∃ source ∈ n.parts, n.child? .moduleName = some source ∧
      (source.isDotted = true ∨ source.isRelative = true) := by
  obtain ⟨plain, keyword, source, middle, names, parts, hk, -, field, shape, -⟩ :=
    form_of_importFromStatement built kind
  exact ⟨source, by simp [parts], child?_moduleName_of_from parts hk plain field, shape⟩

theorem wellFormed_imports (nested : n.Nested) (parts : n.hasParts = true)
    (built : n.isImport = true) : ∀ r ∈ n.imports, r.WellFormed := by
  intro r hr
  unfold imports at hr
  split at hr
  · next whole =>
    rw [List.map_map] at hr
    obtain ⟨name, hn, rfl⟩ := List.mem_map.1 hr
    have starts := starts_importedName ((names_of_hasParts parts (.inl whole)).2 name hn)
    have dots := congrArg List.length (takeWhile_dot_of_starts starts)
    exact ⟨dots, fun relative => absurd relative (Nat.lt_irrefl 0), by simp⟩
  · split at hr
    · next named =>
      obtain ⟨source, inside, found, shape⟩ := exists_source_of_from built named
      have dots := dots_moduleReference (nested_of_mem_parts nested inside) shape
      have wildcard := (parts_of_importFromStatement parts named).2.2
      rw [found] at hr
      obtain rfl := List.mem_singleton.1 hr
      refine ⟨dots, fun _ => ?_, ?_⟩
      · dsimp only
        split <;> simp
      · -- names are given unless everything is imported
        dsimp only
        rw [nameSet_eq_nil, List.map_eq_nil_iff, ← List.isEmpty_iff, wildcard]
        split <;> simp_all
    · split at hr
      · next future =>
        obtain rfl := List.mem_singleton.1 hr
        have some := (names_of_hasParts parts (.inr future)).1
        have starts : Identifier.starts "__future__" = true := by decide
        have dots := congrArg List.length (takeWhile_dot_of_starts starts)
        refine ⟨dots, fun relative => absurd relative (Nat.lt_irrefl 0), ?_⟩
        simp [nameSet_eq_nil, some]
      · cases hr

/-- A statement without `from` has a record for each name in it, and as many as its tokens say. -/
theorem modules_imports (built : n.isImport = true) (kind : n.kind = Symbol.importStatement) :
    n.imports.map (·.reference) = (n.parts.filter isItem).map importedName ∧
      n.imports.map (·.kind) = (readImport n.tokens).map (·.kind) := by
  obtain ⟨plain, keyword, names, parts, hk, areNames⟩ := form_of_importStatement built kind
  obtain ⟨keyword_kind, -, bare⟩ := isToken_iff.1 hk
  have children : n.childrenOf .name = names.filter (·.field = some .name) := by
    rw [childrenOf_eq plain, parts, List.filter_cons_of_neg (by simp [bare])]
  have items : n.parts.filter isItem = n.childrenOf .name := by
    have other := isItem_eq_false keyword_kind (by decide)
    rw [children, parts, List.filter_cons_of_neg (by simp [other]),
      filter_isItem_of_areNames areNames]
  have read : readImport n.tokens =
      (n.childrenOf .name).map fun name => ⟨itemName name.tokens, 0, [], .wholeModule⟩ := by
    rw [tokens_of_parts (isExtra_of_kind kind (by decide)) (by simp [parts]), parts,
      List.flatMap_cons, tokens_of_isToken hk (by decide), List.singleton_append,
      readImport, if_pos rfl, namesIn_of_areNames areNames, children, List.map_map]
    rfl
  rw [items, read, imports, if_pos kind]
  simp only [List.map_map]
  exact ⟨rfl, rfl⟩

/-- A statement with `from` has one record, of the kind that its tokens say. -/
theorem kind_imports (built : n.isImport = true) (importing : n.isImporting = true)
    (other : n.kind ≠ Symbol.importStatement) :
    ∃ r s, n.imports = [r] ∧ readImport n.tokens = [s] ∧ r.kind = s.kind := by
  rcases isImporting_iff.1 importing with kind | kind | kind
  · exact absurd kind other
  · obtain ⟨plain, keyword, source, middle, names, parts, hk, hm, field, shape, listed⟩ :=
      form_of_importFromStatement built kind
    have found := child?_moduleName_of_from parts hk plain field
    have read := readImport_of_from parts hk hm (isExtra_of_kind kind (by decide)) shape
    rw [imports, if_neg other, if_pos kind, found]
    rcases listed with enclosed | ⟨wildcard, rfl, wild⟩
    · rw [if_neg (starless_of_areEnclosed enclosed)] at read
      exact ⟨_, _, rfl, read, by rw [childOfKind?_of_enclosed parts hk hm shape enclosed]; rfl⟩
    · obtain ⟨star, tokens, -⟩ := tokens_of_isWildcard wild
      have starred : ([(Symbol.star, star)].any fun t => t.1 = Symbol.star) = true := by simp
      rw [List.flatMap_cons, List.flatMap_nil, List.append_nil, tokens, if_pos starred] at read
      exact ⟨_, _, rfl, read, if_pos (childOfKind?_of_wildcard parts rfl wild)⟩
  · obtain ⟨-, keyword, source, middle, names, parts, hk, hm, future, -⟩ :=
      form_of_futureImportStatement built kind
    have unlike : Symbol.futureImportStatement ≠ Symbol.importFromStatement := by decide
    have read := readImport_of_future parts hk hm (isExtra_of_kind kind (by decide)) future
    rw [imports, if_neg other, if_neg (by rw [kind]; exact unlike), if_pos kind]
    exact ⟨_, _, rfl, read, rfl⟩

/-- The records of an import statement, compared with its tokens and with the bytes of the text: one
for each name that is imported as a module, and one if it imports from a module.  All of them are
well formed and have the text and the line of the statement. -/
structure Recorded (source : String) (n : Node text) : Prop where
  some : n.imports ≠ []
  kinds : n.imports.map (·.kind) = (readImport n.tokens).map (·.kind)
  modules : n.kind = Symbol.importStatement →
    n.imports.map (·.reference) = (n.parts.filter isItem).map importedName
  single : n.kind ≠ Symbol.importStatement → n.imports.length = 1
  bytes : ∀ r ∈ n.imports,
    r.source.toByteArray = source.toByteArray.extract n.start.offset n.stop.offset
  line : ∀ r ∈ n.imports,
    r.line = 1 + lineFeeds (source.toByteArray.extract 0 n.start.offset)
  wellFormed : ∀ r ∈ n.imports, r.WellFormed

theorem source_of_mem_imports {r : ImportRecord} (h : r ∈ n.imports) :
    r.source = n.source ∧ r.line = n.startLine := by
  rw [imports_eq] at h
  obtain ⟨s, -, rfl⟩ := List.mem_map.1 h
  exact ⟨rfl, rfl⟩

theorem imports_ne_nil (parts : n.hasParts = true) (built : n.isImport = true)
    (importing : n.isImporting = true) : n.imports ≠ [] := by
  by_cases kind : n.kind = Symbol.importStatement
  · simpa [imports, kind] using (names_of_hasParts parts (.inl kind)).1
  · obtain ⟨r, s, single, -⟩ := kind_imports built importing kind
    rw [single]
    exact List.cons_ne_nil _ _

theorem recorded {source : String} {n : Node source.toList} (nested : n.Nested)
    (parts : n.hasParts = true) (built : n.isImport = true) (importing : n.isImporting = true) :
    n.Recorded source where
  some := imports_ne_nil parts built importing
  kinds := by
    by_cases kind : n.kind = Symbol.importStatement
    · exact (modules_imports built kind).2
    · obtain ⟨r, s, single, read, same⟩ := kind_imports built importing kind
      rw [single, read, List.map_singleton, List.map_singleton, same]
  modules kind := (modules_imports built kind).1
  single other := by
    obtain ⟨r, s, single, -⟩ := kind_imports built importing other
    rw [single, List.length_singleton]
  bytes r hr := by
    rw [(source_of_mem_imports hr).1]
    exact Cursor.toByteArray_between nested.start_le_stop
  line r hr := by
    rw [(source_of_mem_imports hr).2, startLine, n.start.line_eq_lineFeeds, Nat.add_comm]
  wellFormed := wellFormed_imports nested parts built

/-! ### Nothing is imported inside an import statement -/

/-- There is no import statement in the tree. -/
def Importless (n : Node text) : Prop := ∀ m ∈ n.preorder, m.isImporting = false

/-- What may stand anywhere in the tree has nothing inside. -/
def HasLeafExtras (n : Node text) : Prop := ∀ m ∈ n.preorder, m.isExtra = true → m.children = []

theorem isImporting_eq_false {kind : Symbol} (h : n.kind = kind)
    (other : kind ≠ Symbol.importStatement ∧ kind ≠ Symbol.importFromStatement ∧
      kind ≠ Symbol.futureImportStatement) : n.isImporting = false := by
  simp [isImporting, h, other]

theorem importless_of_leaf (leaf : n.children = []) (other : n.isImporting = false) :
    n.Importless := by
  rw [Importless, preorder_eq, leaf, preorderAll, List.forall_mem_singleton]
  exact other

theorem importless_of_isToken {kind : Symbol} (h : n.isToken kind = true)
    (other : kind ≠ Symbol.importStatement ∧ kind ≠ Symbol.importFromStatement ∧
      kind ≠ Symbol.futureImportStatement) : n.Importless := by
  obtain ⟨same, leaf, -⟩ := isToken_iff.1 h
  exact importless_of_leaf leaf (isImporting_eq_false same other)

theorem HasLeafExtras.part {part : Node text} (h : n.HasLeafExtras) (hp : part ∈ n.parts) :
    part.HasLeafExtras :=
  fun m hm => h m (preorder_subset (List.mem_filter.1 hp).1 hm)

/-- Only the parts of a node can have import statements in them. -/
theorem importless_below (extras : n.HasLeafExtras) (parts : ∀ part ∈ n.parts, part.Importless) :
    ∀ m ∈ preorderAll n.children, m.isImporting = false := by
  intro m hm
  obtain ⟨child, hc, inner⟩ := mem_preorderAll hm
  cases extra : child.isExtra with
  | false => exact parts child (List.mem_filter.2 ⟨hc, by simp [extra]⟩) m inner
  | true =>
    have inside : child ∈ n.preorder := preorder_subset hc (self_mem_preorder child)
    refine importless_of_leaf (extras child inside extra) ?_ m inner
    simp only [isExtra, Bool.or_eq_true, decide_eq_true_eq] at extra
    rcases extra with kind | kind <;> exact isImporting_eq_false kind (by decide)

theorem importless_of_parts (extras : n.HasLeafExtras) (other : n.isImporting = false)
    (parts : ∀ part ∈ n.parts, part.Importless) : n.Importless := by
  rw [Importless, preorder_eq, List.forall_mem_cons]
  exact ⟨other, importless_below extras parts⟩

theorem importless_of_isDotted (extras : n.HasLeafExtras) (h : n.isDotted = true) :
    n.Importless := by
  refine importless_of_parts extras (isImporting_eq_false (kind_of_isDotted h) (by decide))
    fun part hp => ?_
  obtain ⟨kind, leaf⟩ := leaf_of_mem_alternate (alternate_of_isDotted h) part hp
  rcases kind with kind | kind <;>
    exact importless_of_leaf leaf (isImporting_eq_false kind (by decide))

theorem IsItem.importless (extras : n.HasLeafExtras) (h : n.IsItem) : n.Importless := by
  rcases h with dotted | aliased
  · exact importless_of_isDotted extras dotted
  · obtain ⟨name, as, other, parts, kind, -, dotted, keyword, word⟩ := parts_of_isAliased aliased
    obtain ⟨word_kind, leaf, -⟩ := isIdentifier_iff.1 word
    refine importless_of_parts extras (isImporting_eq_false kind (by decide)) ?_
    have inner : name.HasLeafExtras := extras.part (by simp [parts])
    rw [parts]
    simp only [List.mem_cons, List.not_mem_nil, or_false, forall_eq_or_imp, forall_eq]
    exact ⟨importless_of_isDotted inner dotted, importless_of_isToken keyword (by decide),
      importless_of_leaf leaf (isImporting_eq_false word_kind (by decide))⟩

theorem importless_of_isImportDots (extras : n.HasLeafExtras) (h : n.isImportDots = true) :
    n.Importless := by
  refine importless_of_parts extras (isImporting_eq_false (kind_of_isImportDots h) (by decide))
    fun part hp => ?_
  simp only [isImportDots, Bool.and_eq_true] at h
  obtain ⟨kind, leaf, -⟩ := isDot_iff.1 (List.all_eq_true.1 h.1.2 part hp)
  exact importless_of_leaf leaf (isImporting_eq_false kind (by decide))

theorem importless_of_source (extras : n.HasLeafExtras)
    (h : n.isDotted = true ∨ n.isRelative = true) : n.Importless := by
  rcases h with dotted | relative
  · exact importless_of_isDotted extras dotted
  · obtain ⟨kind, dots, prefixed, parts⟩ := parts_of_isRelative relative
    refine importless_of_parts extras (isImporting_eq_false kind (by decide)) fun part hp => ?_
    have inner := extras.part hp
    rcases parts with parts | ⟨name, dotted, parts⟩
    · rw [parts, List.mem_singleton] at hp
      subst hp
      exact importless_of_isImportDots inner prefixed
    · rw [parts, List.mem_cons, List.mem_singleton] at hp
      rcases hp with rfl | rfl
      · exact importless_of_isImportDots inner prefixed
      · exact importless_of_isDotted inner dotted

theorem importless_of_areNames {ns : List (Node text)} (extras : ∀ n ∈ ns, n.HasLeafExtras)
    (h : areNames ns = true) : ∀ n ∈ ns, n.Importless := by
  intro n hn
  rcases cases_of_areNames h n hn with ⟨-, item⟩ | comma
  · exact item.importless (extras n hn)
  · exact importless_of_isToken comma (by decide)

theorem importless_of_areEnclosed {ns : List (Node text)} (extras : ∀ n ∈ ns, n.HasLeafExtras)
    (h : areEnclosed ns = true) : ∀ n ∈ ns, n.Importless := by
  obtain ⟨inner, names, subset, -, -, rest⟩ := exists_names_of_areEnclosed h
  intro n hn
  rcases rest n hn with own | opens | closes
  · exact importless_of_areNames (fun n hn => extras n (subset n hn)) names n own
  · exact importless_of_isToken opens (by decide)
  · exact importless_of_isToken closes (by decide)

theorem importless_of_isWildcard (extras : n.HasLeafExtras) (h : n.isWildcard = true) :
    n.Importless := by
  obtain ⟨kind, -, star, parts, isStar⟩ := parts_of_isWildcard h
  refine importless_of_parts extras (isImporting_eq_false kind (by decide)) ?_
  rw [parts, List.forall_mem_singleton]
  exact importless_of_isToken isStar (by decide)

/-- What a statement imports from, and what it imports from there. -/
theorem importless_of_from {keyword source middle : Node text} {names : List (Node text)}
    (extras : n.HasLeafExtras) (parts : n.parts = keyword :: source :: middle :: names)
    (hk : keyword.isToken Symbol.fromKeyword = true)
    (hm : middle.isToken Symbol.importKeyword = true) (hs : source.Importless)
    (listed : areEnclosed names = true ∨
      ∃ wildcard, names = [wildcard] ∧ wildcard.isWildcard = true) :
    ∀ part ∈ n.parts, part.Importless := by
  have inner (part : Node text) (hp : part ∈ names) : part.HasLeafExtras :=
    extras.part (by simp [parts, hp])
  have hn : ∀ part ∈ names, part.Importless := by
    rcases listed with enclosed | ⟨wildcard, rfl, wild⟩
    · exact importless_of_areEnclosed inner enclosed
    · rw [List.forall_mem_singleton]
      exact importless_of_isWildcard (inner wildcard (by simp)) wild
  rw [parts]
  simp only [List.forall_mem_cons]
  exact ⟨importless_of_isToken hk (by decide), hs, importless_of_isToken hm (by decide), hn⟩

/-- The parts of an import statement: no other statement is among them, and the first is the keyword
that the statement starts with. -/
theorem parts_of_isImport (extras : n.HasLeafExtras) (built : n.isImport = true)
    (importing : n.isImporting = true) :
    (∀ part ∈ n.parts, part.Importless) ∧ ∃ keyword ∈ n.parts,
      keyword.kind = Symbol.importKeyword ∨ keyword.kind = Symbol.fromKeyword := by
  have inner (part : Node text) (hp : part ∈ n.parts) : part.HasLeafExtras := extras.part hp
  rcases isImporting_iff.1 importing with kind | kind | kind
  · obtain ⟨-, keyword, names, parts, hk, areNames⟩ := form_of_importStatement built kind
    refine ⟨?_, keyword, by simp [parts], .inl (isToken_iff.1 hk).1⟩
    rw [parts, List.forall_mem_cons]
    exact ⟨importless_of_isToken hk (by decide),
      importless_of_areNames (fun part hp => inner part (by simp [parts, hp])) areNames⟩
  · obtain ⟨-, keyword, source, middle, names, parts, hk, hm, -, shape, listed⟩ :=
      form_of_importFromStatement built kind
    have hs := importless_of_source (inner source (by simp [parts])) shape
    exact ⟨importless_of_from extras parts hk hm hs listed,
      keyword, by simp [parts], .inr (isToken_iff.1 hk).1⟩
  · obtain ⟨-, keyword, source, middle, names, parts, hk, hm, future, enclosed⟩ :=
      form_of_futureImportStatement built kind
    have hs := importless_of_isToken future (by decide)
    exact ⟨importless_of_from extras parts hk hm hs (.inl enclosed),
      keyword, by simp [parts], .inr (isToken_iff.1 hk).1⟩

end Node

/-! ### Imports of a module -/

namespace Module

theorem importNodes_eq (m : Module) : m.importNodes = m.root.preorder.filter Node.isImporting := by
  refine List.filter_congr fun n hn => ?_
  rw [Bool.eq_iff_iff, decide_eq_true_eq]
  exact Node.tag_eq_importing_iff (shapely_of_mem hn).1

theorem imports_eq_flatMap (m : Module) : m.imports = m.importNodes.flatMap Node.imports := by
  rw [imports, Node.walk_eq_preorder]
  rfl

/-- What is known about an import statement of a module. -/
theorem built_of_mem_importNodes {m : Module} {n : Node m.text} (h : n ∈ m.importNodes) :
    n.isImporting = true ∧ n.hasParts = true ∧ n.isImport = true := by
  rw [importNodes_eq] at h
  obtain ⟨inside, importing⟩ := List.mem_filter.1 h
  obtain ⟨parts, built⟩ := shapely_of_mem inside
  refine ⟨importing, parts, ?_⟩
  rcases Node.isImporting_iff.1 importing with kind | kind | kind <;>
    · rw [Node.isBuilt, kind] at built
      exact built

/-- Each import statement is over when the next one starts, and none is empty. -/
theorem pairwise_importNodes (m : Module) :
    m.importNodes.Pairwise fun a b => a.start.offset < b.start.offset := by
  have ordered := m.nested.pairwise_preorder.2
  rw [importNodes_eq, List.pairwise_filter]
  refine ordered.imp_of_mem fun {a b} ha hb order importing importing' => ?_
  have listed : a ∈ m.importNodes := by
    rw [importNodes_eq]
    exact List.mem_filter.2 ⟨ha, importing⟩
  have extras : a.HasLeafExtras := fun inner hi =>
    Node.children_of_isExtra m.found m.sound inner ((Node.infix_preorder ha).subset hi)
  obtain ⟨parts, keyword, hk, kind⟩ :=
    Node.parts_of_isImport extras (built_of_mem_importNodes listed).2.2 importing
  have inside : keyword ∈ a.preorder :=
    Node.preorder_subset (List.mem_filter.1 hk).1 keyword.self_mem_preorder
  have bounds := (m.nested.of_mem ha).pairwise_preorder.1 keyword inside
  have filled := Node.start_lt_stop_of_keyword m.found m.sound keyword
    ((Node.infix_preorder ha).subset inside) kind
  rcases order with below | apart
  · -- the one cannot be inside the other
    rw [Node.importless_below extras parts b below] at importing'
    cases importing'
  · -- the keyword fills the one before the other starts
    omega

/-- The lines of the records do not decrease. -/
theorem pairwise_line_imports (m : Module) : (m.imports.map (·.line)).Pairwise (· ≤ ·) := by
  rw [imports_eq_flatMap, List.pairwise_map, List.pairwise_flatMap]
  refine ⟨fun n _ => List.pairwise_of_forall_mem_list fun r hr r' hr' => ?_,
    m.pairwise_importNodes.imp fun lt r hr r' hr' => ?_⟩
  · rw [(Node.source_of_mem_imports hr).2, (Node.source_of_mem_imports hr').2]
  · rw [(Node.source_of_mem_imports hr).2, (Node.source_of_mem_imports hr').2]
    exact Nat.succ_le_succ (Cursor.line_le_of_offset_le (Nat.le_of_lt lt))

/-- The modules of a project that are reported are those that the statements refer to. -/
theorem mem_modules_resolveParsed (p : Project) (fs : FileSystem) (path : CallContext.Path)
    (m : Module) {reference : String} :
    reference ∈ (p.resolveParsed fs path m).modules ↔
      ∃ s ∈ (p.resolveParsed fs path m).statements, s.reference = reference := by
  simp [Project.resolveParsed, mem_nameSet, Project.resolveRecord]

/-- A text whose syntax tree has no faults and no statements of Python 2 is a module.  The records
of a module are those of its import statements at any depth, each statement before the next one, so
that their lines do not decrease.  The modules that are reported are those that the records refer
to. -/
theorem recorded_imports {source : String} {root : Node source.toList}
    (found : Node.parse? source.toList = some root) (sound : root.hasFault = false)
    (modern : root.firstLegacy? = none) :
    ∃ m, parse source = .ok m ∧
    m.imports = (root.preorder.filter Node.isImporting).flatMap Node.imports ∧
    (root.preorder.filter Node.isImporting).Pairwise
      (fun a b => a.start.offset < b.start.offset) ∧
    (m.imports.map (·.line)).Pairwise (· ≤ ·) ∧
    (∀ n ∈ root.preorder, n.isImporting = true → n.Recorded source) ∧
    ∀ (p : Project) (fs : FileSystem) (path : CallContext.Path) (resolved : ResolvedImports),
      p.resolveImports fs path = .ok resolved →
      ∀ reference, reference ∈ resolved.modules ↔
        ∃ s ∈ resolved.statements, s.reference = reference := by
  obtain ⟨m, parsed⟩ := exists_parse_iff.2 ⟨root, found, sound, modern⟩
  have nested := m.nested
  have ordered := m.pairwise_importNodes
  have lines := m.pairwise_line_imports
  have records := m.imports_eq_flatMap
  have built {n : Node m.text} (h : n ∈ m.importNodes) := built_of_mem_importNodes h
  rw [importNodes_eq] at ordered records
  obtain ⟨root', found', sound', modern', rfl⟩ := parse_eq_ok parsed
  obtain rfl : root' = root := Option.some.inj (found'.symm.trans found)
  refine ⟨_, parsed, records, ordered, lines, fun n hn importing => ?_, ?_⟩
  · obtain ⟨-, parts, built⟩ := built (by
      rw [importNodes_eq]
      exact List.mem_filter.2 ⟨hn, importing⟩)
    exact Node.recorded (nested.of_mem hn) parts built importing
  · intro p fs path resolved found reference
    unfold Project.resolveImports at found
    dsimp only at found
    split at found
    · cases found
    · cases found
      exact mem_modules_resolveParsed ..

/-- Imports of all forms at several depths. -/
def manyForms : String :=
  "from __future__ import x\nimport a, b . c as d\nclass A:\n  def f(self):\n" ++
    "    from .. import (y, z,)\nfrom é.g import *; import a\n"

/-- The records of imports of all forms. -/
theorem recorded_imports_manyForms : ∃ root, Node.parse? manyForms.toList = some root ∧
    root.hasFault = false ∧ root.firstLegacy? = none ∧
    ∃ m, parse manyForms = .ok m ∧
      m.imports.map (fun r => (r.reference, r.level, r.names, r.kind, r.line)) =
        [("__future__", 0, ["x"], .names, 1), ("a", 0, [], .wholeModule, 2),
          ("b . c", 0, [], .wholeModule, 2), ("..", 2, ["y", "z"], .names, 5),
          ("é.g", 0, [], .wildcard, 6), ("a", 0, [], .wholeModule, 6)] ∧
      ∀ n ∈ root.preorder, n.isImporting = true → n.Recorded manyForms := by
  have computed : (parse manyForms).toOption.map (fun m => m.imports.map
      fun r => (r.reference, r.level, r.names, r.kind, r.line)) =
      some [("__future__", 0, ["x"], .names, 1), ("a", 0, [], .wholeModule, 2),
        ("b . c", 0, [], .wholeModule, 2), ("..", 2, ["y", "z"], .names, 5),
        ("é.g", 0, [], .wildcard, 6), ("a", 0, [], .wholeModule, 6)] := by decide +kernel
  obtain ⟨m, parsed, records⟩ := exists_of_map_parse computed
  obtain ⟨root, found, sound, modern⟩ := exists_parse_iff.1 ⟨m, parsed⟩
  obtain ⟨-, -, -, -, -, recorded, -⟩ := recorded_imports found sound modern
  exact ⟨root, found, sound, modern, m, parsed, records, recorded⟩

end Module

end CallContext
