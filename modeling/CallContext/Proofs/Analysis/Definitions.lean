import CallContext.Analysis.Definitions
import CallContext.Proofs.Model.Catalog
import CallContext.Proofs.Syntax.Shapely
import Mathlib.Data.List.InsertIdx
import Mathlib.Data.List.Nodup

/-!
# Definitions and elements of a module

The definitions of a module are collected as a catalog collects elements: the positions of a
`Collection` are the index of the catalog of its elements (`Collection.catalog_add`).  So they are
some of the children of the root, in their order, no two of one name (`Module.definitions_eq`).  The
elements of the catalog are those of the definitions (`Module.elements_catalog`), and their names
are identifiers (`Module.isWord_of_mem`).
`Module.spans_catalog` says where they stand: each is exactly the stretch of the text that its bytes
and lines give, and none reaches into the next.
-/

namespace CallContext

variable {text : List Char}

/-! ### Nodes that define something -/

namespace Node

/-- What a node needs to define something: a name inside, behind its decorators. -/
theorem definition?_eq_some {n : Node text} {d : Definition text} (h : n.definition? = some d) :
    ∃ kind inner name, n.tag = .definition kind ∧ n.undecorated? = some inner ∧
      inner.child? .name = some name ∧ name.source ≠ "" ∧
      d = ⟨⟨name.source, kind, n.source, n.startLine, n.endLine, n.start.offset, n.stop.offset,
        inner.docstring?⟩, n⟩ := by
  unfold definition? at h
  split at h
  · next kind tag =>
    obtain ⟨e, he, rfl⟩ := Option.map_eq_some_iff.1 h
    unfold element? at he
    split at he
    · cases he
    · next inner undecorated =>
      split at he
      · cases he
      · next source named =>
        obtain ⟨name, child, rfl⟩ := Option.map_eq_some_iff.1 named
        split at he
        · cases he
        · next nonempty =>
          cases he
          exact ⟨kind, inner, name, tag, undecorated, child, nonempty, rfl⟩
  · cases h

theorem node_of_definition? {n : Node text} {d : Definition text} (h : n.definition? = some d) :
    d.node = n := by
  obtain ⟨kind, inner, name, -, -, -, -, rfl⟩ := definition?_eq_some h
  rfl

theorem source_of_definition? {n : Node text} {d : Definition text} (h : n.definition? = some d) :
    d.element.source = n.source := by
  obtain ⟨kind, inner, name, -, -, -, -, rfl⟩ := definition?_eq_some h
  rfl

/-- The bytes of an element are those of its node. -/
theorem bytes_of_definition? {n : Node text} {d : Definition text} (h : n.definition? = some d) :
    d.element.startByte = n.start.offset ∧ d.element.endByte = n.stop.offset := by
  obtain ⟨kind, inner, name, -, -, -, -, rfl⟩ := definition?_eq_some h
  exact ⟨rfl, rfl⟩

theorem child?_mem {n child : Node text} {field : Field} (h : n.child? field = some child) :
    child ∈ n.children :=
  List.mem_of_find?_eq_some h

theorem Nested.child {n child : Node text} (h : n.Nested) (hc : child ∈ n.children) :
    n.start.offset ≤ child.start.offset ∧ child.Nested ∧ child.stop.offset ≤ n.stop.offset :=
  h.between_children.of_mem hc

theorem Nested.undecorated {n inner : Node text} (h : n.Nested)
    (hi : n.undecorated? = some inner) :
    n.start.offset ≤ inner.start.offset ∧ inner.Nested ∧ inner.stop.offset ≤ n.stop.offset := by
  unfold undecorated? at hi
  split at hi
  · exact h.child (child?_mem hi)
  · cases hi
    exact ⟨Nat.le_refl _, h, Nat.le_refl _⟩

theorem start_lt_stop_of_source {n : Node text} (h : n.source ≠ "") :
    n.start.offset < n.stop.offset := by
  refine Nat.lt_of_not_le fun le => h ?_
  simp [source, Cursor.between, Nat.sub_eq_zero_of_le le, takeBytes, takeBytesOnto]

/-- A definition takes text, since its name does. -/
theorem Nested.start_lt_stop_of_definition? {n : Node text} (h : n.Nested) {d : Definition text}
    (hd : n.definition? = some d) : n.start.offset < n.stop.offset := by
  obtain ⟨kind, inner, name, -, undecorated, child, nonempty, -⟩ := definition?_eq_some hd
  -- the name lies in the definition without its decorators, and that in the node
  obtain ⟨start, nested, stop⟩ := h.undecorated undecorated
  obtain ⟨start', -, stop'⟩ := nested.child (child?_mem child)
  have := start_lt_stop_of_source nonempty
  omega

end Node

/-! ### Collections of definitions -/

namespace Collection

variable {c : Collection text}

/-- The catalog of the elements, with the positions as its index. -/
def catalog (c : Collection text) : Catalog := ⟨c.definitions.map (·.element), c.positions⟩

theorem catalog_drop (c : Collection text) (name : String) :
    (c.drop name).catalog = (c.catalog.remove name).2 := by
  have index : c.catalog.index = c.positions := rfl
  rw [drop, Catalog.remove, index]
  cases c.positions.lookup name with
  | none => rfl
  | some previous =>
    exact congrArg (Catalog.mk · _) (List.eraseIdx_map (·.element) c.definitions previous).symm

/-- A definition is added to a collection as its element is put into the catalog. -/
theorem catalog_add (c : Collection text) (d : Definition text) :
    (c.add d).catalog = (c.catalog.insert d.element).2 := by
  have added : (c.add d).catalog =
      ⟨(c.drop d.element.name).catalog.elements ++ [d.element],
        (c.drop d.element.name).catalog.index ++
          [(d.element.name, (c.drop d.element.name).catalog.elements.length)]⟩ := by
    simp [catalog, add]
  rw [added, catalog_drop]
  rfl

theorem catalog_foldl_add (c : Collection text) (ds : List (Definition text)) :
    (ds.foldl add c).catalog = c.catalog.insertAll (ds.map (·.element)) := by
  induction ds generalizing c with
  | nil => rfl
  | cons d ds ih =>
    rw [List.foldl_cons, ih, catalog_add]
    rfl

/-- The position of a name leads to the only definition that has it. -/
theorem definitions_drop (h : c.catalog.Indexed) (name : String) :
    (c.drop name).definitions = c.definitions.filter (·.element.name ≠ name) := by
  have names : c.catalog.names = c.definitions.map (·.element.name) := List.map_map
  by_cases hn : name ∈ c.catalog.names
  · rw [names] at hn
    obtain ⟨d, hd, rfl⟩ := List.mem_map.1 hn
    obtain ⟨before, after, split⟩ := List.append_of_mem hd
    have nodup := h.nodup
    rw [names, split, List.map_append, List.map_cons, List.nodup_append, List.nodup_cons] at nodup
    obtain ⟨-, ⟨behind, -⟩, apart⟩ := nodup
    have front : d.element.name ∉ before.map (·.element.name) := fun hb =>
      apart _ hb _ List.mem_cons_self rfl
    have elements : c.catalog.elements =
        before.map (·.element) ++ d.element :: after.map (·.element) := by
      rw [catalog, split, List.map_append, List.map_cons]
    have found : c.positions.lookup d.element.name = some (before.map (·.element)).length :=
      h.lookup_of_split elements (by rwa [List.map_map])
    rw [drop, found, List.length_map]
    dsimp only
    rw [split, eraseIdx_eq_filter (fun d : Definition text => d.element.name) front behind]
  · have missing : c.positions.lookup name = none := h.lookup_of_not_mem hn
    rw [drop, missing]
    rw [names] at hn
    exact (filter_key_of_not_mem (fun d : Definition text => d.element.name) hn).symm

/-- Each definition is added in the place of the one of its name. -/
theorem definitions_foldl_add (h : c.catalog.Indexed) (ds : List (Definition text)) :
    (ds.foldl add c).definitions = ds.foldl (putLast (·.element.name)) c.definitions := by
  induction ds generalizing c with
  | nil => rfl
  | cons d ds ih =>
    have next : (c.add d).catalog.Indexed := c.catalog_add d ▸ (h.insert d.element).2.2
    have added : (c.add d).definitions = putLast (·.element.name) c.definitions d :=
      congrArg (· ++ [d]) (definitions_drop h d.element.name)
    rw [List.foldl_cons, ih next, added, List.foldl_cons]

end Collection

/-! ### Definitions of a module -/

namespace Module

/-- The definitions are what remains if each takes the place of the one of its name. -/
theorem definitions_eq (m : Module) :
    m.definitions = (m.root.namedChildren.filterMap Node.definition?).foldl
      (putLast (·.element.name)) [] :=
  Collection.definitions_foldl_add (c := .empty) Catalog.indexed_empty _

theorem definitions_sublist (m : Module) :
    m.definitions.Sublist (m.root.namedChildren.filterMap Node.definition?) := by
  rw [definitions_eq]
  exact foldl_putLast_sublist _ _ []

theorem nodup_definitions (m : Module) : (m.definitions.map (·.element.name)).Nodup := by
  rw [definitions_eq]
  exact nodup_foldl_putLast (fun d : Definition m.text => d.element.name) (by simp) _

/-- The definition stands at the top level, and none of its name follows it there. -/
def Survives (m : Module) (d : Definition m.text) : Prop :=
  ∃ before after, m.root.namedChildren.filterMap Node.definition? = before ++ d :: after ∧
    ∀ later ∈ after, later.element.name ≠ d.element.name

theorem mem_definitions {m : Module} {d : Definition m.text} :
    d ∈ m.definitions ↔ m.Survives d := by
  rw [definitions_eq, mem_foldl_putLast]
  simp [Survives]

/-- A definition is known by its name. -/
theorem Survives.eq_of_name {m : Module} {d d' : Definition m.text} (h : m.Survives d)
    (h' : m.Survives d') (same : d.element.name = d'.element.name) : d = d' :=
  List.inj_on_of_nodup_map m.nodup_definitions (mem_definitions.2 h) (mem_definitions.2 h') same

theorem definition?_of_mem {m : Module} {d : Definition m.text} (hd : d ∈ m.definitions) :
    d.node ∈ m.root.namedChildren ∧ d.node.definition? = some d := by
  obtain ⟨n, hn, hd⟩ := List.mem_filterMap.1 (m.definitions_sublist.subset hd)
  rw [Node.node_of_definition? hd]
  exact ⟨hn, hd⟩

theorem elements_catalog (m : Module) : m.catalog.elements = m.definitions.map (·.element) := by
  refine Catalog.elements_ofList ?_
  rw [List.map_map]
  exact m.nodup_definitions

theorem indexed_catalog (m : Module) : m.catalog.Indexed := Catalog.indexed_ofList _

theorem find?_of_survives {m : Module} {d : Definition m.text} (h : m.Survives d) :
    m.definitions.find? (·.element.name = d.element.name) = some d := by
  cases found : m.definitions.find? (·.element.name = d.element.name) with
  | none => simpa using List.find?_eq_none.1 found d (mem_definitions.2 h)
  | some d' =>
    have named : d'.element.name = d.element.name := by simpa using List.find?_some found
    rw [Survives.eq_of_name (mem_definitions.1 (List.mem_of_find?_eq_some found)) h named]

/-- The element of a name is that of the definition of the name. -/
theorem get?_catalog (m : Module) (name : String) :
    m.catalog.get? name = (m.definitions.find? (·.element.name = name)).map (·.element) := by
  rw [m.indexed_catalog.get?, elements_catalog, List.find?_map]
  rfl

/-- Definitions follow each other. -/
theorem pairwise_definitions {m : Module} (h : m.root.Nested) :
    m.definitions.Pairwise fun d e => d.node.stop.offset ≤ e.node.start.offset := by
  refine List.Pairwise.sublist m.definitions_sublist (List.pairwise_filterMap.2 ?_)
  refine List.Pairwise.sublist List.filter_sublist (h.between_children.pairwise.imp ?_)
  intro n n' le d hd d' hd'
  rwa [Node.node_of_definition? hd, Node.node_of_definition? hd']

end Module

/-! ### Names -/

namespace Node

theorem isWord_of_hasParts {n name : Node text} (h : n.hasParts = true)
    (plain : n.kind = Symbol.functionDefinition ∨ n.kind = Symbol.classDefinition)
    (named : n.child? .name = some name) : Identifier.isWord name.source = true := by
  rw [hasParts, if_pos (by simpa using plain), named] at h
  exact h

theorem kind_of_tag {n : Node text} {kind : ElementKind} (h : n.tag = .definition kind)
    (plain : n.kind ≠ Symbol.decoratedDefinition) :
    n.kind = Symbol.functionDefinition ∨ n.kind = Symbol.classDefinition := by
  obtain ⟨symbol, field, start, stop, isMissing, hasFault, children⟩ := n
  change symbol ≠ _ at plain
  rw [tag, if_neg plain] at h
  unfold Tag.ofKind at h
  change symbol = _ ∨ symbol = _
  grind

theorem kind_of_decorated {n inner : Node text} (h : n.hasParts = true)
    (decorated : n.kind = Symbol.decoratedDefinition) (hi : n.child? .definition = some inner) :
    inner.kind = Symbol.functionDefinition ∨ inner.kind = Symbol.classDefinition := by
  have parts : (n.child? .definition).any (fun d =>
      d.kind = Symbol.functionDefinition || d.kind = Symbol.classDefinition) = true := by
    rw [hasParts, decorated] at h
    exact h
  rw [hi] at parts
  simpa using parts

/-- The name of a definition is an identifier. -/
theorem isWord_of_definition? {n : Node text} {d : Definition text}
    (shapely : ∀ x ∈ n.preorder, x.hasParts = true) (h : n.definition? = some d) :
    Identifier.isWord d.element.name = true := by
  obtain ⟨kind, inner, name, tag, undecorated, named, -, rfl⟩ := definition?_eq_some h
  unfold undecorated? at undecorated
  split at undecorated
  · next decorated =>
    have below := preorder_subset (child?_mem undecorated) inner.self_mem_preorder
    have plain := kind_of_decorated (shapely n n.self_mem_preorder) decorated undecorated
    exact isWord_of_hasParts (shapely inner below) plain named
  · next plain =>
    cases undecorated
    exact isWord_of_hasParts (shapely n n.self_mem_preorder) (kind_of_tag tag plain) named

end Node

/-- The nodes of a top level statement have their parts. -/
theorem Module.shapely_child {m : Module} {n : Node m.text} (h : n ∈ m.root.children) :
    ∀ x ∈ n.preorder, x.hasParts = true := by
  intro x hx
  exact (shapely_of_mem (Node.preorder_subset h hx)).1

theorem Module.isWord_of_mem {m : Module} {d : Definition m.text} (hd : d ∈ m.definitions) :
    Identifier.isWord d.element.name = true := by
  obtain ⟨child, defined⟩ := definition?_of_mem hd
  exact Node.isWord_of_definition? (shapely_child (List.mem_filter.1 child).1) defined

/-! ### Where the elements stand -/

/-- An element is the stretch of a text that its bytes give, its lines count the line feeds before
its ends, and it has a name. -/
structure Element.SpansIn (e : Element) (source : String) : Prop where
  startByte_lt_endByte : e.startByte < e.endByte
  endByte_le : e.endByte ≤ source.utf8ByteSize
  isValid_startByte : String.Pos.Raw.IsValid source ⟨e.startByte⟩
  isValid_endByte : String.Pos.Raw.IsValid source ⟨e.endByte⟩
  source_eq : e.source.toByteArray = source.toByteArray.extract e.startByte e.endByte
  startLine_eq : e.startLine = 1 + lineFeeds (source.toByteArray.extract 0 e.startByte)
  endLine_eq : e.endLine = 1 + lineFeeds (source.toByteArray.extract 0 e.endByte)
  name_ne : e.name ≠ ""

namespace Module

theorem spansIn_of_definition? {source : String} {n : Node source.toList} (h : n.Nested)
    {d : Definition source.toList} (hd : n.definition? = some d) : d.element.SpansIn source := by
  have lt := h.start_lt_stop_of_definition? hd
  obtain ⟨kind, inner, name, -, -, -, nonempty, rfl⟩ := Node.definition?_eq_some hd
  exact
    { startByte_lt_endByte := lt
      endByte_le := n.stop.offset_le_utf8ByteSize
      isValid_startByte := n.start.isValid_offset
      isValid_endByte := n.stop.isValid_offset
      source_eq := Cursor.toByteArray_between h.start_le_stop
      startLine_eq := by rw [← n.start.line_eq_lineFeeds, Nat.add_comm]; rfl
      endLine_eq := by rw [← n.stop.line_eq_lineFeeds, Nat.add_comm]; rfl
      name_ne := nonempty }

theorem spansIn_of_mem {source : String} {m : Module} (h : parse source = .ok m)
    {d : Definition m.text} (hd : d ∈ m.definitions) : d.element.SpansIn source := by
  have nested := m.nested
  obtain ⟨root, found, sound, modern, rfl⟩ := parse_eq_ok h
  obtain ⟨child, defined⟩ := definition?_of_mem hd
  exact spansIn_of_definition? (nested.child (List.mem_filter.1 child).1).2.1 defined

/-- Every element is the stretch of the text that its bytes and lines give, and ends before the
next one starts. -/
theorem spans_catalog {source : String} {m : Module} (h : parse source = .ok m) :
    (∀ e ∈ m.catalog.elements, e.SpansIn source) ∧
      m.catalog.elements.Pairwise fun d e => d.endByte ≤ e.startByte := by
  rw [elements_catalog]
  constructor
  · intro e he
    obtain ⟨d, hd, rfl⟩ := List.mem_map.1 he
    exact spansIn_of_mem h hd
  · refine List.pairwise_map.2 ((pairwise_definitions m.nested).imp_of_mem ?_)
    intro d d' hd hd' le
    rwa [(Node.bytes_of_definition? (definition?_of_mem hd).2).2,
      (Node.bytes_of_definition? (definition?_of_mem hd').2).1]

/-- Two definitions behind a letter of two bytes, one of them decorated. -/
theorem spans_catalog_decorated : ∃ m, parse "é=1\n@d\ndef f(x):\n  g()\nclass A: pass\n" = .ok m ∧
    m.catalog.elements.map (fun e => (e.name, e.startByte, e.endByte, e.startLine, e.endLine)) =
      [("f", 5, 23, 2, 4), ("A", 24, 37, 5, 5)] ∧
    (∀ e ∈ m.catalog.elements,
      e.SpansIn "é=1\n@d\ndef f(x):\n  g()\nclass A: pass\n") ∧
    m.catalog.elements.Pairwise fun d e => d.endByte ≤ e.startByte := by
  have computed : (parse "é=1\n@d\ndef f(x):\n  g()\nclass A: pass\n").toOption.map (fun m =>
      m.catalog.elements.map
        fun e => (e.name, e.startByte, e.endByte, e.startLine, e.endLine)) =
      some [("f", 5, 23, 2, 4), ("A", 24, 37, 5, 5)] := by decide +kernel
  obtain ⟨m, parsed, places⟩ := exists_of_map_parse computed
  exact ⟨m, parsed, places, spans_catalog parsed⟩

end Module

end CallContext
