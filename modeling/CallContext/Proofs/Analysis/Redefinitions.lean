import CallContext.Proofs.Analysis.Definitions
import CallContext.Proofs.Files.Identifier

/-!
# Redefinitions

A module can define a name more than once at its top level.  Every such definition makes an element
(`Node.isSome_definition?`), and of those of one name the last stays.

* `Module.lastWins_definitions` : the definitions of a module are exactly the top level definitions
  that none of the same name follows, in the order of the text, and its catalog has their elements.
-/

namespace CallContext

/-! ### Nodes that define something -/

namespace Node

variable {text : List Char} {n : Node text}

/-- The node is a function or a class, with decorators or without. -/
def isDefinition (n : Node text) : Bool :=
  n.kind = Symbol.functionDefinition || n.kind = Symbol.classDefinition ||
    n.kind = Symbol.decoratedDefinition

/-- The name that the node defines, behind its decorators. -/
def definedName? (n : Node text) : Option String :=
  (n.undecorated?.bind (·.child? .name)).map source

theorem tag_of_decorated (decorated : n.kind = Symbol.decoratedDefinition) :
    n.tag = tagOfDefinition n.children := by
  obtain ⟨symbol, field, start, stop, isMissing, hasFault, children⟩ := n
  change symbol = _ at decorated
  rw [tag, if_pos decorated]
  rfl

theorem tagOfDefinition_of_find? {ns : List (Node text)} {inner : Node text}
    (h : ns.find? (·.field = some .definition) = some inner) : tagOfDefinition ns = inner.tag := by
  induction ns with
  | nil => cases h
  | cons n ns ih =>
    rw [tagOfDefinition]
    by_cases here : n.field = some .definition
    · rw [List.find?_cons_of_pos (by simpa using here)] at h
      rw [if_pos here, Option.some.inj h]
    · rw [List.find?_cons_of_neg (by simpa using here)] at h
      rw [if_neg here, ih h]

theorem tag_of_kind (plain : n.kind = Symbol.functionDefinition ∨ n.kind = Symbol.classDefinition) :
    ∃ kind, n.tag = .definition kind := by
  obtain ⟨symbol, field, start, stop, isMissing, hasFault, children⟩ := n
  change symbol = _ ∨ symbol = _ at plain
  rcases plain with rfl | rfl
  · exact ⟨.functionDefinition, rfl⟩
  · exact ⟨.classDefinition, rfl⟩

/-- A function or class stands behind the decorators, and gives the node its tag. -/
theorem exists_undecorated (h : n.hasParts = true) (defines : n.isDefinition = true) :
    ∃ inner ∈ n.preorder, n.undecorated? = some inner ∧ n.tag = inner.tag ∧
      (inner.kind = Symbol.functionDefinition ∨ inner.kind = Symbol.classDefinition) := by
  by_cases decorated : n.kind = Symbol.decoratedDefinition
  · have parts : (n.child? .definition).any (fun d =>
        d.kind = Symbol.functionDefinition || d.kind = Symbol.classDefinition) = true := by
      rw [hasParts, decorated] at h
      exact h
    obtain ⟨inner, child, plain⟩ := (Option.any_eq_true ..).1 parts
    refine ⟨inner, preorder_subset (child?_mem child) inner.self_mem_preorder, ?_, ?_, ?_⟩
    · rw [undecorated?, if_pos decorated, child]
    · rw [tag_of_decorated decorated]
      exact tagOfDefinition_of_find? child
    · simpa using plain
  · refine ⟨n, n.self_mem_preorder, ?_, rfl, ?_⟩
    · rw [undecorated?, if_neg decorated]
    · simpa [isDefinition, decorated] using defines

/-- Where nodes have their parts, functions and classes make elements, and nothing else does. -/
theorem isSome_definition? (shapely : ∀ x ∈ n.preorder, x.hasParts = true) :
    n.definition?.isSome = n.isDefinition := by
  rw [Bool.eq_iff_iff]
  constructor
  · intro some
    obtain ⟨d, hd⟩ := Option.isSome_iff_exists.1 some
    obtain ⟨kind, inner, name, tag, -, -, -, -⟩ := definition?_eq_some hd
    by_cases decorated : n.kind = Symbol.decoratedDefinition
    · simp [isDefinition, decorated]
    · rcases kind_of_tag tag decorated with plain | plain <;> simp [isDefinition, plain]
  · intro defines
    obtain ⟨inner, below, undecorated, tag, plain⟩ :=
      exists_undecorated (shapely n n.self_mem_preorder) defines
    obtain ⟨kind, tagged⟩ := tag_of_kind plain
    -- the name is an identifier, so it is not empty
    have parts := shapely inner below
    rw [hasParts, if_pos (by simpa using plain)] at parts
    obtain ⟨name, child, word⟩ := (Option.any_eq_true ..).1 parts
    have written : name.source ≠ "" := Identifier.ne_empty word
    simp only [definition?, tag, tagged, element?, undecorated, child, Option.map_some,
      if_neg written, Option.isSome_some]

theorem definedName?_of_definition? {d : Definition text} (h : n.definition? = some d) :
    n.definedName? = some d.element.name := by
  obtain ⟨kind, inner, name, -, undecorated, child, -, rfl⟩ := definition?_eq_some h
  rw [definedName?, undecorated, Option.bind_some, child]
  rfl

theorem named_of_isDefinition (h : n.isDefinition = true) : n.kind.named = true := by
  simp only [isDefinition, Bool.or_eq_true, decide_eq_true_eq] at h
  rcases h with (kind | kind) | kind <;> rw [kind] <;> decide

end Node

/-! ### Definitions of a module -/

namespace Module

variable {m : Module}

/-- The top level definitions as they are written, each name as often as it is defined. -/
def written (m : Module) : List (Node m.text) := m.root.children.filter Node.isDefinition

/-- A top level definition makes an element under its name. -/
theorem exists_definition?_of_mem {n : Node m.text} (h : n ∈ m.written) :
    ∃ d, n.definition? = some d ∧ d.node = n ∧ n.definedName? = some d.element.name ∧
      d.element.name ≠ "" := by
  obtain ⟨child, defines⟩ := List.mem_filter.1 h
  have shapely := shapely_child child
  rw [← Node.isSome_definition? shapely] at defines
  obtain ⟨d, made⟩ := Option.isSome_iff_exists.1 defines
  have word := Node.isWord_of_definition? shapely made
  exact ⟨d, made, Node.node_of_definition? made, Node.definedName?_of_definition? made,
    Identifier.ne_empty word⟩

/-- Each makes one element, in the order of the text. -/
theorem map_node_written (m : Module) :
    (m.written.filterMap Node.definition?).map (·.node) = m.written := by
  have self : ∀ n ∈ m.written, n.definition?.map (·.node) = some n := by
    intro n hn
    obtain ⟨d, made, same, -⟩ := exists_definition?_of_mem hn
    rw [made, Option.map_some, same]
  rw [List.map_filterMap, List.filterMap_congr self, List.filterMap_some]

theorem filterMap_written (m : Module) :
    m.written.filterMap Node.definition? = m.root.namedChildren.filterMap Node.definition? := by
  rw [Node.namedChildren, written, List.filterMap_filter, List.filterMap_filter]
  refine List.filterMap_congr fun n hn => ?_
  have defines := Node.isSome_definition? (shapely_child hn)
  by_cases here : n.isDefinition = true
  · rw [if_pos here, if_pos (Node.named_of_isDefinition here)]
  · have none : n.definition? = none := by simpa [here] using defines
    rw [if_neg here, none]
    split <;> rfl

/-- The last definition of each name is kept. -/
theorem definitions_eq_keepLast (m : Module) :
    m.definitions = keepLast (·.element.name) (m.written.filterMap Node.definition?) := by
  rw [definitions_eq, filterMap_written]
  exact foldl_putLast_eq _ _ []

theorem definedName?_eq_iff {ns : List (Node m.text)} {d d' : Definition m.text}
    (hd : d ∈ ns.filterMap Node.definition?) (hd' : d' ∈ ns.filterMap Node.definition?) :
    d.node.definedName? = d'.node.definedName? ↔ d.element.name = d'.element.name := by
  obtain ⟨n, -, made⟩ := List.mem_filterMap.1 hd
  obtain ⟨n', -, made'⟩ := List.mem_filterMap.1 hd'
  rw [Node.node_of_definition? made, Node.node_of_definition? made',
    Node.definedName?_of_definition? made, Node.definedName?_of_definition? made', Option.some_inj]

/-- Seen as nodes, these are the last ones of each name that is written. -/
theorem map_node_definitions (m : Module) :
    m.definitions.map (·.node) = keepLast Node.definedName? m.written := by
  rw [definitions_eq_keepLast]
  exact (map_keepLast Node.definedName? Definition.node fun _ hd _ hd' =>
    definedName?_eq_iff hd hd').trans (congrArg _ m.map_node_written)

/-- A catalog of all top level definitions comes to the same elements. -/
theorem elements_ofList_written (m : Module) :
    (Catalog.ofList ((m.written.filterMap Node.definition?).map (·.element))).elements =
      m.definitions.map (·.element) := by
  rw [filterMap_written]
  exact congrArg Catalog.elements (Collection.catalog_foldl_add .empty _).symm

/-- Of the top level definitions those stay which none of the same name follows. -/
structure LastWins (m : Module) : Prop where
  /-- Each makes an element under its name, so none is left out for another reason. -/
  makes : ∀ n ∈ m.written, ∃ d, n.definition? = some d ∧ d.node = n ∧
    n.definedName? = some d.element.name ∧ d.element.name ≠ ""
  /-- They are in the order of the text. -/
  inOrder : m.written.Pairwise fun n n' => n.stop.offset ≤ n'.start.offset
  nodes_eq : m.definitions.map (·.node) = keepLast Node.definedName? m.written
  definition?_eq : ∀ d ∈ m.definitions, d.node.definition? = some d
  nodup : (m.definitions.map (·.element.name)).Nodup
  elements_eq : m.catalog.elements = m.definitions.map (·.element)
  /-- A catalog of all of them keeps the same ones by itself. -/
  elements_ofList_eq :
    (Catalog.ofList ((m.written.filterMap Node.definition?).map (·.element))).elements =
      m.definitions.map (·.element)

/-- The last definition of each name wins in the definitions and in the catalog. -/
theorem lastWins_definitions (m : Module) : m.LastWins where
  makes _ hn := exists_definition?_of_mem hn
  inOrder := m.nested.between_children.pairwise.sublist List.filter_sublist
  nodes_eq := m.map_node_definitions
  definition?_eq _ hd := (definition?_of_mem hd).2
  nodup := m.nodup_definitions
  elements_eq := m.elements_catalog
  elements_ofList_eq := m.elements_ofList_written

/-- A module in which two names are defined again, a class by a function and one with a
decorator. -/
def redefining : String :=
  "def a(): 1\nclass b: 2\n@d\ndef a(): 3\nif x:\n  def e(): 4\ndef c(): 5\ndef b(): 6\n"

/-- What is defined inside another statement does not count. -/
theorem lastWins_definitions_redefining : ∃ m, parse redefining = .ok m ∧
    m.written.map (·.definedName?) = [some "a", some "b", some "a", some "c", some "b"] ∧
    m.definitions.map (fun d => (d.element.name, d.element.startLine)) =
      [("a", 3), ("c", 7), ("b", 8)] ∧
    m.LastWins := by
  have computed : (parse redefining).toOption.map (fun m => (m.written.map (·.definedName?),
      m.definitions.map fun d => (d.element.name, d.element.startLine))) =
      some ([some "a", some "b", some "a", some "c", some "b"],
        [("a", 3), ("c", 7), ("b", 8)]) := by
    decide +kernel
  obtain ⟨m, parsed, values⟩ := exists_of_map_parse computed
  obtain ⟨names, places⟩ := Prod.mk.inj values
  exact ⟨m, parsed, names, places, lastWins_definitions m⟩

end Module

end CallContext
