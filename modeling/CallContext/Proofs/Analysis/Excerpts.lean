import CallContext.Proofs.Analysis.Definitions
import CallContext.Proofs.Syntax.Alike

/-!
# Elements read alone

The text of an element can be read as a module of its own.  `Element.RoundTrips` says that this
gives the element again, as all of that module.  That depends on the parser alone: places, lines
and text follow from the tree (`Module.roundTrips_catalog`), and all is well if the tree is the one
that the definition has in its module.

The parser does not always give that tree.  It follows at most six readings of a text at a time, and
joins readings that agree only if they have the same layout.  At the start of a text there is none,
so there readings stay apart that would be joined behind a line end, and the right one can be among
those that are given up (`Module.not_roundTrips_alias`).
-/

namespace CallContext

/-! ### Bytes and lines -/

/-- The lines of an element are those of its text. -/
theorem Element.SpansIn.endLine_eq_add {e : Element} {source : String} (h : e.SpansIn source) :
    e.endLine = e.startLine + lineFeeds e.source.toByteArray := by
  rw [h.endLine_eq, h.startLine_eq, h.source_eq,
    ByteArray.extract_eq_extract_append_extract e.startByte (Nat.zero_le _)
      (Nat.le_of_lt h.startByte_lt_endByte),
    lineFeeds_append, Nat.add_assoc]

/-- What stands between two cursors is the whole text only if they are its ends. -/
theorem Cursor.offset_of_between {source : String} {start stop : Cursor source.toList}
    (h : start.offset ≤ stop.offset) (whole : start.between stop = source) :
    start.offset = 0 ∧ stop.offset = source.utf8ByteSize := by
  obtain ⟨front, mid, back, split, startByte, -, stopByte, -, between⟩ := exists_stretch h
  obtain rfl : mid = source.toList := by rw [← whole, between, String.toList_ofList]
  have length := congrArg List.length split
  simp only [List.length_append] at length
  obtain rfl : front = [] := List.eq_nil_of_length_eq_zero (by omega)
  refine ⟨startByte, ?_⟩
  rw [stopByte, List.nil_append, utf8Length_eq_utf8ByteSize, String.ofList_toList]

/-! ### Alike definitions -/

/-- Alike nodes define elements of the same name, kind and docstring. -/
theorem Node.Alike.definition? {text text' : List Char} {n : Node text} {n' : Node text'}
    (h : n.Alike n') {d : Definition text} (hd : n.definition? = some d) :
    ∃ d', n'.definition? = some d' ∧ d'.element.name = d.element.name ∧
      d'.element.kind = d.element.kind ∧ d'.element.docstring = d.element.docstring := by
  obtain ⟨kind, inner, name, tag, undecorated, named, nonempty, rfl⟩ := definition?_eq_some hd
  have within := h.undecorated?
  rw [undecorated] at within
  generalize hi : n'.undecorated? = found at within
  cases within with
  | @some _ inner' alike =>
    have names := alike.child? .name
    rw [named] at names
    generalize hn : inner'.child? .name = found at names
    cases names with
    | @some _ name' alikeName =>
      refine ⟨⟨⟨name'.source, kind, n'.source, n'.startLine, n'.endLine, n'.start.offset,
        n'.stop.offset, inner'.docstring?⟩, n'⟩, ?_, alikeName.source_eq.symm, rfl,
        alike.docstring?_eq.symm⟩
      rw [Node.definition?, ← h.tag_eq, tag]
      simp [element?, hi, hn, ← alikeName.source_eq, nonempty]

/-! ### Reading alone -/

/-- One element is another one as a text of its own. -/
structure Element.IsWholeOf (whole e : Element) : Prop where
  name_eq : whole.name = e.name
  kind_eq : whole.kind = e.kind
  source_eq : whole.source = e.source
  docstring_eq : whole.docstring = e.docstring
  startByte_eq : whole.startByte = 0
  endByte_eq : whole.endByte = e.source.utf8ByteSize
  startLine_eq : whole.startLine = 1
  endLine_eq : whole.endLine = e.endLine - e.startLine + 1

/-- Read alone, the text of the element has one element, which is the same. -/
def Element.RoundTrips (e : Element) : Prop :=
  ∃ m, Module.parse e.source = .ok m ∧ ∃ whole, m.catalog.elements = [whole] ∧ whole.IsWholeOf e

/-- Read alone, the text of the element is a module with one definition from its start to its end,
which has the name, kind and docstring of the element. -/
def Element.StandsAlone (e : Element) : Prop :=
  ∃ m, Module.parse e.source = .ok m ∧ ∃ d, m.definitions = [d] ∧
    d.node.start.offset = 0 ∧ d.node.stop.offset = e.source.utf8ByteSize ∧
      d.element.name = e.name ∧ d.element.kind = e.kind ∧ d.element.docstring = e.docstring

/-- Read alone, the text of the definition has the tree that the definition has in its module, and
nothing else. -/
def Definition.ReadsAlike {text : List Char} (d : Definition text) : Prop :=
  ∃ m, Module.parse d.element.source = .ok m ∧ m.root.tag = .other ∧
    Node.AllAlike [d.node] m.root.children

/-- Whether a definition reads alike can be computed. -/
instance {text : List Char} (d : Definition text) : Decidable d.ReadsAlike :=
  match parsed : Module.parse d.element.source with
  | .ok m =>
    decidable_of_iff (m.root.tag = .other ∧ Node.AllAlike [d.node] m.root.children)
      ⟨fun h => ⟨m, parsed, h⟩, fun ⟨_, h, alike⟩ => Except.ok.inj (parsed.symm.trans h) ▸ alike⟩
  | .error _ => isFalse fun ⟨_, h, _⟩ => nomatch parsed.symm.trans h

namespace Module

/-- A definition that is all of a text has the lines of the text. -/
theorem isWholeOf_of_offsets {source : String} {m m' : Module} (h : parse source = .ok m)
    {d : Definition m.text} (hd : d ∈ m.definitions) (h' : parse d.element.source = .ok m')
    {d' : Definition m'.text} (hd' : d' ∈ m'.definitions) (start : d'.node.start.offset = 0)
    (stop : d'.node.stop.offset = d.element.source.utf8ByteSize)
    (name : d'.element.name = d.element.name) (kind : d'.element.kind = d.element.kind)
    (docstring : d'.element.docstring = d.element.docstring) :
    d'.element.IsWholeOf d.element := by
  have spans := spansIn_of_mem h hd
  have spans' := spansIn_of_mem h' hd'
  have bytes := Node.bytes_of_definition? (definition?_of_mem hd').2
  rw [start, stop] at bytes
  -- an element from the first to the last byte of a text has all of its bytes and line feeds
  have whole : d'.element.source.toByteArray = d.element.source.toByteArray := by
    rw [spans'.source_eq, bytes.1, bytes.2]
    exact ByteArray.extract_zero_size
  have first : d'.element.startLine = 1 := by
    rw [spans'.startLine_eq, bytes.1, ByteArray.extract_same]
    rfl
  exact
    { name_eq := name
      kind_eq := kind
      source_eq := String.toByteArray_inj.1 whole
      docstring_eq := docstring
      startByte_eq := bytes.1
      endByte_eq := bytes.2
      startLine_eq := first
      endLine_eq := by
        rw [spans'.endLine_eq_add, spans.endLine_eq_add, first, whole]
        omega }

theorem roundTrips_iff_standsAlone {source : String} {m : Module} (h : parse source = .ok m)
    {d : Definition m.text} (hd : d ∈ m.definitions) :
    d.element.RoundTrips ↔ d.element.StandsAlone := by
  constructor
  · rintro ⟨m', h', whole, only, isWhole⟩
    rw [elements_catalog, List.map_eq_singleton_iff] at only
    obtain ⟨d', only, rfl⟩ := only
    have bytes := Node.bytes_of_definition? (definition?_of_mem (only ▸ List.mem_cons_self)).2
    exact ⟨m', h', d', only, bytes.1.symm.trans isWhole.startByte_eq,
      bytes.2.symm.trans isWhole.endByte_eq, isWhole.name_eq, isWhole.kind_eq,
      isWhole.docstring_eq⟩
  · rintro ⟨m', h', d', only, start, stop, name, kind, docstring⟩
    refine ⟨m', h', d'.element, by rw [elements_catalog, only, List.map_singleton], ?_⟩
    exact isWholeOf_of_offsets h hd h' (only ▸ List.mem_cons_self) start stop name kind docstring

theorem definitions_of_namedChildren {m : Module} {n : Node m.text}
    (only : m.root.namedChildren = [n]) {d : Definition m.text} (hd : n.definition? = some d) :
    m.definitions = [d] := by
  rw [definitions_eq, only]
  simp [hd, putLast]

/-- A definition that reads alike stands alone. -/
theorem standsAlone_of_readsAlike {m : Module} {d : Definition m.text} (hd : d ∈ m.definitions)
    (alone : d.ReadsAlike) : d.element.StandsAlone := by
  obtain ⟨m', h', -, all⟩ := alone
  obtain ⟨n, only, alike⟩ := Node.allAlike_singleton.1 all
  obtain ⟨child, defined⟩ := definition?_of_mem hd
  obtain ⟨d', defined', name, kind, docstring⟩ := alike.definition? defined
  have nested := m'.nested.child (only ▸ List.mem_cons_self)
  obtain ⟨root, found, sound, modern, rfl⟩ := parse_eq_ok h'
  have named : root.namedChildren = [n] := by
    rw [Node.namedChildren, only]
    exact List.filter_cons_of_pos (alike.kind_eq ▸ (List.mem_filter.1 child).2)
  -- the node has the whole text, so it starts and stops where the text does
  have whole : n.source = d.element.source := by
    rw [← alike.source_eq, Node.source_of_definition? defined]
  obtain ⟨start, stop⟩ := Cursor.offset_of_between nested.2.1.start_le_stop whole
  refine ⟨_, h', d', definitions_of_namedChildren named defined', ?_⟩
  rw [Node.node_of_definition? defined']
  exact ⟨start, stop, name, kind, docstring⟩

/-- An element round-trips exactly if it stands alone, and it does so if its text alone has the
tree that it has in its module. -/
theorem roundTrips_catalog {source : String} {m : Module} (h : parse source = .ok m) {e : Element}
    (he : e ∈ m.catalog.elements) :
    (e.RoundTrips ↔ e.StandsAlone) ∧
      ∃ d, m.Survives d ∧ d.element = e ∧ (d.ReadsAlike → e.RoundTrips) := by
  rw [elements_catalog] at he
  obtain ⟨d, hd, rfl⟩ := List.mem_map.1 he
  have alone := roundTrips_iff_standsAlone h hd
  exact ⟨alone, d, mem_definitions.1 hd, rfl, fun alike =>
    alone.2 (standsAlone_of_readsAlike hd alike)⟩

/-- A decorated class behind another line is read alike. -/
theorem roundTrips_catalog_decorated : ∃ m e d, parse "x\n@d\nclass A: 'b'" = .ok m ∧
    m.catalog.elements = [e] ∧ e.source = "@d\nclass A: 'b'" ∧ e.startLine = 2 ∧
      m.Survives d ∧ d.element = e ∧ d.ReadsAlike ∧ e.StandsAlone ∧ e.RoundTrips := by
  have computed : (parse "x\n@d\nclass A: 'b'").toOption.map (fun m =>
        (m.definitions.map (·.element), m.definitions.all (decide ·.ReadsAlike))) =
      some ([⟨"A", .classDefinition, "@d\nclass A: 'b'", 2, 3, 2, 17, some "b"⟩], true) := by
    decide +kernel
  obtain ⟨m, parsed, values⟩ := exists_of_map_parse computed
  obtain ⟨elements, all⟩ := Prod.mk.inj values
  rw [← elements_catalog] at elements
  obtain ⟨alone, d, survives, element, alike⟩ :=
    roundTrips_catalog parsed (elements ▸ List.mem_cons_self)
  have reads : d.ReadsAlike :=
    of_decide_eq_true (List.all_eq_true.1 all d (mem_definitions.2 survives))
  exact ⟨m, _, d, parsed, elements, rfl, rfl, survives, element, reads, alone.1 (alike reads),
    alike reads⟩

/-- The left side of this type alias has three lines.  Behind another statement it is read, alone
it is not. -/
theorem not_roundTrips_alias :
    ∃ m e, parse "s\ndef f():type()\nor\nwith():[**a.b((*b))]=y" = .ok m ∧
      m.catalog.elements = [e] ∧ e.source = "def f():type()\nor\nwith():[**a.b((*b))]=y" ∧
      (∀ m', parse e.source ≠ .ok m') ∧ ¬ e.RoundTrips := by
  have computed : (parse "s\ndef f():type()\nor\nwith():[**a.b((*b))]=y").toOption.map
      (fun m => m.catalog.elements.map (·.source)) =
      some ["def f():type()\nor\nwith():[**a.b((*b))]=y"] := by decide +kernel
  have refused : (parse "def f():type()\nor\nwith():[**a.b((*b))]=y").toOption.isNone := by
    decide +kernel
  obtain ⟨m, parsed, sources⟩ := exists_of_map_parse computed
  obtain ⟨e, only, source⟩ := List.map_eq_singleton_iff.1 sources
  have none (m' : Module) : parse e.source ≠ .ok m' := by
    intro h
    rw [← source, h] at refused
    cases refused
  exact ⟨m, e, parsed, only, source, none, fun ⟨m', h, _⟩ => none m' h⟩

end Module

end CallContext
