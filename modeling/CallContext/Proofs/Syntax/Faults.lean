import CallContext.Proofs.Syntax.Shapely

/-!
# Reports of faults

A text that is no module is reported with a line and a reason.

* `Node.Marked.firstFault?_eq` : the search for a fault goes only into nodes that are marked, and
  finds the first fault of the whole tree if no fault stands in a node without a mark,
* `Node.marked_of_parse?` : this holds of the syntax tree of every text, although not every node is
  marked that stands for a fault: a character that starts no token is not, but it is always inside
  of an error,
* `Module.Pointed` : what is reported about a text, its first fault or else the first statement that
  only Python 2 knows,
* `Module.pointed_parse` : reports point there, and at a line of the text.

A missing token of a hidden kind, such as a line end, is no node of the syntax tree.  If a text has
no other faults, its report is about line 1.
-/

namespace CallContext

variable {text : List Char}

namespace Node

/-! ### The first fault of a tree -/

/-- The node stands for a fault: it is text outside the grammar, or a token that the text lacks. -/
def isFault (n : Node text) : Bool := n.isError || n.isMissing

/-- The node is one that the search for a fault goes into. -/
def isMarked (n : Node text) : Bool := n.hasFault || n.isMissing

/-- Nothing in the node stands for a fault. -/
def Faultless (n : Node text) : Prop := ∀ m ∈ n.preorder, m.isFault = false

/-- A node has faults exactly if it stands for one or something in it does. -/
def Flagged (root : Node text) : Prop :=
  ∀ n ∈ root.preorder, n.hasFault = true ↔ ∃ m ∈ n.preorder, m.isFault = true

theorem flagged_iff {root : Node text} : root.Flagged ↔
    (root.preorder.all fun n => n.hasFault == n.preorder.any isFault) = true := by
  rw [List.all_eq_true]
  refine forall_congr' fun n => forall_congr' fun _ => ?_
  rw [← List.any_eq_true, beq_iff_eq, ← Bool.eq_iff_iff]

instance (root : Node text) : Decidable root.Flagged := decidable_of_iff _ flagged_iff.symm

/-- Outside of what stands for a fault, no fault is in a node without a mark. -/
inductive Marked : Node text → Prop
  | fault {n : Node text} (fault : n.isFault = true) : Marked n
  | inner {n : Node text} (faultless : ∀ c ∈ n.children, c.isMarked = false → c.Faultless)
      (marked : ∀ c ∈ n.children, Marked c) : Marked n

theorem firstFault?_eq (n : Node text) :
    n.firstFault? = if n.isFault then some n else firstFaultAmong? n.children := by
  cases n
  rw [firstFault?]
  rfl

/-- Among several trees the search leaves out only those without faults. -/
theorem firstFaultAmong?_eq {ns : List (Node text)}
    (faultless : ∀ n ∈ ns, n.isMarked = false → n.Faultless)
    (first : ∀ n ∈ ns, n.firstFault? = n.preorder.find? isFault) :
    firstFaultAmong? ns = (preorderAll ns).find? isFault := by
  induction ns with
  | nil => rfl
  | cons n ns ih =>
    obtain ⟨faultlessHere, faultlessLater⟩ := List.forall_mem_cons.1 faultless
    obtain ⟨firstHere, firstLater⟩ := List.forall_mem_cons.1 first
    rw [firstFaultAmong?, preorderAll, List.find?_append, ih faultlessLater firstLater]
    split
    · rw [firstHere, Option.orElse_eq_orElse, Option.orElse_eq_or]
    · next unmarked =>
      -- the search leaves the tree out, and there is nothing in it to be found
      have none : n.preorder.find? isFault = none := by
        simpa [Faultless] using faultlessHere (by simpa [isMarked] using unmarked)
      rw [none, Option.none_or]

/-- The search finds the first fault of the whole tree. -/
theorem Marked.firstFault?_eq {n : Node text} (h : n.Marked) :
    n.firstFault? = n.preorder.find? isFault := by
  induction h with
  | fault fault => rw [Node.firstFault?_eq, preorder_eq, List.find?_cons, fault, if_pos rfl]
  | @inner n faultless _ first =>
    rw [Node.firstFault?_eq, preorder_eq, List.find?_cons]
    cases n.isFault with
    | true => rfl
    | false => exact firstFaultAmong?_eq faultless first

theorem Flagged.faultless {n : Node text} (h : n.Flagged) (unmarked : n.isMarked = false) :
    n.Faultless := by
  intro m hm
  have sound : n.hasFault = false := (Bool.or_eq_false_iff.1 unmarked).1
  rw [Bool.eq_false_iff]
  intro fault
  rw [(h n n.self_mem_preorder).2 ⟨m, hm, fault⟩] at sound
  cases sound

theorem Flagged.child {n child : Node text} (h : n.Flagged) (hc : child ∈ n.children) :
    child.Flagged :=
  fun m hm => h m (preorder_subset hc hm)

theorem Flagged.marked : ∀ {n : Node text}, n.Flagged → n.Marked
  | mk kind field start stop isMissing hasFault children, h =>
    .inner (fun _ hc => (h.child hc).faultless) fun c (hc : c ∈ children) =>
      have : sizeOf c < sizeOf children := List.sizeOf_lt_of_mem hc
      Flagged.marked (h.child hc)

/-! ### The syntax tree of a text -/

open Subtree

variable {t : Subtree text}

/-- Labels can give the subtree the kind: extras get none, and no kind is that of an error. -/
def Given (kind : Option Symbol) (t : Subtree text) : Prop :=
  ∀ k ∈ kind, k ≠ Symbol.error ∧ t.isExtra = false

theorem given_none (t : Subtree text) : Given none t := nofun

theorem Given.eq_none {kind : Option Symbol} (h : Given kind t) (extra : t.isExtra = true) :
    kind = none := by
  cases kind with
  | none => rfl
  | some k => exact absurd extra (by simp [(h k rfl).2])

/-- What holds of the nodes of all children, whatever kinds they are given, holds of the nodes that
stand for them. -/
theorem forall_mem_children {P : Node text → Prop}
    (labels : ∃ r : Reduction, r.labels = t.labels)
    (h : ∀ u ∈ t.children, ∀ kind field, Given kind u → ∀ n ∈ ofSubtree kind field u [], P n)
    (field : Option Field) : ∀ n ∈ ofSubtrees t.labels field 0 t.children [], P n := by
  obtain ⟨r, labels⟩ := labels
  refine forall_mem_ofSubtrees (fun u hu _ => h u hu none none (given_none u)) fun i u hu => ?_
  obtain ⟨hu, solid⟩ := mem_of_mem_solid (List.mem_of_getElem? hu)
  apply h u hu
  intro k hk
  refine ⟨?_, solid⟩
  rw [← labels] at hk
  rcases Reduction.kind_of_kindAt hk with rfl | rfl | code
  · decide
  · decide
  · rintro rfl
    exact absurd code (by decide)

theorem isFault_display {kind : Option Symbol} (given : Given kind t) (h : t.Conforms)
    (sound : t.symbol ≠ Symbol.error) (field : Option Field) :
    (display kind field t).isFault = false := by
  have present : (display kind field t).isMissing = false := by
    cases t with
    | leaf => rfl
    | missing => exact h.elim
    | node => rfl
  rw [isFault, present, isError, kind_display, Bool.or_false, decide_eq_false_iff_not]
  cases kind with
  | none => exact sound
  | some k => exact (given k rfl).1

/-- Nothing in a subtree that conforms to the grammar stands for a fault. -/
theorem faultless_ofSubtree (closed : t.Closed) (h : t.Conforms)
    (sound : t.symbol.isFault = false) {kind : Option Symbol} (given : Given kind t)
    {field : Option Field} : ∀ n ∈ ofSubtree kind field t [], n.Faultless := by
  induction closed generalizing kind field with
  | fault fault => exact absurd fault (by simp [sound])
  | @made t labels known _ ih =>
    -- a hidden subtree is replaced by the nodes of its children, a shown one has them below it
    have below : ∀ field, ∀ n ∈ ofSubtrees t.labels field 0 t.children [], n.Faultless := by
      refine forall_mem_children labels fun u hu kind field given => ?_
      have conforms := h.children u hu
      exact ih u hu conforms ((known u hu).1.isFault_of_conforms (known u hu).2 conforms) given
    rw [ofSubtree_eq]
    split
    · rw [List.forall_mem_singleton, Faultless, preorder_eq, List.forall_mem_cons, children_display]
      refine ⟨isFault_display given h (fun error => ?_) field, fun m hm => ?_⟩
      · exact absurd sound (by rw [error]; decide)
      · obtain ⟨n, hn, inner⟩ := mem_preorderAll hm
        exact below none n hn m inner
    · exact below field

/-- A subtree that is shown without a mark costs nothing, so that it conforms to the grammar. -/
theorem conforms_of_isMarked {kind : Option Symbol} {field : Option Field} (known : t.Known)
    (unskipped : t.symbol ≠ Symbol.skipped) (h : (display kind field t).isMarked = false) :
    t.Conforms :=
  known.conforms (cost_of_hasFault (Bool.or_eq_false_iff.1 h).1) unskipped

theorem marked_display {kind : Option Symbol} {field : Option Field}
    (below : ∀ n ∈ ofSubtrees t.labels none 0 t.children [],
      (n.isMarked = false → n.Faultless) ∧ n.Marked) : (display kind field t).Marked := by
  rw [← children_display kind field t] at below
  exact .inner (fun c hc => (below c hc).1) fun c hc => (below c hc).2

/-- Outside of errors, no fault is in a node without a mark. -/
theorem marked_ofSubtree (closed : t.Closed) (known : t.Known)
    (unskipped : t.symbol ≠ Symbol.skipped) {kind : Option Symbol} (given : Given kind t)
    {field : Option Field} :
    ∀ n ∈ ofSubtree kind field t [], (n.isMarked = false → n.Faultless) ∧ n.Marked := by
  induction closed generalizing kind field with
  | @fault t fault =>
    have error : t.symbol = Symbol.error := by simpa [Symbol.isFault, unskipped] using fault
    -- an error is an extra, so that no label gives it another kind
    obtain rfl := given.eq_none (known.error error).1
    rw [ofSubtree_eq, if_pos (by rw [error]; decide), List.forall_mem_singleton]
    refine ⟨?_, .fault (by simp [isFault, isError, error])⟩
    intro unmarked
    have conforms := conforms_of_isMarked known unskipped unmarked
    rw [known.isFault_of_conforms unskipped conforms] at fault
    cases fault
  | @made t labels inner closed ih =>
    have below : ∀ field, ∀ n ∈ ofSubtrees t.labels field 0 t.children [],
        (n.isMarked = false → n.Faultless) ∧ n.Marked :=
      forall_mem_children labels fun u hu kind field given =>
        ih u hu (inner u hu).1 (inner u hu).2 given
    have own := ofSubtree_eq kind field t []
    split at own
    · rw [own, List.forall_mem_singleton]
      refine ⟨?_, marked_display (below none)⟩
      intro unmarked
      have conforms := conforms_of_isMarked known unskipped unmarked
      have faultless : ∀ n ∈ ofSubtree kind field t [], n.Faultless :=
        faultless_ofSubtree (.made labels inner closed) conforms
          (known.isFault_of_conforms unskipped conforms) given
      rwa [own, List.forall_mem_singleton] at faultless
    · rw [own]
      exact below field

/-- Outside of errors, no fault of the syntax tree of a text is in a node without a mark. -/
theorem marked_of_parse? {root : Node text} (h : parse? text = some root) : root.Marked := by
  obtain ⟨t, parsed, head⟩ := Option.bind_eq_some_iff.1 h
  have whole := Machine.whole_of_parse? parsed
  rw [ofSubtree_eq, if_pos (by simp [whole.shown])] at head
  obtain rfl : display none none t = root := Option.some.inj head
  rcases whole.closed with error | ⟨labels, known⟩
  · exact .fault (by simp [isFault, isError, error])
  · refine marked_display (forall_mem_children labels (fun u hu kind field given => ?_) none)
    rcases known u hu with ⟨fair, unskipped⟩ | ⟨token, rfl, ended⟩
    · exact marked_ofSubtree fair.closed fair.toKnown unskipped given
    · -- the token at the end of the text is not shown
      obtain rfl := given.eq_none rfl
      rw [ofSubtree_eq, if_neg (by rw [symbol, ended]; decide)]
      exact List.forall_mem_nil _

/-! ### Statements of Python 2 -/

/-- The node is a statement that only Python 2 knows. -/
def isLegacy (n : Node text) : Bool :=
  n.kind = Symbol.printStatement || n.kind = Symbol.execStatement

theorem firstLegacy?_eq (root : Node text) : root.firstLegacy? = root.preorder.find? isLegacy := by
  rw [firstLegacy?, walk_eq_preorder]
  rfl

theorem isSome_firstLegacy? {root : Node text} :
    root.firstLegacy?.isSome = true ↔ ∃ n ∈ root.preorder, n.isLegacy = true := by
  rw [firstLegacy?_eq, List.find?_isSome]

/-- No such statement starts on an earlier line than the first one, at whatever depth it stands. -/
theorem Nested.startLine_le {root n : Node text} (nested : root.Nested)
    (first : root.firstLegacy? = some n) :
    ∀ m ∈ root.preorder, m.isLegacy = true → n.startLine ≤ m.startLine := by
  intro m hm legacy
  rw [firstLegacy?_eq] at first
  obtain ⟨-, front, back, split, others⟩ := List.find?_eq_some_iff_append.1 first
  -- no node behind the first one starts before it, and those before it are no such statements
  have ordered := nested.pairwise_start
  rw [split, List.pairwise_append, List.pairwise_cons] at ordered
  rw [split, List.mem_append, List.mem_cons] at hm
  rcases hm with before | rfl | after
  · exact absurd legacy (by simpa using others m before)
  · exact Nat.le_refl _
  · exact Nat.succ_le_succ (Cursor.line_le_of_offset_le (ordered.2.1.1 m after))

/-! ### Reports -/

/-- What is reported about a node that stands for a fault. -/
def report (n : Node text) : SyntaxError :=
  ⟨n.startLine, if n.isMissing then .missing n.kind.name else .invalid⟩

theorem fault_eq (root : Node text) : root.fault = root.firstFault?.elim ⟨1, .invalid⟩ report := by
  unfold fault
  cases root.firstFault? <;> rfl

theorem fault_fault_ne (root : Node text) : root.fault.fault ≠ .legacyStatement := by
  rw [fault_eq]
  cases root.firstFault? with
  | none => simp
  | some n =>
    rw [Option.elim_some, report]
    dsimp only
    split <;> simp

end Node

namespace SyntaxError

/-- The line is one of the lines of a text, of which there is one more than line feeds. -/
def IsIn (e : SyntaxError) (source : String) : Prop :=
  1 ≤ e.line ∧ e.line ≤ 1 + lineFeeds source.toByteArray

theorem isIn_first (source : String) (fault : SyntaxFault) : IsIn ⟨1, fault⟩ source :=
  ⟨Nat.le_refl _, Nat.le_add_right _ _⟩

theorem isIn_startLine {source : String} (n : Node source.toList) (fault : SyntaxFault) :
    IsIn ⟨n.startLine, fault⟩ source := by
  have bound := n.start.line_le_lineFeeds
  simp only [IsIn, Node.startLine]
  omega

end SyntaxError

namespace Module

open SyntaxError

theorem isIn_of_parse {source : String} {e : SyntaxError} (h : parse source = .error e) :
    e.IsIn source := by
  rcases parse_eq_error_iff.1 h with ⟨-, rfl⟩ | ⟨root, -, ⟨-, rfl⟩ | ⟨-, n, -, rfl⟩⟩
  · exact isIn_first ..
  · rw [Node.fault_eq]
    cases root.firstFault? with
    | none => exact isIn_first ..
    | some n => exact isIn_startLine ..
  · exact isIn_startLine ..

theorem parse_of_hasFault {source : String} {root : Node source.toList}
    (found : Node.parse? source.toList = some root) (faulty : root.hasFault = true) :
    parse source = .error root.fault :=
  parse_eq_error_iff.2 (.inr ⟨root, found, .inl ⟨faulty, rfl⟩⟩)

/-- Without faults only statements of Python 2 are reported, and of these the first. -/
theorem parse_eq_error_iff_of_sound {source : String} {root : Node source.toList}
    (found : Node.parse? source.toList = some root) (sound : root.hasFault = false)
    {e : SyntaxError} : parse source = .error e ↔
      ∃ n, root.firstLegacy? = some n ∧ e = ⟨n.startLine, .legacyStatement⟩ := by
  constructor
  · intro h
    rcases parse_eq_error_iff.1 h with ⟨none, -⟩ | ⟨root', found', reason⟩
    · rw [found] at none
      cases none
    · obtain rfl := Option.some.inj (found.symm.trans found')
      rcases reason with ⟨faulty, -⟩ | ⟨-, legacy⟩
      · rw [sound] at faulty
        cases faulty
      · exact legacy
  · rintro ⟨n, legacy, rfl⟩
    exact parse_eq_error_iff.2 (.inr ⟨root, found, .inr ⟨sound, n, legacy, rfl⟩⟩)

/-- What is reported about a text that has a syntax tree. -/
structure Pointed (source : String) (root : Node source.toList) : Prop where
  /-- If there are faults, the first that is shown is reported, and line 1 if none is shown.
  Statements of Python 2 do not count then. -/
  faulty : root.hasFault = true → parse source = .error root.fault ∧
    root.fault = (root.preorder.find? Node.isFault).elim ⟨1, .invalid⟩ Node.report ∧
    root.fault.fault ≠ .legacyStatement
  /-- If there are no faults, the text is no module exactly if a statement of Python 2 stands
  somewhere in it. -/
  fails_iff : root.hasFault = false →
    ((∃ e, parse source = .error e) ↔ ∃ n ∈ root.preorder, n.isLegacy = true)
  /-- The line is then the smallest on which such a statement starts. -/
  earliest : root.hasFault = false → ∀ e, parse source = .error e → e.fault = .legacyStatement ∧
    (∃ n ∈ root.preorder, n.isLegacy = true ∧ n.startLine = e.line) ∧
    ∀ n ∈ root.preorder, n.isLegacy = true → e.line ≤ n.startLine

theorem pointed_of_parse? {source : String} {root : Node source.toList}
    (found : Node.parse? source.toList = some root) : Pointed source root where
  faulty faulty := by
    refine ⟨parse_of_hasFault found faulty, ?_, root.fault_fault_ne⟩
    rw [Node.fault_eq, (Node.marked_of_parse? found).firstFault?_eq]
  fails_iff sound := by
    simp only [parse_eq_error_iff_of_sound found sound]
    rw [← Node.isSome_firstLegacy?, Option.isSome_iff_exists]
    constructor
    · rintro ⟨-, n, first, -⟩
      exact ⟨n, first⟩
    · rintro ⟨n, first⟩
      exact ⟨_, n, first, rfl⟩
  earliest sound e h := by
    obtain ⟨n, first, rfl⟩ := (parse_eq_error_iff_of_sound found sound).1 h
    have least := (Node.nested_of_parse? found).startLine_le first
    rw [Node.firstLegacy?_eq] at first
    exact ⟨rfl, ⟨n, List.mem_of_find?_eq_some first, List.find?_some first, rfl⟩, least⟩

/-- In a tree whose nodes have faults exactly if something in them stands for one, the search for a
fault finds the first of all nodes that stand for one, and this is what is reported.  What is
reported about a text is its first fault or else its first statement that only Python 2 knows, and
the line is always one of the text. -/
theorem pointed_parse :
    (∀ {text : List Char} (root : Node text), root.Flagged → root.hasFault = true →
      ∃ n, root.preorder.find? Node.isFault = some n ∧ root.firstFault? = some n ∧
        root.fault = n.report) ∧
    ∀ source : String,
      (∀ root, Node.parse? source.toList = some root → Pointed source root) ∧
      ∀ e, parse source = .error e → 1 ≤ e.line ∧ e.line ≤ 1 + lineFeeds source.toByteArray := by
  refine ⟨?_, fun source => ⟨fun root => pointed_of_parse?, fun e => isIn_of_parse⟩⟩
  intro text root flagged faulty
  have search := flagged.marked.firstFault?_eq
  obtain ⟨n, first⟩ := Option.isSome_iff_exists.1
    (List.find?_isSome.2 ((flagged root root.self_mem_preorder).1 faulty))
  refine ⟨n, first, search.trans first, ?_⟩
  rw [Node.fault_eq, search, first, Option.elim_some]

/-- A token is missing behind a statement of Python 2 and before an error. -/
def faultySample : String := "print a\ndef f():\n  g\n  if:\n    h\ni ]\n"

/-- Statements of Python 2 at several depths. -/
def legacySample : String := "def g():\n  if a:\n    exec b\n  print c\nprint d\n"

/-- A line end is missing, which is no node. -/
def hiddenSample : String := "x\npass pass\n"

/-- The reports about texts with a fault on line 4, with the first statement of Python 2 on line 3,
and with a fault on line 2 that is not shown. -/
theorem pointed_parse_samples :
    (∃ root n, Node.parse? faultySample.toList = some root ∧ root.Flagged ∧ root.hasFault = true ∧
      root.preorder.find? Node.isFault = some n ∧ root.firstFault? = some n ∧
      parse faultySample = .error ⟨4, .missing "identifier"⟩) ∧
    (∃ root, Node.parse? legacySample.toList = some root ∧ root.hasFault = false ∧
      parse legacySample = .error ⟨3, .legacyStatement⟩) ∧
    ∃ root, Node.parse? hiddenSample.toList = some root ∧ root.hasFault = true ∧
      root.preorder.find? Node.isFault = none ∧ parse hiddenSample = .error ⟨1, .invalid⟩ := by
  have computed :
      (Node.parse? faultySample.toList).map (fun root => (decide root.Flagged, root.hasFault,
        (root.preorder.find? Node.isFault).map Node.report)) =
          some (true, true, some ⟨4, .missing "identifier"⟩) ∧
      (Node.parse? legacySample.toList).map (fun root => (root.hasFault,
        (root.preorder.filter Node.isLegacy).map Node.startLine)) = some (false, [3, 4, 5]) ∧
      (Node.parse? hiddenSample.toList).map (fun root => (root.hasFault,
        (root.preorder.find? Node.isFault).isNone)) = some (true, true) := by decide +kernel
  obtain ⟨faulty, legacy, hidden⟩ := computed
  refine ⟨?_, ?_, ?_⟩
  · obtain ⟨root, found, values⟩ := Option.map_eq_some_iff.1 faulty
    simp only [Prod.mk.injEq, decide_eq_true_eq] at values
    obtain ⟨flagged, hasFault, reported⟩ := values
    obtain ⟨n, first, searched, report⟩ := pointed_parse.1 root flagged hasFault
    obtain ⟨parsed, -⟩ := ((pointed_parse.2 faultySample).1 root found).faulty hasFault
    refine ⟨root, n, found, flagged, hasFault, first, searched, ?_⟩
    rw [first, Option.map_some, Option.some.injEq] at reported
    rw [parsed, report, reported]
  · obtain ⟨root, found, values⟩ := Option.map_eq_some_iff.1 legacy
    simp only [Prod.mk.injEq] at values
    obtain ⟨sound, lines⟩ := values
    have pointed := (pointed_parse.2 legacySample).1 root found
    have line (n : Nat) : (∃ m ∈ root.preorder, m.isLegacy = true ∧ m.startLine = n) ↔
        n ∈ [3, 4, 5] := by
      rw [← lines, List.mem_map]
      simp only [List.mem_filter, and_assoc]
    -- that there is one on line 3 and none before it leaves no other line for the report
    obtain ⟨m, hm, isLegacy, start⟩ := (line 3).2 (by decide)
    obtain ⟨⟨number, fault⟩, parsed⟩ := (pointed.fails_iff sound).2 ⟨m, hm, isLegacy⟩
    obtain ⟨rfl, onLine, least⟩ := pointed.earliest sound _ parsed
    have le : number ≤ 3 := start ▸ least m hm isLegacy
    have listed : number ∈ [3, 4, 5] := (line number).1 onLine
    simp only [List.mem_cons, List.not_mem_nil, or_false] at listed
    obtain rfl : number = 3 := by omega
    exact ⟨root, found, sound, parsed⟩
  · obtain ⟨root, found, values⟩ := Option.map_eq_some_iff.1 hidden
    simp only [Prod.mk.injEq, Option.isNone_iff_eq_none] at values
    obtain ⟨hasFault, none⟩ := values
    obtain ⟨parsed, report, -⟩ := ((pointed_parse.2 hiddenSample).1 root found).faulty hasFault
    rw [report, none] at parsed
    exact ⟨root, found, hasFault, none, parsed⟩

end Module

end CallContext
