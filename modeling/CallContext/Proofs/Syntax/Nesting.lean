import CallContext.Proofs.Parsing.Run
import CallContext.Syntax.Module

/-!
# Syntax trees are nested

The nodes of a syntax tree lie inside each other like the subtrees that they come from: leaving out
what is hidden keeps the order (`Node.between_ofSubtree`), so in the syntax tree of any text the
children of a node follow each other inside the node (`Node.nested_of_parse?`).
-/

namespace CallContext

namespace Node

variable {text : List Char}

mutual

/-- The children of each node follow each other and lie inside the node. -/
def Nested : Node text → Prop
  | mk _ _ start stop _ _ children => Between start.offset children stop.offset

/-- The nodes follow each other and lie between two offsets. -/
def Between : Nat → List (Node text) → Nat → Prop
  | low, [], high => low ≤ high
  | low, n :: ns, high => low ≤ n.start.offset ∧ n.Nested ∧ Between n.stop.offset ns high

end

theorem Nested.between_children {n : Node text} (h : n.Nested) :
    Between n.start.offset n.children n.stop.offset := by
  cases n
  exact h

mutual

theorem Nested.start_le_stop : ∀ {n : Node text}, n.Nested → n.start.offset ≤ n.stop.offset
  | mk .., h => Between.le h

theorem Between.le : ∀ {low high : Nat} {ns : List (Node text)}, Between low ns high → low ≤ high
  | _, _, [], h => h
  | _, _, _ :: _, ⟨first, nested, rest⟩ =>
    Nat.le_trans first (Nat.le_trans nested.start_le_stop rest.le)

end

theorem Between.mono {low low' high : Nat} {ns : List (Node text)} (h : Between low ns high)
    (hl : low' ≤ low) : Between low' ns high := by
  cases ns with
  | nil => exact Nat.le_trans hl h
  | cons n ns => exact ⟨Nat.le_trans hl h.1, h.2⟩

/-- Each of the nodes is nested and lies between the offsets. -/
theorem Between.of_mem {low high : Nat} {ns : List (Node text)} (h : Between low ns high)
    {n : Node text} (hn : n ∈ ns) :
    low ≤ n.start.offset ∧ n.Nested ∧ n.stop.offset ≤ high := by
  induction ns generalizing low with
  | nil => cases hn
  | cons first rest ih =>
    obtain ⟨start, nested, between⟩ := h
    rcases List.mem_cons.1 hn with rfl | hn
    · exact ⟨start, nested, between.le⟩
    · have ⟨start', inner⟩ := ih between hn
      exact ⟨Nat.le_trans start (Nat.le_trans nested.start_le_stop start'), inner⟩

/-- Each node ends before the next one starts. -/
theorem Between.pairwise {low high : Nat} {ns : List (Node text)} (h : Between low ns high) :
    ns.Pairwise fun m n => m.stop.offset ≤ n.start.offset := by
  induction ns generalizing low with
  | nil => exact .nil
  | cons first rest ih =>
    obtain ⟨_, _, between⟩ := h
    exact .cons (fun n hn => (between.of_mem hn).1) (ih between)

/-! ### Order of nodes -/

mutual

/-- Everything in a nested tree is nested. -/
theorem Nested.of_mem : ∀ {n inner : Node text}, n.Nested → inner ∈ n.preorder → inner.Nested
  | mk .., inner, nested, h => by
    rcases List.mem_cons.1 h with rfl | below
    · exact nested
    · exact Between.nested_of_mem nested below

theorem Between.nested_of_mem : ∀ {ns : List (Node text)} {inner : Node text} {low high : Nat},
    Between low ns high → inner ∈ preorderAll ns → inner.Nested
  | n :: ns, inner, low, high, ⟨_, nested, rest⟩, h => by
    rcases List.mem_append.1 h with first | later
    · exact Nested.of_mem nested first
    · exact Between.nested_of_mem rest later

end

mutual

/-- The nodes of a nested tree lie inside its root, and each is over when a later one starts that is
not inside it. -/
theorem Nested.pairwise_preorder : ∀ {n : Node text}, n.Nested →
    (∀ inner ∈ n.preorder, n.start.offset ≤ inner.start.offset ∧
      inner.stop.offset ≤ n.stop.offset) ∧
    n.preorder.Pairwise fun a b => b ∈ preorderAll a.children ∨ a.stop.offset ≤ b.start.offset
  | mk kind field start stop isMissing hasFault children, nested => by
    obtain ⟨inside, ordered⟩ := Between.pairwise_preorderAll nested
    rw [preorder, List.forall_mem_cons, List.pairwise_cons]
    exact ⟨⟨⟨Nat.le_refl _, Nat.le_refl _⟩, inside⟩, fun inner hi => .inl hi, ordered⟩

theorem Between.pairwise_preorderAll : ∀ {low high : Nat} {ns : List (Node text)},
    Between low ns high →
    (∀ inner ∈ preorderAll ns, low ≤ inner.start.offset ∧ inner.stop.offset ≤ high) ∧
    (preorderAll ns).Pairwise fun a b =>
      b ∈ preorderAll a.children ∨ a.stop.offset ≤ b.start.offset
  | _, _, [], _ => ⟨nofun, .nil⟩
  | low, high, n :: ns, ⟨start, nested, rest⟩ => by
    obtain ⟨inside, ordered⟩ := Nested.pairwise_preorder nested
    obtain ⟨inside', ordered'⟩ := Between.pairwise_preorderAll rest
    have le := nested.start_le_stop
    have le' := rest.le
    rw [preorderAll, List.forall_mem_append, List.pairwise_append]
    refine ⟨⟨fun inner hi => ?_, fun inner hi => ?_⟩, ordered, ordered', fun a ha b hb => .inr ?_⟩
    · have := inside inner hi
      omega
    · have := inside' inner hi
      omega
    · exact Nat.le_trans (inside a ha).2 (inside' b hb).1

end

/-- No node of a nested tree starts before an earlier one. -/
theorem Nested.pairwise_start {n : Node text} (h : n.Nested) :
    n.preorder.Pairwise fun a b => a.start.offset ≤ b.start.offset := by
  refine h.pairwise_preorder.2.imp_of_mem fun {a b} ha _ order => ?_
  have nested := h.of_mem ha
  rcases order with below | apart
  · exact (Between.pairwise_preorderAll nested.between_children).1 b below |>.1
  · exact Nat.le_trans nested.start_le_stop apart

/-! ### Nodes of subtrees -/

mutual

/-- The nodes of a subtree in order stand before those that follow it. -/
theorem between_ofSubtree : ∀ {t : Subtree text} {kind : Option Symbol} {field : Option Field}
    {after : List (Node text)} {low high : Nat}, t.Ordered → low ≤ t.start.offset →
      Between t.stop.offset after high → Between low (ofSubtree kind field t after) high
  | .leaf token extra, kind, field, after, low, high, ordered, start, rest => by
    unfold ofSubtree
    split
    · exact rest.mono (Nat.le_trans start ordered)
    · exact ⟨start, ordered, rest⟩
  | .missing symbol place, kind, field, after, low, high, _, start, rest => by
    unfold ofSubtree
    split
    · exact rest.mono start
    · exact ⟨start, Nat.le_refl _, rest⟩
  | .node symbol labels extra tally children, kind, field, after, low, high, ordered, start,
      rest => by
    unfold ofSubtree
    split
    · exact (between_ofSubtrees ordered rest).mono start
    · exact ⟨start, between_ofSubtrees ordered (Nat.le_refl _), rest⟩

theorem between_ofSubtrees : ∀ {ts : List (Subtree text)} {labels : Labels}
    {field : Option Field} {position : Nat} {after : List (Node text)} {low mid high : Nat},
      Subtree.InOrder low ts mid → Between mid after high →
        Between low (ofSubtrees labels field position ts after) high
  | [], _, _, _, _, _, _, _, inOrder, rest => rest.mono inOrder
  | t :: ts, labels, field, position, after, low, mid, high, ⟨start, ordered, inOrder⟩, rest => by
    unfold ofSubtrees
    split
    · exact between_ofSubtree ordered start (between_ofSubtrees inOrder rest)
    · exact between_ofSubtree ordered start (between_ofSubtrees inOrder rest)

end

/-- The syntax tree of any text is nested. -/
theorem nested_of_parse? {root : Node text} (h : parse? text = some root) : root.Nested := by
  obtain ⟨t, parsed, head⟩ := Option.bind_eq_some_iff.1 h
  have ordered := Machine.ordered_of_parse? parsed
  have between : Between t.start.offset (ofSubtree none none t []) t.stop.offset :=
    between_ofSubtree ordered (Nat.le_refl _) (Nat.le_refl _)
  exact (between.of_mem (List.mem_of_head? head)).2.1

end Node

theorem ok_of_toOption {ε α : Type} {x : Except ε α} {a : α} (h : x.toOption = some a) :
    x = .ok a := by
  cases x with
  | ok b => exact congrArg _ (Option.some.inj h)
  | error e => cases h

namespace Module

theorem parse_eq_ok {source : String} {m : Module} (h : parse source = .ok m) :
    ∃ root found sound modern, m = ⟨source.toList, root, found, sound, modern⟩ := by
  unfold parse at h
  split at h
  · cases h
  · split at h
    · cases h
    · split at h
      · cases h
      · cases h
        exact ⟨_, _, _, _, rfl⟩

/-- A text is a module exactly if it has a syntax tree without faults and without statements that
only Python 2 knows. -/
theorem exists_parse_iff {source : String} : (∃ m, parse source = .ok m) ↔
    ∃ root, Node.parse? source.toList = some root ∧ root.hasFault = false ∧
      root.firstLegacy? = none := by
  constructor
  · rintro ⟨m, parsed⟩
    obtain ⟨root, found, sound, modern, -⟩ := parse_eq_ok parsed
    exact ⟨root, found, sound, modern⟩
  · rintro ⟨root, found, sound, modern⟩
    unfold parse
    split
    · next none =>
      rw [found] at none
      cases none
    · next root' found' =>
      obtain rfl := Option.some.inj (found.symm.trans found')
      rw [dif_neg (by simp [sound])]
      split
      · next n legacy =>
        rw [modern] at legacy
        cases legacy
      · exact ⟨_, rfl⟩

/-- Why a text is no module. -/
theorem parse_eq_error_iff {source : String} {e : SyntaxError} : parse source = .error e ↔
    Node.parse? source.toList = none ∧ e = ⟨1, .noTree⟩ ∨
    ∃ root, Node.parse? source.toList = some root ∧
      (root.hasFault = true ∧ e = root.fault ∨
        root.hasFault = false ∧
          ∃ n, root.firstLegacy? = some n ∧ e = ⟨n.startLine, .legacyStatement⟩) := by
  have flip {a : SyntaxError} : (.error a : Except SyntaxError Module) = .error e ↔ e = a := by
    rw [Except.error.injEq, eq_comm]
  unfold parse
  split
  · next none =>
    rw [flip]
    simp [none]
  · next root found =>
    simp only [found, reduceCtorEq, false_and, false_or, Option.some.injEq, exists_eq_left']
    split
    · next faulty =>
      rw [flip]
      simp [faulty]
    · next sound =>
      split
      · next n legacy =>
        rw [flip]
        simp [sound, legacy]
      · next modern => simp [sound, modern]

/-- What is computed from the module of a text shows that there is one. -/
theorem exists_of_map_parse {β : Type} {source : String} {f : Module → β} {b : β}
    (h : (parse source).toOption.map f = some b) : ∃ m, parse source = .ok m ∧ f m = b := by
  obtain ⟨m, parsed, value⟩ := Option.map_eq_some_iff.1 h
  exact ⟨m, ok_of_toOption parsed, value⟩

theorem nested (m : Module) : m.root.Nested := Node.nested_of_parse? m.found

end Module

end CallContext
