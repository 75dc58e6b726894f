import CallContext.Proofs.Syntax.ImportShape

/-!
# Calls, strings, definitions and statements are made as the analysis asks for

The kinds of nodes that the analysis looks into, one by one: what a node of this kind is made of, if
it stands for a subtree that conforms to the grammar.
-/

namespace CallContext

variable {text : List Char}

namespace SymbolSet

theorem named_of_has {s : Symbol} (h : shownNamed.has s = true) : s.named = true :=
  has_of_within (b := some 0x4c00000003dfd7ffffeffc7f0f7dfffffffffefef9d1f730000000000000000000003)
    (by decide) h

theorem shown_of_has {s : Symbol} (h : shownNamed.has s = true) : s.shown = true :=
  has_of_within (b := shown) (by decide) h

/-- What a block starts with is named, or a hidden list of statements. -/
theorem cases_of_statements {s : Symbol} (h : statements.has s = true) :
    shownNamed.has s = true ∨ s = ⟨109⟩ ∨ s = ⟨110⟩ ∨ s = ⟨238⟩ := by
  have split : statements.has s = (shownNamed.has s || (only [109, 110, 238]).has s) :=
    (Nat.testBit_or ..).symm ▸ rfl
  rcases s with ⟨code⟩
  rw [split, has_only] at h
  simpa using h

/-- What an expression statement starts with is shown, or a hidden expression. -/
theorem cases_of_expressions {s : Symbol} (h : expressions.has s = true) :
    s.shown = true ∨ s = ⟨188⟩ := by
  have split : expressions.has s = (shown.has s || (only [188]).has s) :=
    (Nat.testBit_or ..).symm ▸ rfl
  rcases s with ⟨code⟩
  rw [split, has_only] at h
  exact (by simpa using h : shown.has ⟨code⟩ = true ∨ code = 188).imp id (by rintro rfl; rfl)

end SymbolSet

namespace Node

open Subtree SymbolSet

variable {t : Subtree text}

/-! ### The first child -/

/-- A subtree begins with its first child that is no extra. -/
theorem exists_children_eq (h : t.Conforms) {u : Subtree text} {us : List (Subtree text)}
    (children : solid t.children = u :: us) : ∃ rest, t.children = u :: rest := by
  cases t with
  | leaf => cases children
  | missing => cases children
  | node symbol labels extra tally cs =>
    obtain ⟨-, made, -⟩ := h
    cases cs with
    | nil => cases children
    | cons c cs =>
      change solid (c :: cs) = u :: us at children
      rw [solid_cons_of_solid (made.first c rfl).1] at children
      cases children
      exact ⟨cs, rfl⟩

/-- Where there is one child that is no extra, there are no extras. -/
theorem children_eq_of_solid (h : t.Conforms) {u : Subtree text}
    (children : solid t.children = [u]) : t.children = [u] := by
  cases t with
  | leaf => cases children
  | missing => cases children
  | node symbol labels extra tally cs =>
    obtain ⟨-, made, -⟩ := h
    cases cs with
    | nil => cases children
    | cons c cs =>
      change solid (c :: cs) = [u] at children
      rw [solid_cons_of_solid (made.first c rfl).1] at children
      obtain ⟨rfl, none⟩ := List.cons.inj children
      rcases List.eq_nil_or_concat cs with rfl | ⟨before, last, rfl⟩
      · rfl
      · -- the last child would be a second one that is no extra
        rw [List.concat_eq_append] at made none
        have other := (made.last last (by rw [← List.cons_append, List.getLast?_concat]; rfl)).1
        rw [solid_append, solid_cons_of_solid other] at none
        simp at none

/-- What stands for a hidden subtree begins with what stands for its first child. -/
theorem ofSubtree_of_hidden (h : t.Conforms) (hidden : t.symbol.shown = false)
    {u : Subtree text} {us : List (Subtree text)} (children : solid t.children = u :: us)
    (field : Option Field) :
    ∃ rest, ofSubtree none field t [] =
      ofSubtree (t.labels.kindAt 0) (t.labels.fieldAt 0 <|> field) u [] ++ rest := by
  obtain ⟨rest, whole⟩ := exists_children_eq h children
  have solid : u.isExtra = false := (h.proper u (by simp [children])).solid
  rw [ofSubtree_eq, if_neg (by simp [hidden]), whole, ofSubtrees, if_neg (by simp [solid]),
    ofSubtree_append]
  exact ⟨_, rfl⟩

/-! ### Primary expressions, calls and attributes -/

/-- A primary expression is displayed as its only child. -/
theorem ofSubtree_primary (h : t.Proper) (symbol : t.symbol = ⟨189⟩) (field : Option Field) :
    ∃ kind u, u.Proper ∧ Displayable kind u ∧
      ofSubtree none field t [] = [display kind field u] := by
  obtain ⟨r, result, labels, -, suits⟩ := h.conforms.sides (by rw [symbol]; decide)
  rw [symbol] at result
  obtain ⟨side, member, suits⟩ := suits
    (if r.labels.fields.isEmpty then [[if (r.labels.kindAt 0).isSome then none else shown]] else [])
    (by simp [Reduction.sides, result])
  split at member
  · next bare =>
    obtain rfl := List.mem_singleton.1 member
    obtain ⟨u, children, hu, isShown⟩ := suits_one suits
    rw [labels] at bare isShown
    have displayable : Displayable (t.labels.kindAt 0) u :=
      h.conforms.displayable (by rw [children]; rfl)
    have displayed : ((t.labels.kindAt 0).isSome || u.symbol.shown) = true := by
      cases hk : t.labels.kindAt 0 with
      | some => rfl
      | none =>
        rw [hk] at isShown
        exact isShown
    have noField : t.labels.fieldAt 0 = none := by
      rw [Labels.fieldAt, List.isEmpty_iff.1 bare]
      rfl
    refine ⟨t.labels.kindAt 0, u, hu, displayable, ?_⟩
    rw [ofSubtree_eq, if_neg (by rw [symbol]; decide), children_eq_of_solid h.conforms children,
      ofSubtrees, if_neg (by simp [hu.solid]), noField, ofSubtree_eq, if_pos displayed]
    rfl
  · exact absurd member List.not_mem_nil

theorem primary_pieces (h : t.Proper) (symbol : t.symbol = ⟨189⟩) (field : Option Field) :
    ∃ n, pieces none field t = [n] ∧ n.field = field := by
  obtain ⟨kind, u, hu, displayable, nodes⟩ := ofSubtree_primary h symbol field
  refine ⟨display kind field u, ?_, field_display ..⟩
  rw [pieces, nodes, List.filter_cons_of_pos (by simp [isExtra_display hu displayable field])]
  rfl

theorem callee_display (h : t.Conforms) (symbol : t.symbol = Symbol.call) (field : Option Field) :
    ((display none field t).child? .callee).isSome = true := by
  obtain ⟨labels, -, side, member, suits⟩ := h.suits symbol (by decide) 42
    (fun _ => [[only [189], none]]) fun r hr => by simp [Reduction.sides, hr]
  obtain rfl := List.mem_singleton.1 member
  obtain ⟨callee, _, children, hc, isCallee, -⟩ := suits_cons suits
  obtain ⟨n, piece, isField⟩ := primary_pieces hc (eq_of_has_only isCallee) (some .callee)
  rw [child?_eq (hasPlainExtras_display h none field), parts_display_of_conforms h, labels,
    children, piecesAll_cons hc.solid]
  change ((pieces none (some .callee) callee ++ _).find? _).isSome = true
  rw [piece]
  simp [isField]

theorem attribute_display (h : t.Conforms) (symbol : t.symbol = Symbol.attributeAccess)
    (field : Option Field) :
    ((display none field t).child? .attribute).any (fun last =>
      last.kind = Symbol.identifier && last.stop.offset = (display none field t).stop.offset) =
        true := by
  obtain ⟨labels, -, side, member, suits⟩ := h.suits symbol (by decide) 7
    (fun _ => [[only [189], only [4], only [1]]]) fun r hr => by simp [Reduction.sides, hr]
  obtain rfl := List.mem_singleton.1 member
  obtain ⟨object, dot, last, children, ⟨ho, isObject⟩, ⟨hd, isDot⟩, hl, isLast⟩ :=
    suits_three suits
  have isDot := eq_of_has_only isDot
  have kind : last.symbol = Symbol.identifier := eq_of_has_only isLast
  obtain ⟨n, piece, isField⟩ := primary_pieces ho (eq_of_has_only isObject) none
  have parts : (display none field t).parts =
      [n, display none none dot, display none (some .attribute) last] := by
    rw [parts_display_of_conforms h, labels, children, piecesAll_cons ho.solid,
      piecesAll_cons_of_shown hd (by rw [isDot]; decide) rfl,
      piecesAll_cons_of_shown hl (by rw [kind]; decide) rfl]
    change pieces none none object ++ _ = _
    rw [piece]
    rfl
  have stop : t.stop = last.stop := h.stop_eq (by rw [children]; rfl)
  rw [child?_eq (hasPlainExtras_display h none field), parts]
  simp [isField, kind, stop]

/-! ### String literals -/

theorem opens_display (h : t.Proper) (symbol : t.symbol = Symbol.stringStart) :
    StringLiteral.opens (display none none t).source = true := by
  rw [source_display]
  obtain ⟨token, extra, rfl, spelled⟩ := h.conforms.leaf_of_terminal (by rw [symbol]; decide)
  exact spelled.opens symbol

theorem closes_display (h : t.Proper) (symbol : t.symbol = Symbol.stringEnd) :
    StringLiteral.closes (display none none t).source = true := by
  rw [source_display]
  obtain ⟨token, extra, rfl, spelled⟩ := h.conforms.leaf_of_terminal (by rw [symbol]; decide)
  exact spelled.closes symbol

theorem literal_display (h : t.Conforms) (symbol : t.symbol = Symbol.string)
    (field : Option Field) : (display none field t).isLiteral = true := by
  obtain ⟨labels, -, side, member, suits⟩ := h.suits symbol (by decide) 0
    (fun _ => [[only [104], only [107]], [only [104], none, only [107]]])
    fun r hr => by simp [Reduction.sides, hr]
  have parts := parts_display_of_conforms h none field
  rw [labels] at parts
  -- whatever stands between them, the first part is the start, and the last is the end
  obtain ⟨first, last, inner, whole, hf, isFirst, hl, isLast, start, stop⟩ :
      ∃ first last inner, (display none field t).parts =
          display none none first :: (inner ++ [display none none last]) ∧
        first.Proper ∧ first.symbol = Symbol.stringStart ∧
        last.Proper ∧ last.symbol = Symbol.stringEnd ∧
        t.start = first.start ∧ t.stop = last.stop := by
    simp only [List.mem_cons, List.not_mem_nil, or_false] at member
    rcases member with rfl | rfl
    · obtain ⟨first, last, children, ⟨hf, isFirst⟩, hl, isLast⟩ := suits_two suits
      have isFirst := eq_of_has_only isFirst
      have isLast := eq_of_has_only isLast
      refine ⟨first, last, [], ?_, hf, isFirst, hl, isLast, h.start_eq (by rw [children]; rfl),
        h.stop_eq (by rw [children]; rfl)⟩
      rw [parts, children, piecesAll_cons_of_shown hf (by rw [isFirst]; decide) rfl,
        piecesAll_cons_of_shown hl (by rw [isLast]; decide) rfl]
      rfl
    · obtain ⟨first, middle, last, children, ⟨hf, isFirst⟩, ⟨hm, -⟩, hl, isLast⟩ :=
        suits_three suits
      have isFirst := eq_of_has_only isFirst
      have isLast := eq_of_has_only isLast
      refine ⟨first, last, pieces none none middle, ?_, hf, isFirst, hl, isLast,
        h.start_eq (by rw [children]; rfl), h.stop_eq (by rw [children]; rfl)⟩
      rw [parts, children, piecesAll_cons_of_shown hf (by rw [isFirst]; decide) rfl,
        piecesAll_cons hm.solid, piecesAll_cons_of_shown hl (by rw [isLast]; decide) rfl]
      rfl
  have filled : (display none field t).isFilled = true := by
    refine isFilled_of_spans ⟨?_, ?_⟩
    · exact ⟨_, by rw [whole]; rfl, by rw [start_display, start]⟩
    · exact ⟨_, by rw [whole, ← List.cons_append, List.getLast?_concat]; rfl,
        by rw [stop_display, stop]⟩
  rw [isLiteral, filled, whole]
  simp [opens_display hf isFirst, closes_display hl isLast]

/-! ### Definitions -/

/-- A child of a definition is displayed as one node, or it is the indentation before the body.
Its name is an identifier, and its body is a block. -/
theorem ofSubtree_of_definitionSide {r : Reduction} (labels : r.labels = t.labels)
    (suits : Suits r.definitionSide (solid t.children)) {i : Nat} {u : Subtree text}
    (hu : (solid t.children)[i]? = some u) :
    ofSubtree (t.labels.kindAt i) (t.labels.fieldAt i <|> none) u [] =
        [display (t.labels.kindAt i) (t.labels.fieldAt i) u] ∧
      (t.labels.fieldAt i = some .name → Identifier.isWord (u.start.between u.stop) = true) ∧
      (t.labels.fieldAt i = some .body → t.labels.kindAt i = none → u.symbol = Symbol.block) ∨
    ofSubtree (t.labels.kindAt i) (t.labels.fieldAt i <|> none) u [] = [] ∧
      t.labels.fieldAt i = some .body ∧ t.labels.fieldAt (i + 1) = some .body := by
  obtain ⟨set, hs, proper, has⟩ := suits.of_getElem? hu
  have inside : i < r.arity := by
    have := (List.getElem?_eq_some_iff.1 hs).1
    simpa [Reduction.definitionSide] using this
  simp only [Reduction.definitionSide, List.getElem?_map, List.getElem?_range inside,
    Option.map_some, Option.some.injEq, labels] at hs
  have field : (t.labels.fieldAt i <|> none) = t.labels.fieldAt i := by
    cases t.labels.fieldAt i <;> rfl
  have displayed (shown : ((t.labels.kindAt i).isSome || u.symbol.shown) = true) :
      ofSubtree (t.labels.kindAt i) (t.labels.fieldAt i <|> none) u [] =
        [display (t.labels.kindAt i) (t.labels.fieldAt i) u] := by
    rw [field, ofSubtree_eq, if_pos shown]
  -- the set at the position, one case for each way in which `definitionSide` chooses it
  split at hs
  · next isName =>
    have symbol : u.symbol = Symbol.identifier := eq_of_has_only (hs ▸ has)
    refine .inl ⟨displayed (by rw [symbol, Bool.or_eq_true]; exact .inr (by decide)), fun _ => ?_,
      fun isBody => by rw [isName] at isBody; cases isBody⟩
    obtain ⟨token, extra, rfl, spelled⟩ :=
      proper.conforms.leaf_of_terminal (by rw [symbol]; decide)
    exact spelled.word (.inl symbol)
  · next noName =>
    split at hs
    · next some =>
      exact .inl ⟨displayed (by rw [some]; rfl), fun isName => absurd isName noName,
        fun _ none => by rw [none] at some; cases some⟩
    · next noKind =>
      have none : t.labels.kindAt i = none := by simpa using noKind
      split at hs
      · next isBody =>
        split at hs
        · next again =>
          have symbol : u.symbol = Symbol.indent := eq_of_has_only (hs ▸ has)
          refine .inr ⟨?_, isBody, again⟩
          rw [none, ofSubtree_eq, if_neg (by rw [symbol]; decide),
            proper.conforms.children_of_terminal (by rw [symbol]; decide)]
          rfl
        · have symbol : u.symbol = Symbol.block := eq_of_has_only (hs ▸ has)
          exact .inl ⟨displayed (by rw [symbol, Bool.or_eq_true]; exact .inr (by decide)),
            fun isName => absurd isName noName, fun _ _ => symbol⟩
      · next noBody =>
        have shown : u.symbol.shown = true := by
          rw [← hs] at has
          exact has
        exact .inl ⟨displayed (by simp [shown]), fun isName => absurd isName noName,
          fun isBody => absurd isBody noBody⟩

/-- What holds of all children with a field holds of the first, if there is one. -/
theorem any_child? {n : Node text} {field : Field} {p : Node text → Bool}
    (all : ∀ child ∈ n.children, child.field = some field → p child = true)
    (some : ∃ child ∈ n.children, child.field = some field) :
    (n.child? field).any p = true := by
  obtain ⟨child, member, plays⟩ := some
  cases found : n.child? field with
  | none => exact absurd plays (by simpa using List.find?_eq_none.1 found child member)
  | some first =>
    exact all first (List.mem_of_find?_eq_some found) (by simpa using List.find?_some found)

/-- Only blocks are given as bodies. -/
theorem kindAt_of_body (r : Reduction) {i : Nat} (h : r.labels.fieldAt i = some .body) {k : Symbol}
    (hk : r.labels.kindAt i = some k) : k = Symbol.block := by
  have all := Reduction.labels_of_table (p := fun labels => labels.fields.all fun f =>
    f.2 ≠ .body || (labels.kindAt f.1).all (· = Symbol.block)) rfl (by decide) r
  obtain ⟨front, back, split, -⟩ := List.lookup_eq_some_iff.1 h
  have known := List.all_eq_true.1 all (i, .body) (by simp [split])
  simpa [hk] using known

/-- Some child of a definition plays the name, and some child the body. -/
theorem exists_child_of_definitionSide {r : Reduction} (labels : r.labels = t.labels)
    (labelled : r.labelsDefinition = true) (suits : Suits r.definitionSide (solid t.children))
    (field : Option Field) {f : Field} (hf : f ∈ [Field.name, Field.body]) :
    ∃ n ∈ (display none field t).children, n.field = some f := by
  -- the last position of the field is displayed: only an indentation is not, and another position
  -- of the body follows that
  have position := List.all_eq_true.1 labelled f hf
  rw [List.any_eq_true] at position
  obtain ⟨i, hi, last⟩ := position
  rw [Bool.and_eq_true, decide_eq_true_eq, decide_eq_true_eq, labels] at last
  have length : (solid t.children).length = r.arity := by
    rw [← suits.length_eq, Reduction.definitionSide, List.length_map, List.length_range]
  have inside : i < (solid t.children).length := length ▸ List.mem_range.1 hi
  have found := List.getElem?_eq_getElem inside
  rcases ofSubtree_of_definitionSide labels suits found with ⟨nodes, -⟩ | ⟨-, body, again⟩
  · refine ⟨display (t.labels.kindAt i) (t.labels.fieldAt i) (solid t.children)[i], ?_, ?_⟩
    · rw [children_display]
      refine mem_ofSubtrees found ?_
      rw [Nat.zero_add, nodes]
      exact List.mem_singleton_self _
    · rw [field_display, last.1]
  · rw [body] at last
    exact absurd (last.1 ▸ again) last.2

/-- What plays the name of a definition is a word, and what plays its body is a block, unless the
labels give it another kind. -/
theorem cases_child_of_definitionSide (h : t.Conforms) {r : Reduction}
    (labels : r.labels = t.labels) (suits : Suits r.definitionSide (solid t.children))
    (field : Option Field) :
    ∀ n ∈ (display none field t).children, n.field = none ∨
      ∃ i u, n = display (t.labels.kindAt i) (t.labels.fieldAt i) u ∧
        (t.labels.fieldAt i = some .name → Identifier.isWord (u.start.between u.stop) = true) ∧
        (t.labels.fieldAt i = some .body → t.labels.kindAt i = none →
          u.symbol = Symbol.block) := by
  rw [children_display]
  refine forall_mem_ofSubtrees (fun u hu extra n hn => ?_) fun i u hu n hn => ?_
  · exact .inl (isExtra_of_mem (h.children u hu) extra n hn).2
  · rw [Nat.zero_add] at hn
    rcases ofSubtree_of_definitionSide labels suits hu with ⟨nodes, facts⟩ | ⟨nodes, -⟩
    · rw [nodes] at hn
      exact .inr ⟨i, u, List.mem_singleton.1 hn, facts⟩
    · rw [nodes] at hn
      exact absurd hn List.not_mem_nil

/-- A definition has a name, which is a word, and a body, which is a block. -/
theorem definition_display (h : t.Conforms)
    (symbol : t.symbol = Symbol.functionDefinition ∨ t.symbol = Symbol.classDefinition)
    (field : Option Field) :
    ((display none field t).child? .name).any (fun name => Identifier.isWord name.source) = true ∧
      ((display none field t).child? .body).any (fun body => body.kind = Symbol.block) = true := by
  obtain ⟨r, result, labels, -, suits⟩ :=
    h.sides (by rcases symbol with s | s <;> rw [s] <;> decide)
  obtain ⟨side, member, suits⟩ := suits (if r.labelsDefinition then [r.definitionSide] else []) (by
    rcases symbol with s | s <;> rw [s] at result <;>
      simp [Reduction.sides, result, Symbol.functionDefinition, Symbol.classDefinition])
  split at member
  · next labelled =>
    obtain rfl := List.mem_singleton.1 member
    have cases_child := cases_child_of_definitionSide h labels suits field
    constructor
    · refine any_child? (fun n hn plays => ?_)
        (exists_child_of_definitionSide labels labelled suits field (by simp))
      rcases cases_child n hn with bare | ⟨i, u, rfl, isWord, -⟩
      · rw [bare] at plays
        cases plays
      · rw [field_display] at plays
        rw [source_display]
        exact isWord plays
    · refine any_child? (fun n hn plays => ?_)
        (exists_child_of_definitionSide labels labelled suits field (by simp))
      rcases cases_child n hn with bare | ⟨i, u, rfl, -, isBlock⟩
      · rw [bare] at plays
        cases plays
      · rw [field_display] at plays
        rw [decide_eq_true_eq, kind_display]
        cases kind : t.labels.kindAt i with
        | none => exact isBlock plays kind
        | some k =>
          rw [← labels] at plays kind
          exact kindAt_of_body r plays kind
  · exact absurd member List.not_mem_nil

/-- Decorators play no field. -/
theorem decorators_pieces : ∀ {t : Subtree text}, t.Proper → t.symbol = ⟨160⟩ ∨ t.symbol = ⟨254⟩ →
    ∀ n ∈ pieces none none t, n.field = none := by
  refine @induct _ _ fun t ih h symbol => ?_
  rcases symbol with symbol | symbol
  · rw [pieces_of_symbol h symbol (by decide)]
    simp
  · obtain ⟨labels, -, side, member, suits⟩ := h.conforms.suits symbol (by decide) 0
      (fun _ => [[only [160, 254], only [160, 254]]]) fun r hr => by simp [Reduction.sides, hr]
    obtain rfl := List.mem_singleton.1 member
    obtain ⟨front, back, children, ⟨hf, isFront⟩, hb, isBack⟩ := suits_two suits
    rw [pieces_of_pair h.conforms (by rw [symbol]; decide) labels hf hb children,
      List.forall_mem_append]
    exact ⟨ih front (mem_of_mem_solid (by simp [children])).1 hf (eq_or_of_has_only isFront),
      ih back (mem_of_mem_solid (by simp [children])).1 hb (eq_or_of_has_only isBack)⟩

/-- Decorators stand before a function or a class. -/
theorem decorated_display (h : t.Conforms) (symbol : t.symbol = Symbol.decoratedDefinition)
    (field : Option Field) :
    ((display none field t).child? .definition).any (fun d =>
      d.kind = Symbol.functionDefinition || d.kind = Symbol.classDefinition) = true := by
  obtain ⟨labels, -, side, member, suits⟩ := h.suits symbol (by decide) 16
    (fun _ => [[only [160, 254], only [146, 155]]]) fun r hr => by simp [Reduction.sides, hr]
  obtain rfl := List.mem_singleton.1 member
  obtain ⟨decorators, definition, children, ⟨hd, isDecorators⟩, hf, isDefinition⟩ :=
    suits_two suits
  have kind := eq_or_of_has_only isDefinition
  have parts : (display none field t).parts =
      pieces none none decorators ++ [display none (some .definition) definition] := by
    rw [parts_display_of_conforms h, labels, children, piecesAll_cons hd.solid,
      piecesAll_cons_of_shown hf (by rcases kind with kind | kind <;> rw [kind] <;> decide) rfl]
    rfl
  have bare : (pieces none none decorators).find? (·.field = some .definition) = none := by
    refine List.find?_eq_none.2 fun n hn => ?_
    simp [decorators_pieces hd (eq_or_of_has_only isDecorators) n hn]
  rw [child?_eq (hasPlainExtras_display h none field), parts, List.find?_append, bare,
    Option.none_or]
  rcases kind with kind | kind <;> simp [kind, Symbol.functionDefinition, Symbol.classDefinition]

/-! ### Blocks and statements -/

/-- A block starts with a statement that has a name. -/
theorem named_of_statements : ∀ {t : Subtree text}, t.Proper → statements.has t.symbol = true →
    ∀ field, ∃ n rest, ofSubtree none field t [] = n :: rest ∧ n.kind.named = true ∧
      n.isExtra = false := by
  refine @induct _ _ fun t ih h has field => ?_
  -- a hidden list starts with what its first child starts with
  have first {u : Subtree text} {us : List (Subtree text)} (hu : u.Proper)
      (children : solid t.children = u :: us) (labels : t.labels = Labels.none)
      (hidden : t.symbol.shown = false) (has : statements.has u.symbol = true) :
      ∃ n rest, ofSubtree none field t [] = n :: rest ∧ n.kind.named = true ∧
        n.isExtra = false := by
    obtain ⟨rest, nodes⟩ := ofSubtree_of_hidden h.conforms hidden children field
    rw [labels] at nodes
    obtain ⟨n, more, leading, named, solid⟩ :=
      ih u (mem_of_mem_solid (by simp [children])).1 hu has field
    refine ⟨n, more ++ rest, ?_, named, solid⟩
    rw [nodes, ← List.cons_append, ← leading]
    rfl
  rcases cases_of_statements has with named | symbol | symbol | symbol
  · refine ⟨display none field t, [], ?_, ?_, isExtra_display h (displayable_none t) field⟩
    · rw [ofSubtree_eq, if_pos (by simp [shown_of_has named])]
    · rw [kind_display]
      exact named_of_has named
  · -- no reduction of this symbol is possible
    obtain ⟨r, result, -, -, suits⟩ := h.conforms.sides (by rw [symbol]; decide)
    rw [symbol] at result
    obtain ⟨side, member, -⟩ := suits [] (by simp [Reduction.sides, result])
    exact absurd member List.not_mem_nil
  · obtain ⟨labels, r, side, member, suits⟩ := h.conforms.suits symbol (by decide) 0
      (fun r => [shownNamed :: List.replicate (r.arity - 1) none])
      fun r hr => by simp [Reduction.sides, hr]
    obtain rfl := List.mem_singleton.1 member
    obtain ⟨u, _, children, hu, named, -⟩ := suits_cons suits
    exact first hu children labels (by rw [symbol]; decide)
      (has_of_within (by decide : shownNamed.within statements = true) named)
  · obtain ⟨labels, -, side, member, suits⟩ := h.conforms.suits symbol (by decide) 0
      (fun _ => [[statements, none]]) fun r hr => by simp [Reduction.sides, hr]
    obtain rfl := List.mem_singleton.1 member
    obtain ⟨u, _, children, hu, has, -⟩ := suits_cons suits
    exact first hu children labels (by rw [symbol]; decide) has

/-- Nothing that may stand anywhere is the first thing in a block. -/
theorem block_display (h : t.Conforms) {kind : Option Symbol}
    (symbol : t.symbol = Symbol.block ∨ suite.has t.symbol = true) (field : Option Field) :
    ((display kind field t).namedChildren.head?.all fun first => !first.isExtra) = true := by
  -- in front of the first child stands nothing, as extras follow what they stand behind
  have leading {u : Subtree text} {us : List (Subtree text)} (hu : u.Proper)
      (children : solid t.children = u :: us) (labels : t.labels = Labels.none)
      (has : statements.has u.symbol = true) :
      ((display kind field t).namedChildren.head?.all fun first => !first.isExtra) = true := by
    obtain ⟨rest, whole⟩ := exists_children_eq h children
    obtain ⟨n, more, nodes, named, solid⟩ := named_of_statements hu has none
    rw [namedChildren, children_display, whole, labels, ofSubtrees, if_neg (by simp [hu.solid]),
      ofSubtree_append]
    change ((List.filter _ (ofSubtree none none u [] ++ _)).head?.all _) = true
    rw [nodes, List.cons_append, List.filter_cons_of_pos (by simpa using named)]
    simp [solid]
  rcases symbol with symbol | has
  · obtain ⟨labels, -, side, member, suits⟩ := h.suits symbol (by decide) 0
      (fun _ => [[only [103]], [statements, none]]) fun r hr => by simp [Reduction.sides, hr]
    simp only [List.mem_cons, List.not_mem_nil, or_false] at member
    rcases member with rfl | rfl
    · -- an empty block ends at once
      obtain ⟨u, children, hu, isDedent⟩ := suits_one suits
      have symbol := eq_of_has_only isDedent
      have none : (display kind field t).children = [] := by
        rw [children_display, children_eq_of_solid h children, labels, ofSubtrees,
          if_neg (by simp [hu.solid])]
        change ofSubtree none none u [] = []
        rw [ofSubtree_eq, if_neg (by rw [symbol]; decide),
          hu.conforms.children_of_terminal (by rw [symbol]; decide)]
        rfl
      rw [namedChildren, none]
      rfl
    · obtain ⟨u, _, children, hu, has, -⟩ := suits_cons suits
      exact leading hu children labels has
  · rcases eq_or_of_has_only has with symbol | symbol
    · rw [namedChildren, children_display_of_terminal h (by rw [symbol]; decide)]
      rfl
    · obtain ⟨labels, r, side, member, suits⟩ := h.suits symbol (by decide) 0
        (fun r => [shownNamed :: List.replicate (r.arity - 1) none])
        fun r hr => by simp [Reduction.sides, hr]
      obtain rfl := List.mem_singleton.1 member
      obtain ⟨u, _, children, hu, named, -⟩ := suits_cons suits
      exact leading hu children labels
        (has_of_within (by decide : shownNamed.within statements = true) named)

/-- An expression starts with what is no extra. -/
theorem solid_of_expressions (h : t.Proper) (has : expressions.has t.symbol = true)
    (field : Option Field) :
    ∃ n rest, ofSubtree none field t [] = n :: rest ∧ n.isExtra = false := by
  have shown {u : Subtree text} (hu : u.Proper) (isShown : u.symbol.shown = true) :
      ∃ n rest, ofSubtree none field u [] = n :: rest ∧ n.isExtra = false := by
    refine ⟨display none field u, [], ?_, isExtra_display hu (displayable_none u) field⟩
    rw [ofSubtree_eq, if_pos (by simp [isShown])]
  rcases cases_of_expressions has with isShown | symbol
  · exact shown h isShown
  · obtain ⟨labels, -, side, member, suits⟩ := h.conforms.suits symbol (by decide) 0
      (fun _ => [[only [189]], [SymbolSet.shown]]) fun r hr => by simp [Reduction.sides, hr]
    obtain ⟨u, us, children, hu, leading⟩ : ∃ u us, solid t.children = u :: us ∧ u.Proper ∧
        ∃ n rest, ofSubtree none field u [] = n :: rest ∧ n.isExtra = false := by
      simp only [List.mem_cons, List.not_mem_nil, or_false] at member
      rcases member with rfl | rfl
      · obtain ⟨u, us, children, hu, isPrimary, -⟩ := suits_cons suits
        obtain ⟨kind, v, hv, displayable, nodes⟩ :=
          ofSubtree_primary hu (eq_of_has_only isPrimary) field
        exact ⟨u, us, children, hu, _, [], nodes, isExtra_display hv displayable field⟩
      · obtain ⟨u, us, children, hu, isShown, -⟩ := suits_cons suits
        exact ⟨u, us, children, hu, shown hu isShown⟩
    obtain ⟨rest, nodes⟩ := ofSubtree_of_hidden h.conforms (by rw [symbol]; decide) children field
    obtain ⟨n, more, leading, solid⟩ := leading
    rw [labels] at nodes
    refine ⟨n, more ++ rest, ?_, solid⟩
    rw [nodes, ← List.cons_append, ← leading]
    rfl

theorem expressionStatement_display (h : t.Conforms)
    (symbol : t.symbol = Symbol.expressionStatement) (field : Option Field) :
    ((display none field t).children.head?.any fun first => !first.isExtra) = true := by
  obtain ⟨labels, r, side, member, suits⟩ := h.suits symbol (by decide) 0
    (fun r => [expressions :: List.replicate (r.arity - 1) none])
    fun r hr => by simp [Reduction.sides, hr]
  obtain rfl := List.mem_singleton.1 member
  obtain ⟨u, us, children, hu, has, -⟩ := suits_cons suits
  obtain ⟨rest, whole⟩ := exists_children_eq h children
  obtain ⟨n, more, nodes, solid⟩ := solid_of_expressions hu has none
  rw [children_display, whole, labels, ofSubtrees, if_neg (by simp [hu.solid]), ofSubtree_append]
  change ((ofSubtree none none u [] ++ _).head?.any _) = true
  rw [nodes]
  simp [solid]

end Node

end CallContext
