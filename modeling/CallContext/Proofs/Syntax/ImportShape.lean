import CallContext.Proofs.Syntax.Display
import CallContext.Proofs.Syntax.Tokens

/-!
# Import statements are built as the grammar says

The parts of a subtree for an import statement are read off the sides of the reductions that made
it and its hidden parts: names with commas between them, identifiers with dots between them, dots
before a name.  The hidden parts repeat themselves, so that each of them is read by an induction
over the subtree.  `Node.isImport_display` is the result.
-/

namespace CallContext

variable {text : List Char}

namespace SymbolSet

theorem eq_of_has_only {code : Nat} {s : Symbol} (h : (only [code]).has s = true) :
    s = ⟨code⟩ := by
  rcases s with ⟨c⟩
  simpa using h

theorem eq_or_of_has_only {a b : Nat} {s : Symbol} (h : (only [a, b]).has s = true) :
    s = ⟨a⟩ ∨ s = ⟨b⟩ := by
  rcases s with ⟨c⟩
  simpa using h

end SymbolSet

namespace Node

open Subtree SymbolSet

variable {t : Subtree text}

/-! ### Tokens -/

theorem children_display_of_terminal (h : t.Conforms)
    (terminal : t.symbol.code < Symbol.terminalCount) (kind : Option Symbol)
    (field : Option Field) : (display kind field t).children = [] := by
  rw [children_display, h.children_of_terminal terminal]
  rfl

theorem source_display (kind : Option Symbol) (field : Option Field) (t : Subtree text) :
    (display kind field t).source = t.start.between t.stop := by
  rw [source, start_display, stop_display]

theorem isToken_display (h : t.Proper) {code : Nat} (symbol : t.symbol = ⟨code⟩)
    (terminal : code < Symbol.terminalCount) : (display none none t).isToken ⟨code⟩ = true :=
  isToken_iff.2 ⟨by simp [symbol],
    children_display_of_terminal h.conforms (by rw [symbol]; exact terminal) none none, by simp⟩

/-- An identifier is a word, and so is a keyword that is displayed as one. -/
theorem isIdentifier_display (h : t.Conforms)
    (word : t.symbol = Symbol.identifier ∨ Lexeme.isKeyword t.symbol = true)
    (terminal : t.symbol.code < Symbol.terminalCount) {kind : Option Symbol}
    (shown : kind.getD t.symbol = Symbol.identifier) (field : Option Field) :
    (display kind field t).isIdentifier = true := by
  refine isIdentifier_iff.2
    ⟨by simp [shown], children_display_of_terminal h terminal kind field, ?_⟩
  rw [source_display]
  obtain ⟨token, extra, rfl, spelled⟩ := h.leaf_of_terminal terminal
  exact spelled.word word

theorem isIdentifier_of_symbol (h : t.Proper) (symbol : t.symbol = Symbol.identifier)
    (field : Option Field) : (display none field t).isIdentifier = true :=
  isIdentifier_display h.conforms (.inl symbol) (by rw [symbol]; decide) (by simp [symbol]) field

theorem isDot_display (h : t.Proper) (symbol : t.symbol = Symbol.dot) :
    (display none none t).isDot = true := by
  obtain ⟨kind, children, field⟩ := isToken_iff.1 (isToken_display h symbol (by decide))
  refine isDot_iff.2 ⟨kind, children, field, ?_⟩
  rw [source_display]
  obtain ⟨token, extra, rfl, spelled⟩ := h.conforms.leaf_of_terminal (by rw [symbol]; decide)
  exact spelled.dot symbol

/-- The one piece of a subtree whose symbol is shown. -/
theorem pieces_of_symbol (h : t.Proper) {s : Symbol} (symbol : t.symbol = s)
    (shown : s.shown = true) (field : Option Field) :
    pieces none field t = [display none field t] :=
  pieces_of_shown h (symbol ▸ shown) field

/-! ### Spans -/

/-- The nodes start and end where the subtree does. -/
structure Spans (t : Subtree text) (ns : List (Node text)) : Prop where
  first : ∃ n ∈ ns.head?, n.start = t.start
  last : ∃ n ∈ ns.getLast?, n.stop = t.stop

theorem spans_display (kind : Option Symbol) (field : Option Field) (t : Subtree text) :
    Spans t [display kind field t] :=
  ⟨⟨_, rfl, start_display ..⟩, ⟨_, rfl, stop_display ..⟩⟩

theorem Spans.one {a : Subtree text} {ns : List (Node text)} (ha : Spans a ns)
    (h : t.Conforms) (children : solid t.children = [a]) : Spans t ns := by
  obtain ⟨first, hf, hs⟩ := ha.first
  obtain ⟨last, hl, he⟩ := ha.last
  refine ⟨⟨first, hf, hs.trans ?_⟩, ⟨last, hl, he.trans ?_⟩⟩
  · exact (h.start_eq (by rw [children]; rfl)).symm
  · exact (h.stop_eq (by rw [children]; rfl)).symm

theorem Spans.two {a b : Subtree text} {ns ms : List (Node text)} (ha : Spans a ns)
    (hb : Spans b ms) (h : t.Conforms) (children : solid t.children = [a, b]) :
    Spans t (ns ++ ms) := by
  obtain ⟨first, hf, hs⟩ := ha.first
  obtain ⟨last, hl, he⟩ := hb.last
  refine ⟨⟨first, ?_, hs.trans ?_⟩, ⟨last, ?_, he.trans ?_⟩⟩
  · rw [List.head?_append, Option.mem_def.1 hf]
    rfl
  · exact (h.start_eq (by rw [children]; rfl)).symm
  · rw [List.getLast?_append, Option.mem_def.1 hl]
    rfl
  · exact (h.stop_eq (by rw [children]; rfl)).symm

theorem isFilled_of_spans {kind : Option Symbol} {field : Option Field}
    (h : Spans t (display kind field t).parts) : (display kind field t).isFilled = true := by
  obtain ⟨first, hf, hs⟩ := h.first
  obtain ⟨last, hl, he⟩ := h.last
  rw [isFilled, Option.mem_def.1 hf, Option.mem_def.1 hl]
  simp [hs, he]

/-! ### Dotted names -/

/-- Dots, each with an identifier behind it. -/
inductive Trail : List (Node text) → Prop
  | nil : Trail []
  | cons {dot name : Node text} {rest : List (Node text)} (isDot : dot.isDot = true)
      (isIdentifier : name.isIdentifier = true) (trail : Trail rest) : Trail (dot :: name :: rest)

theorem Trail.append {ns ms : List (Node text)} (hn : Trail ns) (hm : Trail ms) :
    Trail (ns ++ ms) := by
  induction hn with
  | nil => exact hm
  | cons isDot isIdentifier _ ih => exact .cons isDot isIdentifier ih

theorem Trail.alternate {ns : List (Node text)} (h : Trail ns) {n : Node text}
    (isIdentifier : n.isIdentifier = true) : Node.alternate (n :: ns) = true := by
  induction h generalizing n with
  | nil => exact isIdentifier
  | cons isDot isIdentifier' _ ih =>
    rw [Node.alternate, isIdentifier, isDot, ih isIdentifier']
    rfl

/-- The hidden list behind the first identifier of a dotted name. -/
theorem trail_pieces : ∀ {t : Subtree text}, t.Proper → t.symbol = ⟨255⟩ →
    Trail (pieces none none t) ∧ Spans t (pieces none none t) := by
  refine @induct _ _ fun t ih h symbol => ?_
  obtain ⟨labels, -, side, member, suits⟩ := h.conforms.suits symbol (by decide) 0
    (fun _ => [[only [4], only [1]], [only [255], only [255]]])
    fun r hr => by simp [Reduction.sides, hr]
  have hidden : t.symbol.shown = false := by rw [symbol]; decide
  simp only [List.mem_cons, List.not_mem_nil, or_false] at member
  rcases member with rfl | rfl
  · -- a dot with its identifier
    obtain ⟨dot, name, children, ⟨hd, isDot⟩, hn, isName⟩ := suits_two suits
    rw [pieces_of_pair h.conforms hidden labels hd hn children,
      pieces_of_symbol hd (eq_of_has_only isDot) (by decide),
      pieces_of_symbol hn (eq_of_has_only isName) (by decide)]
    refine ⟨.cons (isDot_display hd (eq_of_has_only isDot)) ?_ .nil, ?_⟩
    · exact isIdentifier_of_symbol hn (eq_of_has_only isName) none
    · exact (spans_display ..).two (spans_display ..) h.conforms children
  · -- two lists of this kind, one behind the other
    obtain ⟨front, back, children, ⟨hf, isFront⟩, hb, isBack⟩ := suits_two suits
    obtain ⟨frontTrail, frontSpans⟩ :=
      ih front (mem_of_mem_solid (by simp [children])).1 hf (eq_of_has_only isFront)
    obtain ⟨backTrail, backSpans⟩ :=
      ih back (mem_of_mem_solid (by simp [children])).1 hb (eq_of_has_only isBack)
    rw [pieces_of_pair h.conforms hidden labels hf hb children]
    exact ⟨frontTrail.append backTrail, frontSpans.two backSpans h.conforms children⟩

theorem isDotted_display (h : t.Proper) (symbol : t.symbol = Symbol.dottedName)
    (field : Option Field) : (display none field t).isDotted = true := by
  obtain ⟨labels, -, side, member, suits⟩ := h.conforms.suits symbol (by decide) 0
    (fun _ => [[only [1]], [only [1], only [255]]]) fun r hr => by simp [Reduction.sides, hr]
  have parts := parts_display_of_conforms h.conforms none field
  rw [labels] at parts
  obtain ⟨alternating, spans⟩ : alternate (display none field t).parts = true ∧
      Spans t (display none field t).parts := by
    simp only [List.mem_cons, List.not_mem_nil, or_false] at member
    rcases member with rfl | rfl
    · obtain ⟨name, children, hn, isName⟩ := suits_one suits
      have isName := eq_of_has_only isName
      replace parts : (display none field t).parts = [display none none name] := by
        rw [parts, children, piecesAll_cons_of_shown hn (by rw [isName]; decide) rfl]
        rfl
      rw [parts]
      refine ⟨Trail.nil.alternate ?_, (spans_display ..).one h.conforms children⟩
      exact isIdentifier_of_symbol hn isName none
    · obtain ⟨name, more, children, ⟨hn, isName⟩, hm, isMore⟩ := suits_two suits
      have isName := eq_of_has_only isName
      replace parts : (display none field t).parts =
          [display none none name] ++ pieces none none more := by
        rw [parts, children, piecesAll_cons_of_shown hn (by rw [isName]; decide) rfl,
          piecesAll_cons hm.solid, piecesAll_nil, List.append_nil]
        rfl
      obtain ⟨trail, spans⟩ := trail_pieces hm (eq_of_has_only isMore)
      rw [parts]
      refine ⟨trail.alternate ?_, (spans_display ..).two spans h.conforms children⟩
      exact isIdentifier_of_symbol hn isName none
  simp [isDotted, symbol, alternating, isFilled_of_spans spans]

/-! ### Dots before names -/

theorem dots_pieces : ∀ {t : Subtree text}, t.Proper → t.symbol = Symbol.dot ∨ t.symbol = ⟨240⟩ →
    (pieces none none t).all isDot = true ∧ Spans t (pieces none none t) := by
  refine @induct _ _ fun t ih h symbol => ?_
  rcases symbol with symbol | symbol
  · rw [pieces_of_symbol h symbol (by decide)]
    exact ⟨by simp [isDot_display h symbol], spans_display ..⟩
  · obtain ⟨labels, -, side, member, suits⟩ := h.conforms.suits symbol (by decide) 0
      (fun _ => [[only [4, 240], only [4, 240]]]) fun r hr => by simp [Reduction.sides, hr]
    obtain rfl := List.mem_singleton.1 member
    obtain ⟨front, back, children, ⟨hf, isFront⟩, hb, isBack⟩ := suits_two suits
    obtain ⟨frontDots, frontSpans⟩ :=
      ih front (mem_of_mem_solid (by simp [children])).1 hf (eq_or_of_has_only isFront)
    obtain ⟨backDots, backSpans⟩ :=
      ih back (mem_of_mem_solid (by simp [children])).1 hb (eq_or_of_has_only isBack)
    rw [pieces_of_pair h.conforms (by rw [symbol]; decide) labels hf hb children,
      List.all_append, frontDots, backDots]
    exact ⟨rfl, frontSpans.two backSpans h.conforms children⟩

theorem isImportDots_display (h : t.Proper) (symbol : t.symbol = Symbol.importDots)
    (field : Option Field) : (display none field t).isImportDots = true := by
  obtain ⟨labels, -, side, member, suits⟩ := h.conforms.suits symbol (by decide) 0
    (fun _ => [[only [4, 240]]]) fun r hr => by simp [Reduction.sides, hr]
  obtain rfl := List.mem_singleton.1 member
  obtain ⟨dots, children, hd, isDots⟩ := suits_one suits
  have parts : (display none field t).parts = pieces none none dots := by
    rw [parts_display_of_conforms h.conforms, labels, children, piecesAll_cons hd.solid,
      piecesAll_nil, List.append_nil]
    rfl
  obtain ⟨all, spans⟩ := dots_pieces hd (eq_or_of_has_only isDots)
  have filled : (display none field t).isFilled = true :=
    isFilled_of_spans (parts ▸ spans.one h.conforms children)
  rw [← parts] at all
  simpa [isImportDots, symbol, filled] using all

theorem isRelative_display (h : t.Proper) (symbol : t.symbol = Symbol.relativeImport)
    (field : Option Field) : (display none field t).isRelative = true := by
  obtain ⟨labels, -, side, member, suits⟩ := h.conforms.suits symbol (by decide) 0
    (fun _ => [[only [112]], [only [112], only [163]]]) fun r hr => by simp [Reduction.sides, hr]
  have kind : (display none field t).kind = Symbol.relativeImport := by simp [symbol]
  have parts := parts_display_of_conforms h.conforms none field
  rw [labels] at parts
  simp only [List.mem_cons, List.not_mem_nil, or_false] at member
  rcases member with rfl | rfl
  · obtain ⟨dots, children, hd, isDots⟩ := suits_one suits
    have isDots := eq_of_has_only isDots
    replace parts : (display none field t).parts = [display none none dots] := by
      rw [parts, children, piecesAll_cons_of_shown hd (by rw [isDots]; decide) rfl]
      rfl
    rw [isRelative, kind, parts]
    exact isImportDots_display hd isDots none
  · obtain ⟨dots, name, children, ⟨hd, isDots⟩, hn, isName⟩ := suits_two suits
    have isDots := eq_of_has_only isDots
    have isName := eq_of_has_only isName
    replace parts : (display none field t).parts =
        [display none none dots, display none none name] := by
      rw [parts, children, piecesAll_cons_of_shown hd (by rw [isDots]; decide) rfl,
        piecesAll_cons_of_shown hn (by rw [isName]; decide) rfl]
      rfl
    rw [isRelative, kind, parts]
    simp [isImportDots_display hd isDots none, isDotted_display hn isName none]

/-! ### Imported names -/

theorem isAliased_display (h : t.Proper) (symbol : t.symbol = Symbol.aliasedImport)
    (field : Option Field) : (display none field t).isAliased = true := by
  obtain ⟨labels, -, side, member, suits⟩ := h.conforms.suits symbol (by decide) 46
    (fun _ => [[only [163], only [10], only [1]]]) fun r hr => by simp [Reduction.sides, hr]
  obtain rfl := List.mem_singleton.1 member
  obtain ⟨name, keyword, other, children, ⟨hn, isName⟩, ⟨hk, isKeyword⟩, ho, isOther⟩ :=
    suits_three suits
  have isName := eq_of_has_only isName
  have isKeyword := eq_of_has_only isKeyword
  have isOther := eq_of_has_only isOther
  have parts : (display none field t).parts =
      [display none (some .name) name, display none none keyword, display none none other] := by
    rw [parts_display_of_conforms h.conforms, labels, children,
      piecesAll_cons_of_shown hn (by rw [isName]; decide) rfl,
      piecesAll_cons_of_shown hk (by rw [isKeyword]; decide) rfl,
      piecesAll_cons_of_shown ho (by rw [isOther]; decide) rfl]
    rfl
  have kind : (display none field t).kind = Symbol.aliasedImport := by simp [symbol]
  have isAs : (display none none keyword).isToken Symbol.asKeyword = true :=
    isToken_display hk isKeyword (by decide)
  rw [isAliased, kind, hasPlainExtras_display h.conforms, parts]
  simp [isDotted_display hn isName, isAs, isIdentifier_of_symbol ho isOther]

/-- An imported name with the field that it plays. -/
structure IsNamed (n : Node text) : Prop where
  field : n.field = some .name
  item : n.isDotted = true ∨ n.isAliased = true

/-- What names are made of has one piece. -/
theorem named_pieces (h : t.Proper) (symbol : (only [117, 163]).has t.symbol = true) :
    pieces none (some .name) t = [display none (some .name) t] ∧
      IsNamed (display none (some .name) t) := by
  rcases eq_or_of_has_only symbol with symbol | symbol
  · exact ⟨pieces_of_symbol h symbol (by decide) _, field_display ..,
      .inr (isAliased_display h symbol _)⟩
  · exact ⟨pieces_of_symbol h symbol (by decide) _, field_display ..,
      .inl (isDotted_display h symbol _)⟩

/-- Commas, each with a name behind it. -/
inductive NameTrail : List (Node text) → Prop
  | nil : NameTrail []
  | cons {comma name : Node text} {rest : List (Node text)}
      (isComma : comma.isToken Symbol.comma = true) (isNamed : IsNamed name)
      (trail : NameTrail rest) : NameTrail (comma :: name :: rest)

theorem NameTrail.append {ns ms : List (Node text)} (hn : NameTrail ns) (hm : NameTrail ms) :
    NameTrail (ns ++ ms) := by
  induction hn with
  | nil => exact hm
  | cons isComma isNamed _ ih => exact .cons isComma isNamed ih

/-- Names with commas between them, and perhaps one more. -/
theorem NameTrail.areNames {ns : List (Node text)} (h : NameTrail ns) {n : Node text}
    (isNamed : IsNamed n) {last : List (Node text)}
    (hl : last = [] ∨ ∃ comma, last = [comma] ∧ comma.isToken Symbol.comma = true) :
    Node.areNames (n :: (ns ++ last)) = true := by
  have named {m : Node text} (hm : IsNamed m) :
      (m.field = some .name && (m.isDotted || m.isAliased)) = true := by
    simpa [hm.field] using hm.item
  induction h generalizing n with
  | nil =>
    rcases hl with rfl | ⟨comma, rfl, isComma⟩
    · exact named isNamed
    · rw [List.nil_append, Node.areNames, named isNamed, isComma]
      rfl
  | cons isComma isNamed' _ ih =>
    rw [List.cons_append, List.cons_append, Node.areNames, named isNamed, isComma, ih isNamed']
    simp

/-- The hidden list behind the first imported name. -/
theorem nameTrail_pieces : ∀ {t : Subtree text}, t.Proper → t.symbol = ⟨241⟩ →
    NameTrail (pieces none none t) := by
  refine @induct _ _ fun t ih h symbol => ?_
  obtain ⟨r, result, labels, -, suits⟩ := h.conforms.sides (by rw [symbol]; decide)
  rw [symbol] at result
  have hidden : t.symbol.shown = false := by rw [symbol]; decide
  -- the labels tell a comma with its name from two lists of this kind
  by_cases labelling : r.labelling = 49
  · obtain ⟨side, member, suits⟩ := suits [[only [9], only [117, 163]]] (by
      simp [Reduction.sides, result, labelling])
    obtain rfl := List.mem_singleton.1 member
    obtain ⟨comma, name, children, ⟨hc, isComma⟩, hn, isName⟩ := suits_two suits
    have isComma := eq_of_has_only isComma
    rw [Reduction.labels, labelling] at labels
    obtain ⟨piece, isNamed⟩ := named_pieces hn isName
    have split : pieces none none t =
        [display none none comma, display none (some .name) name] := by
      rw [pieces_of_hidden h.conforms hidden, ← labels, children,
        piecesAll_cons_of_shown hc (by rw [isComma]; decide) rfl, piecesAll_cons hn.solid,
        piecesAll_nil, List.append_nil]
      change _ :: pieces none (some .name) name = _
      rw [piece]
      rfl
    rw [split]
    exact .cons (isToken_display hc isComma (by decide)) isNamed .nil
  · obtain ⟨side, member, suits⟩ := suits
      (if r.labelling = 0 then [[only [241], only [241]]] else [])
      (by simp [Reduction.sides, result, labelling])
    split at member
    · next plain =>
      obtain rfl := List.mem_singleton.1 member
      obtain ⟨front, back, children, ⟨hf, isFront⟩, hb, isBack⟩ := suits_two suits
      rw [Reduction.labels, plain] at labels
      rw [pieces_of_pair h.conforms hidden labels.symm hf hb children]
      exact (ih front (mem_of_mem_solid (by simp [children])).1 hf (eq_of_has_only isFront)).append
        (ih back (mem_of_mem_solid (by simp [children])).1 hb (eq_of_has_only isBack))
    · exact absurd member List.not_mem_nil

/-- The hidden list of names. -/
theorem areNames_pieces (h : t.Proper) (symbol : t.symbol = ⟨116⟩) :
    areNames (pieces none none t) = true := by
  obtain ⟨labels, -, side, member, suits⟩ := h.conforms.suits symbol (by decide) 46
    (fun _ => [[only [117, 163]], [only [117, 163], only [9]], [only [117, 163], only [241]],
      [only [117, 163], only [241], only [9]]]) fun r hr => by simp [Reduction.sides, hr]
  have hidden := pieces_of_hidden h.conforms (by rw [symbol]; decide) none
  rw [labels] at hidden
  have comma {u : Subtree text} (hu : u.Proper) (isComma : (only [9]).has u.symbol = true) :
      ∃ n, pieces none none u = [n] ∧ n.isToken Symbol.comma = true :=
    ⟨_, pieces_of_symbol hu (eq_of_has_only isComma) (by decide) _,
      isToken_display hu (eq_of_has_only isComma) (by decide)⟩
  obtain ⟨name, rest, children, hn, isName, others⟩ :
      ∃ name rest, solid t.children = name :: rest ∧ name.Proper ∧
        (only [117, 163]).has name.symbol = true ∧ (Suits [] rest ∨ Suits [only [9]] rest ∨
          Suits [only [241]] rest ∨ Suits [only [241], only [9]] rest) := by
    simp only [List.mem_cons, List.not_mem_nil, or_false] at member
    rcases member with rfl | rfl | rfl | rfl <;>
      obtain ⟨name, rest, children, hn, isName, suits⟩ := suits_cons suits <;>
      exact ⟨name, rest, children, hn, isName, by simp [suits]⟩
  obtain ⟨piece, isNamed⟩ := named_pieces hn isName
  rw [hidden, children, piecesAll_cons hn.solid]
  change areNames (pieces none (some .name) name ++ _) = true
  rw [piece, List.singleton_append]
  rcases others with suits | suits | suits | suits
  · obtain rfl := suits_nil suits
    exact NameTrail.nil.areNames isNamed (.inl rfl)
  · obtain ⟨last, rfl, hl, isComma⟩ := suits_one suits
    obtain ⟨n, piece, isToken⟩ := comma hl isComma
    rw [piecesAll_cons hl.solid, piecesAll_nil, List.append_nil]
    change areNames (_ :: pieces none none last) = true
    exact NameTrail.nil.areNames isNamed (.inr ⟨n, piece, isToken⟩)
  · obtain ⟨more, rfl, hm, isMore⟩ := suits_one suits
    rw [piecesAll_cons hm.solid, piecesAll_nil]
    exact (nameTrail_pieces hm (eq_of_has_only isMore)).areNames isNamed (.inl rfl)
  · obtain ⟨more, last, rfl, ⟨hm, isMore⟩, hl, isComma⟩ := suits_two suits
    obtain ⟨n, piece, isToken⟩ := comma hl isComma
    rw [piecesAll_cons hm.solid, piecesAll_cons hl.solid, piecesAll_nil, List.append_nil]
    exact (nameTrail_pieces hm (eq_of_has_only isMore)).areNames isNamed (.inr ⟨n, piece, isToken⟩)

/-! ### Import statements -/

theorem isWildcard_display (h : t.Proper) (symbol : t.symbol = Symbol.wildcardImport) :
    (display none none t).isWildcard = true := by
  obtain ⟨labels, -, side, member, suits⟩ := h.conforms.suits symbol (by decide) 0
    (fun _ => [[only [11]]]) fun r hr => by simp [Reduction.sides, hr]
  obtain rfl := List.mem_singleton.1 member
  obtain ⟨star, children, hs, isStar⟩ := suits_one suits
  have isStar := eq_of_has_only isStar
  have parts : (display none none t).parts = [display none none star] := by
    rw [parts_display_of_conforms h.conforms, labels, children,
      piecesAll_cons_of_shown hs (by rw [isStar]; decide) rfl]
    rfl
  have isToken : (display none none star).isToken Symbol.star = true :=
    isToken_display hs isStar (by decide)
  rw [isWildcard, parts]
  simp [symbol, isToken]

theorem areEnclosed_of_areNames {ns : List (Node text)} (h : areNames ns = true) :
    areEnclosed ns = true := by
  simp [areEnclosed, h]

theorem areEnclosed_of_parentheses {ns : List (Node text)} (h : areNames ns = true)
    {first last : Node text} (opens : first.isToken Symbol.openParenthesis = true)
    (closes : last.isToken Symbol.closeParenthesis = true) :
    areEnclosed (first :: (ns ++ [last])) = true := by
  simp [areEnclosed, opens, closes, h]

/-- What is imported is a list of names, perhaps in parentheses. -/
theorem areEnclosed_piecesAll {labels : Labels} {position : Nat}
    (bare : ∀ i, position ≤ i → labels.kindAt i = none ∧ labels.fieldAt i = none)
    {ts : List (Subtree text)}
    (h : Suits [only [116]] ts ∨ Suits [only [7], only [116], only [8]] ts) :
    areEnclosed (piecesAll labels none position ts) = true := by
  have plain {u : Subtree text} (hu : u.Proper) {i : Nat} (hi : position ≤ i)
      (us : List (Subtree text)) :
      piecesAll labels none i (u :: us) =
        pieces none none u ++ piecesAll labels none (i + 1) us := by
    rw [piecesAll_cons hu.solid, (bare i hi).1, (bare i hi).2]
    rfl
  rcases h with suits | suits
  · obtain ⟨names, rfl, hn, isNames⟩ := suits_one suits
    rw [plain hn (Nat.le_refl _), piecesAll_nil, List.append_nil]
    exact areEnclosed_of_areNames (areNames_pieces hn (eq_of_has_only isNames))
  · obtain ⟨first, names, last, rfl, ⟨hf, isFirst⟩, ⟨hn, isNames⟩, hl, isLast⟩ := suits_three suits
    rw [plain hf (by omega), plain hn (by omega), plain hl (by omega), piecesAll_nil,
      List.append_nil, pieces_of_symbol hf (eq_of_has_only isFirst) (by decide),
      pieces_of_symbol hl (eq_of_has_only isLast) (by decide)]
    exact areEnclosed_of_parentheses (areNames_pieces hn (eq_of_has_only isNames))
      (isToken_display hf (eq_of_has_only isFirst) (by decide))
      (isToken_display hl (eq_of_has_only isLast) (by decide))

theorem isImport_of_plain (h : t.Conforms) (symbol : t.symbol = Symbol.importStatement)
    (field : Option Field) : (display none field t).isImport = true := by
  obtain ⟨labels, -, side, member, suits⟩ := h.suits symbol (by decide) 0
    (fun _ => [[only [3], only [116]]]) fun r hr => by simp [Reduction.sides, hr]
  obtain rfl := List.mem_singleton.1 member
  obtain ⟨keyword, names, children, ⟨hk, isKeyword⟩, hn, isNames⟩ := suits_two suits
  have isKeyword := eq_of_has_only isKeyword
  have parts : (display none field t).parts =
      display none none keyword :: pieces none none names := by
    rw [parts_display_of_conforms h, labels, children,
      piecesAll_cons_of_shown hk (by rw [isKeyword]; decide) rfl, piecesAll_cons hn.solid,
      piecesAll_nil, List.append_nil]
    rfl
  have kind : (display none field t).kind = Symbol.importStatement := by simp [symbol]
  have isToken : (display none none keyword).isToken Symbol.importKeyword = true :=
    isToken_display hk isKeyword (by decide)
  rw [isImport, hasPlainExtras_display h, parts]
  simp [kind, isToken, areNames_pieces hn (eq_of_has_only isNames)]

theorem isImport_of_future (h : t.Conforms) (symbol : t.symbol = Symbol.futureImportStatement)
    (field : Option Field) : (display none field t).isImport = true := by
  obtain ⟨labels, -, side, member, suits⟩ := h.suits symbol (by decide) 0
    (fun _ => [[only [5], only [6], only [3], only [116]],
      [only [5], only [6], only [3], only [7], only [116], only [8]]])
    fun r hr => by simp [Reduction.sides, hr]
  -- both sides begin alike
  obtain ⟨others, rfl, either⟩ : ∃ others, side = only [5] :: only [6] :: only [3] :: others ∧
      (others = [only [116]] ∨ others = [only [7], only [116], only [8]]) := by
    simp only [List.mem_cons, List.not_mem_nil, or_false] at member
    rcases member with rfl | rfl
    · exact ⟨_, rfl, .inl rfl⟩
    · exact ⟨_, rfl, .inr rfl⟩
  obtain ⟨keyword, _, children, hk, isKeyword, suits⟩ := suits_cons suits
  obtain ⟨source, _, rfl, hs, isSource, suits⟩ := suits_cons suits
  obtain ⟨middle, rest, rfl, hm, isMiddle, suits⟩ := suits_cons suits
  have isKeyword := eq_of_has_only isKeyword
  have isSource := eq_of_has_only isSource
  have isMiddle := eq_of_has_only isMiddle
  have parts : (display none field t).parts =
      display none none keyword :: display none none source :: display none none middle ::
        piecesAll Labels.none none 3 rest := by
    rw [parts_display_of_conforms h, labels, children,
      piecesAll_cons_of_shown hk (by rw [isKeyword]; decide) rfl,
      piecesAll_cons_of_shown hs (by rw [isSource]; decide) rfl,
      piecesAll_cons_of_shown hm (by rw [isMiddle]; decide) rfl]
    rfl
  have kind : (display none field t).kind = Symbol.futureImportStatement := by simp [symbol]
  have other : Symbol.futureImportStatement ≠ Symbol.importStatement := by decide
  have isFrom : (display none none keyword).isToken Symbol.fromKeyword = true :=
    isToken_display hk isKeyword (by decide)
  have isFuture : (display none none source).isToken Symbol.futureKeyword = true :=
    isToken_display hs isSource (by decide)
  have isImport : (display none none middle).isToken Symbol.importKeyword = true :=
    isToken_display hm isMiddle (by decide)
  have enclosed : areEnclosed (piecesAll Labels.none none 3 rest) = true := by
    refine areEnclosed_piecesAll (fun _ _ => ⟨rfl, rfl⟩) ?_
    rcases either with rfl | rfl
    · exact .inl suits
    · exact .inr suits
  rw [Node.isImport, hasPlainExtras_display h, parts]
  simp [kind, other, isFrom, isFuture, isImport, enclosed]

/-- The labels of an import from a module: only the module plays a field. -/
def fromLabels : Labels := ⟨[], [(1, .moduleName)]⟩

theorem fieldAt_fromLabels {i : Nat} (h : 3 ≤ i) : fromLabels.fieldAt i = none := by
  have other : (i == 1) = false := by simpa using (by omega : i ≠ 1)
  simp [fromLabels, Labels.fieldAt, List.lookup_cons, other]

/-- What is imported from a module: names, perhaps in parentheses, or all of them. -/
theorem imported_piecesAll {ts : List (Subtree text)}
    (h : Suits [only [118]] ts ∨ Suits [only [116]] ts ∨
      Suits [only [7], only [116], only [8]] ts) :
    areEnclosed (piecesAll fromLabels none 3 ts) = true ∨
      ∃ n, piecesAll fromLabels none 3 ts = [n] ∧ n.isWildcard = true := by
  rcases h with suits | names
  · obtain ⟨wildcard, rfl, hw, isWildcard⟩ := suits_one suits
    have isWildcard := eq_of_has_only isWildcard
    refine .inr ⟨display none none wildcard, ?_, isWildcard_display hw isWildcard⟩
    rw [piecesAll_cons_of_shown hw (by rw [isWildcard]; decide) rfl]
    rfl
  · exact .inl (areEnclosed_piecesAll (fun i hi => ⟨rfl, fieldAt_fromLabels hi⟩) names)

theorem isImport_of_from (h : t.Conforms) (symbol : t.symbol = Symbol.importFromStatement)
    (field : Option Field) : (display none field t).isImport = true := by
  obtain ⟨labels, -, side, member, suits⟩ := h.suits symbol (by decide) 51
    (fun _ => [[only [5], only [113, 163], only [3], only [116]],
      [only [5], only [113, 163], only [3], only [118]],
      [only [5], only [113, 163], only [3], only [7], only [116], only [8]]])
    fun r hr => by simp [Reduction.sides, hr]
  -- all sides begin alike
  obtain ⟨others, rfl, either⟩ : ∃ others,
      side = only [5] :: only [113, 163] :: only [3] :: others ∧
      (others = [only [118]] ∨ others = [only [116]] ∨
        others = [only [7], only [116], only [8]]) := by
    simp only [List.mem_cons, List.not_mem_nil, or_false] at member
    rcases member with rfl | rfl | rfl
    · exact ⟨_, rfl, .inr (.inl rfl)⟩
    · exact ⟨_, rfl, .inl rfl⟩
    · exact ⟨_, rfl, .inr (.inr rfl)⟩
  obtain ⟨keyword, _, children, hk, isKeyword, suits⟩ := suits_cons suits
  obtain ⟨source, _, rfl, hs, isSource, suits⟩ := suits_cons suits
  obtain ⟨middle, rest, rfl, hm, isMiddle, suits⟩ := suits_cons suits
  have isKeyword := eq_of_has_only isKeyword
  have isSource := eq_or_of_has_only isSource
  have isMiddle := eq_of_has_only isMiddle
  have parts : (display none field t).parts = display none none keyword ::
      display none (some .moduleName) source :: display none none middle ::
        piecesAll fromLabels none 3 rest := by
    rw [parts_display_of_conforms h, labels, children,
      piecesAll_cons_of_shown hk (by rw [isKeyword]; decide) rfl,
      piecesAll_cons_of_shown hs (by rcases isSource with s | s <;> rw [s] <;> decide) rfl,
      piecesAll_cons_of_shown hm (by rw [isMiddle]; decide) rfl]
    rfl
  have kind : (display none field t).kind = Symbol.importFromStatement := by simp [symbol]
  have other : Symbol.importFromStatement ≠ Symbol.importStatement ∧
      Symbol.importFromStatement ≠ Symbol.futureImportStatement := by decide
  have isFrom : (display none none keyword).isToken Symbol.fromKeyword = true :=
    isToken_display hk isKeyword (by decide)
  have isModule : (display none (some .moduleName) source).isDotted = true ∨
      (display none (some .moduleName) source).isRelative = true := by
    rcases isSource with isRelative | isDotted
    · exact .inr (isRelative_display hs isRelative _)
    · exact .inl (isDotted_display hs isDotted _)
  have isImport : (display none none middle).isToken Symbol.importKeyword = true :=
    isToken_display hm isMiddle (by decide)
  have imported := imported_piecesAll (either.imp (· ▸ suits) (.imp (· ▸ suits) (· ▸ suits)))
  rw [Node.isImport, hasPlainExtras_display h, parts]
  rcases imported with enclosed | ⟨n, same, isWildcard⟩
  · simpa [kind, other, isFrom, isImport, enclosed] using isModule
  · simpa [kind, other, isFrom, isImport, same, isWildcard] using isModule

end Node

end CallContext
