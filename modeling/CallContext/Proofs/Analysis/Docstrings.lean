import CallContext.Proofs.Analysis.Targets
import Mathlib.Data.List.TakeWhile

/-!
# Docstrings

The docstring of a definition is read from the first statement of its body.  What is looked at is
the first expression of the statement, and what is cut off from its text are all letters before and
all quotes around it, not only those that the literal begins and ends with.

* `Module.docstrings_exact` : an element has a docstring exactly if the first statement of its body
  begins with a string literal, which is a content in quotes; the docstring is the content of the
  literal exactly if that neither begins nor ends with a quote and does not stand in back quotes,
* `Module.docstrings_inexact` : a statement that is more than a literal, and a content that begins
  with a quote.
-/

namespace CallContext

/-! ### Cutting at both ends -/

section TrimEnds

variable {p q : Char → Bool}

theorem dropWhile_append_of_all {front : List Char} (h : ∀ c ∈ front, p c = true)
    (back : List Char) : (front ++ back).dropWhile p = back.dropWhile p := by
  rw [List.dropWhile_append, List.dropWhile_eq_nil_iff.2 h]
  rfl

theorem trimEnds_append {front back : List Char} (hf : ∀ c ∈ front, p c = true)
    (hb : ∀ c ∈ back, p c = true) (mid : List Char) :
    trimEnds p (front ++ mid ++ back) = trimEnds p mid := by
  have reversed : ∀ c ∈ back.reverse, p c = true := fun c hc => hb c (List.mem_reverse.1 hc)
  rw [trimEnds, trimEnds, List.append_assoc, dropWhile_append_of_all hf, List.dropWhile_append]
  split
  · next empty =>
    have none : mid.dropWhile p = [] := by simpa using empty
    rw [none, List.dropWhile_eq_nil_iff.2 hb]
  · rw [List.reverse_append, dropWhile_append_of_all reversed]

theorem dropWhile_of_head? {cs : List Char} (h : ∀ c, cs.head? = some c → p c = false) :
    cs.dropWhile p = cs := by
  cases cs with
  | nil => rfl
  | cons c cs => rw [List.dropWhile_cons_of_neg (by simp [h c rfl])]

theorem trimEnds_of_ends {cs : List Char} (first : ∀ c, cs.head? = some c → p c = false)
    (last : ∀ c, cs.getLast? = some c → p c = false) : trimEnds p cs = cs := by
  rw [trimEnds, dropWhile_of_head? first, dropWhile_of_head? fun c hc => ?_, List.reverse_reverse]
  exact last c (by rwa [List.head?_reverse] at hc)

theorem countP_dropWhile_of_disjoint (apart : ∀ c, p c = true → q c = false) (cs : List Char) :
    (cs.dropWhile p).countP q = cs.countP q := by
  induction cs with
  | nil => rfl
  | cons c cs ih =>
    by_cases hc : p c = true
    · rw [List.dropWhile_cons_of_pos hc, ih, List.countP_cons_of_neg (by simp [apart c hc])]
    · rw [List.dropWhile_cons_of_neg hc]

/-- Cutting some characters off leaves all others. -/
theorem countP_trimEnds_of_disjoint (apart : ∀ c, p c = true → q c = false) (cs : List Char) :
    (trimEnds p cs).countP q = cs.countP q := by
  rw [trimEnds, List.countP_reverse, countP_dropWhile_of_disjoint apart, List.countP_reverse,
    countP_dropWhile_of_disjoint apart]

theorem countP_dropWhile_le (cs : List Char) : (cs.dropWhile p).countP p ≤ cs.countP p :=
  (List.dropWhile_sublist p).countP_le

theorem countP_dropWhile_lt {cs : List Char} {c : Char} (first : cs.head? = some c)
    (hc : p c = true) : (cs.dropWhile p).countP p < cs.countP p := by
  obtain ⟨rest, rfl⟩ := List.head?_eq_some_iff.1 first
  rw [List.dropWhile_cons_of_pos hc, List.countP_cons_of_pos hc]
  exact Nat.lt_succ_of_le (countP_dropWhile_le rest)

/-- Something is cut off at an end that has the property. -/
theorem countP_trimEnds_lt {cs : List Char} {c : Char}
    (h : cs.head? = some c ∨ cs.getLast? = some c) (hc : p c = true) :
    (trimEnds p cs).countP p < cs.countP p := by
  rw [trimEnds, List.countP_reverse]
  by_cases first : cs.head? = some c
  · have outer : ((cs.dropWhile p).reverse.dropWhile p).countP p ≤ (cs.dropWhile p).countP p := by
      rw [← List.countP_reverse (l := cs.dropWhile p)]
      exact countP_dropWhile_le _
    exact Nat.lt_of_le_of_lt outer (countP_dropWhile_lt first hc)
  · have last := h.resolve_left first
    have counted : 0 < cs.countP p := List.countP_pos_iff.2 ⟨c, List.mem_of_getLast? last, hc⟩
    by_cases empty : cs.dropWhile p = []
    · simpa [empty] using counted
    · -- what is left at the front ends as before
      have final : (cs.dropWhile p).reverse.head? = Option.some c := by
        rw [List.head?_reverse, ← last]
        obtain ⟨front, split⟩ := List.dropWhile_suffix (l := cs) p
        conv_rhs => rw [← split, List.getLast?_append_of_ne_nil _ empty]
      have outer := countP_dropWhile_lt final hc
      rw [List.countP_reverse] at outer
      exact Nat.lt_of_lt_of_le outer (countP_dropWhile_le cs)

end TrimEnds

/-! ### String literals -/

/-- A quote that is cut off from a docstring. -/
def isQuote (c : Char) : Bool := c = '"' || c = '\''

/-- The text is that of a literal: letters, then quotes, the content and quotes.  Whether these are
the same at both ends does not matter for what is cut off. -/
def Quotes (written : List Char) (opening : QuoteStyle) (content : List Char)
    (closing : QuoteStyle) : Prop :=
  ∃ letters : List Char, (∀ c ∈ letters, c.isAlpha = true) ∧
    written = letters ++ (opening.chars ++ content ++ closing.chars)

/-- The docstring of a literal that is written so. -/
def docstringOf (written : List Char) : List Char :=
  trimEnds isBlank (trimEnds isQuote (written.dropWhile Char.isAlpha))

theorem isBlank_of_isQuote {c : Char} (h : isQuote c = true) : isBlank c = false := by
  simp only [isQuote, Bool.or_eq_true, decide_eq_true_eq] at h
  rcases h with rfl | rfl <;> decide

theorem isQuote_of_isBlank {c : Char} (h : isBlank c = true) : isQuote c = false := by
  by_contra quote
  rw [isBlank_of_isQuote (by simpa using quote)] at h
  cases h

variable {written content : List Char} {opening closing : QuoteStyle}

theorem Quotes.dropWhile_isAlpha (h : Quotes written opening content closing) :
    written.dropWhile Char.isAlpha = opening.chars ++ content ++ closing.chars := by
  obtain ⟨letters, alpha, rfl⟩ := h
  rw [dropWhile_append_of_all alpha]
  refine dropWhile_of_head? fun c hc => ?_
  cases opening <;> cases hc <;> rfl

theorem isQuote_of_mem_chars {q : QuoteStyle} (other : q ≠ .back) :
    ∀ c ∈ q.chars, isQuote c = true := by
  cases q with
  | back => exact absurd rfl other
  | _ => simp [QuoteStyle.chars, QuoteStyle.isTriple, QuoteStyle.char, isQuote]

/-- Cutting off characters that are no back quotes leaves all of these. -/
theorem countP_back_trimEnds {p : Char → Bool} (other : p '`' = false) (cs : List Char) :
    (trimEnds p cs).countP (· = '`') = cs.countP (· = '`') := by
  refine countP_trimEnds_of_disjoint (fun c hc => decide_eq_false ?_) cs
  rintro rfl
  rw [other] at hc
  cases hc

theorem countP_back_chars (q : QuoteStyle) :
    q.chars.countP (· = '`') = if q = .back then 1 else 0 := by
  cases q <;> decide

/-- Neither end of the content is a quote. -/
def Unquoted (content : List Char) : Prop :=
  ∀ c, content.head? = some c ∨ content.getLast? = some c → isQuote c = false

/-- Quotes around the content are lost, so it is kept exactly if there are none. -/
theorem trimEnds_isBlank_trimEnds_isQuote :
    trimEnds isBlank (trimEnds isQuote content) = trimEnds isBlank content ↔ Unquoted content := by
  constructor
  · intro same c ends
    by_contra quote
    have fewer := countP_trimEnds_lt ends (by simpa using quote)
    -- cutting blank space off leaves all quotes
    have kept (cs : List Char) : (trimEnds isBlank cs).countP isQuote = cs.countP isQuote :=
      countP_trimEnds_of_disjoint (fun _ => isQuote_of_isBlank) cs
    have counts := congrArg (List.countP isQuote) same
    rw [kept, kept] at counts
    omega
  · intro unquoted
    rw [trimEnds_of_ends (fun c hc => unquoted c (.inl hc)) (fun c hc => unquoted c (.inr hc))]

/-- The docstring of a literal is its content without the blank space around it exactly if the
content has no quotes at its ends and does not stand in back quotes. -/
theorem Quotes.docstringOf_eq (h : Quotes written opening content closing) :
    docstringOf written = trimEnds isBlank content ↔
      opening ≠ .back ∧ closing ≠ .back ∧ Unquoted content := by
  rw [docstringOf, h.dropWhile_isAlpha]
  by_cases back : opening = .back ∨ closing = .back
  · -- back quotes are kept, so the docstring has more of them than the content
    refine iff_of_false (fun same => ?_) fun ⟨first, last, _⟩ => back.elim first last
    have counts := congrArg (List.countP (· = '`')) same
    rw [countP_back_trimEnds (by decide), countP_back_trimEnds (by decide),
      countP_back_trimEnds (by decide), List.countP_append, List.countP_append,
      countP_back_chars, countP_back_chars] at counts
    rcases back with rfl | rfl
    · rw [if_pos rfl] at counts
      omega
    · rw [if_pos rfl] at counts
      omega
  · obtain ⟨first, last⟩ := not_or.1 back
    rw [trimEnds_append (isQuote_of_mem_chars first) (isQuote_of_mem_chars last),
      trimEnds_isBlank_trimEnds_isQuote]
    exact ⟨fun unquoted => ⟨first, last, unquoted⟩, fun all => all.2.2⟩

/-! ### Literals of a module -/

namespace StringLiteral

theorem exists_of_opens {s : String} (h : opens s = true) :
    ∃ (letters : List Char) (q : QuoteStyle), opening? s = some q ∧
      (∀ c ∈ letters, c.isAlpha = true) ∧ s.toList = letters ++ q.chars := by
  obtain ⟨q, found⟩ := Option.isSome_iff_exists.1 h
  have rest : s.toList.dropWhile Char.isAlpha = q.chars := by simpa using List.find?_some found
  refine ⟨s.toList.takeWhile Char.isAlpha, q, found, fun c => List.mem_takeWhile_imp, ?_⟩
  rw [← rest, List.takeWhile_append_dropWhile]

theorem exists_of_closes {s : String} (h : closes s = true) :
    ∃ (front : List Char) (q : QuoteStyle), s.toList = front ++ q.chars := by
  obtain ⟨q, -, found⟩ := List.any_eq_true.1 h
  obtain ⟨front, split⟩ := List.isSuffixOf_iff_suffix.1 found
  exact ⟨front, q, split.symm⟩

end StringLiteral

namespace Node

variable {text : List Char}

/-- The quotes that a literal begins with: its first part are letters and these. -/
def opening? (literal : Node text) : Option QuoteStyle :=
  literal.parts.head?.bind fun first => StringLiteral.opening? first.source

theorem exists_textOf_eq {ns : List (Node text)} {last : Node text}
    (h : ns.getLast? = some last) : ∃ front, textOf ns = front ++ last.source := by
  induction ns with
  | nil => cases h
  | cons n ns ih =>
    cases ns with
    | nil =>
      cases h
      exact ⟨"", String.empty_append.symm⟩
    | cons second others =>
      obtain ⟨front, ends⟩ := ih (by rwa [List.getLast?_cons_cons] at h)
      exact ⟨_, by rw [textOf, ends, ← String.append_assoc]⟩

/-- A literal is a content in quotes: its first part are letters and quotes, and its last part ends
with quotes. -/
theorem exists_quotes {literal : Node text} (nested : literal.Nested)
    (h : literal.isLiteral = true) : ∃ opening content closing,
      literal.opening? = some opening ∧
        Quotes literal.source.toList opening content closing := by
  rw [isLiteral, Bool.and_eq_true] at h
  obtain ⟨filled, h⟩ := h
  rw [source_eq_textOf nested filled, opening?]
  cases parts : literal.parts with
  | nil => rw [parts] at h; cases h
  | cons first rest =>
    rw [parts, Bool.and_eq_true] at h
    obtain ⟨opens, closes⟩ := h
    obtain ⟨last, hl, closes⟩ := (Option.any_eq_true _ _).1 closes
    obtain ⟨letters, opening, found, alpha, opened⟩ := StringLiteral.exists_of_opens opens
    obtain ⟨before, closing, closed⟩ := StringLiteral.exists_of_closes closes
    obtain ⟨front, whole⟩ := exists_textOf_eq hl
    cases rest with
    | nil => cases hl
    | cons second others =>
      refine ⟨opening, (first.stop.between second.start).toList ++ front.toList ++ before, closing,
        found, letters, alpha, ?_⟩
      rw [textOf, whole, String.toList_append, String.toList_append, String.toList_append, opened,
        closed]
      simp only [List.append_assoc]

/-! ### First statements -/

/-- The first statement of a block; comments do not count. -/
def firstStatement? (body : Node text) : Option (Node text) :=
  body.namedChildren.find? fun child => !child.isExtra

/-- The string literal that a statement of expressions begins with. -/
def literal? (statement : Node text) : Option (Node text) :=
  if statement.kind = Symbol.expressionStatement then
    statement.parts.head?.filter (·.kind = Symbol.string)
  else none

theorem find?_of_head? {p : Node text → Bool} {ns : List (Node text)}
    (h : ns.head?.all p = true) : ns.find? p = ns.head? := by
  cases ns with
  | nil => rfl
  | cons n ns => exact List.find?_cons_of_pos (by simpa using h)

theorem firstStatement?_eq {body : Node text} (built : body.isBuilt = true)
    (block : body.kind = Symbol.block) : body.firstStatement? = body.namedChildren.head? := by
  refine find?_of_head? ?_
  rw [isBuilt, block] at built
  exact built

theorem head?_parts {statement : Node text} (built : statement.isBuilt = true)
    (expressions : statement.kind = Symbol.expressionStatement) :
    statement.parts.head? = statement.children.head? := by
  have first : (statement.children.head?.any fun first => !first.isExtra) = true := by
    rw [isBuilt, expressions] at built
    exact built
  rw [parts, List.head?_filter]
  refine find?_of_head? ?_
  obtain ⟨child, found, solid⟩ := (Option.any_eq_true _ _).1 first
  rw [found]
  exact solid

theorem exists_block {n : Node text} (built : n.isBuilt = true)
    (plain : n.kind = Symbol.functionDefinition ∨ n.kind = Symbol.classDefinition) :
    ∃ body, n.child? .body = some body ∧ body.kind = Symbol.block := by
  have parts : ((n.child? .body).any fun body => body.kind = Symbol.block) = true := by
    rcases plain with kind | kind <;>
      · rw [isBuilt, kind] at built
        exact built
  obtain ⟨body, found, block⟩ := (Option.any_eq_true _ _).1 parts
  exact ⟨body, found, by simpa using block⟩

theorem mem_preorder_of_firstStatement? {body statement : Node text}
    (h : body.firstStatement? = some statement) : statement ∈ body.preorder :=
  preorder_subset (List.mem_filter.1 (List.mem_of_find?_eq_some h)).1 statement.self_mem_preorder

theorem mem_preorder_of_literal? {statement literal : Node text}
    (h : statement.literal? = some literal) : literal ∈ statement.preorder := by
  unfold literal? at h
  split at h
  · obtain ⟨first, -⟩ := Option.filter_eq_some_iff.1 h
    exact preorder_subset (List.mem_filter.1 (List.mem_of_mem_head? first)).1
      literal.self_mem_preorder
  · cases h

theorem kind_of_literal? {statement literal : Node text}
    (h : statement.literal? = some literal) : literal.kind = Symbol.string := by
  unfold literal? at h
  split at h
  · exact of_decide_eq_true (Option.filter_eq_some_iff.1 h).2
  · cases h

/-- The docstring is that of the literal which the first statement of the body begins with. -/
theorem docstring?_eq {inner body : Node text} (h : inner.child? .body = some body)
    (block : body.kind = Symbol.block) (built : ∀ x ∈ body.preorder, x.isBuilt = true) :
    inner.docstring? = (body.firstStatement?.bind literal?).map fun literal =>
      String.ofList (docstringOf literal.source.toList) := by
  have first := firstStatement?_eq (built body body.self_mem_preorder) block
  unfold docstring?
  rw [h, first]
  dsimp only
  cases named : body.namedChildren with
  | nil => rfl
  | cons statement rest =>
    rw [named] at first
    have inside := built statement (mem_preorder_of_firstStatement? first)
    dsimp only [List.head?_cons, Option.bind_some]
    unfold literal?
    split
    · next expressions =>
      -- an expression comes first in its statement, so the first child is the first part
      rw [head?_parts inside expressions]
      cases statement.children with
      | nil => rfl
      | cons child others =>
        dsimp only [List.head?_cons]
        rw [Option.filter_some]
        by_cases string : child.kind = Symbol.string
        · rw [if_pos string, if_pos (by simpa using string)]
          rfl
        · rw [if_neg string, if_neg (by simpa using string)]
          rfl
    · rfl

end Node

/-- The body of a definition. -/
def Definition.body? {text : List Char} (d : Definition text) : Option (Node text) :=
  d.node.undecorated?.bind (·.child? .body)

namespace Module

variable {m : Module}

/-- A definition has a block, and its docstring comes from there. -/
theorem exists_body {d : Definition m.text} (hd : d ∈ m.definitions) :
    ∃ body, d.body? = some body ∧ body ∈ m.root.preorder ∧
      d.element.docstring = (body.firstStatement?.bind Node.literal?).map fun literal =>
        String.ofList (docstringOf literal.source.toList) := by
  obtain ⟨child, defined⟩ := definition?_of_mem hd
  have top : d.node ∈ m.root.children := (List.mem_filter.1 child).1
  have within : d.node ∈ m.root.preorder := Node.preorder_subset top d.node.self_mem_preorder
  obtain ⟨inner, below, undecorated, -, plain⟩ :=
    Node.exists_undecorated (shapely_of_mem within).1 <| by
      rw [← Node.isSome_definition? (shapely_child top), defined]
      rfl
  have built : ∀ x ∈ inner.preorder, x.isBuilt = true := fun x hx =>
    (shapely_of_mem ((Node.infix_preorder within).subset ((Node.infix_preorder below).subset hx))).2
  obtain ⟨body, found, block⟩ := Node.exists_block (built inner inner.self_mem_preorder) plain
  have inside := Node.infix_preorder (Node.mem_preorder_of_child? found)
  have reached : body ∈ m.root.preorder := (Node.infix_preorder within).subset
    ((Node.infix_preorder below).subset (Node.mem_preorder_of_child? found))
  refine ⟨body, by rw [Definition.body?, undecorated, Option.bind_some, found], reached, ?_⟩
  rw [← Node.docstring?_eq found block fun x hx => built x (inside.subset hx)]
  obtain ⟨kind, inner', name, -, undecorated', -, -, made⟩ := Node.definition?_eq_some defined
  cases undecorated.symm.trans undecorated'
  exact congrArg (·.element.docstring) made

/-- The literal that a statement of a module begins with is a content in quotes. -/
theorem exists_quotes_of_literal? {statement literal : Node m.text}
    (within : statement ∈ m.root.preorder) (h : statement.literal? = some literal) :
    ∃ opening content closing, literal.opening? = some opening ∧
      Quotes literal.source.toList opening content closing := by
  have reached := (Node.infix_preorder within).subset (Node.mem_preorder_of_literal? h)
  refine Node.exists_quotes (m.nested.of_mem reached) ?_
  have built := (shapely_of_mem reached).2
  rw [Node.isBuilt, Node.kind_of_literal? h] at built
  exact built

/-- An element has a docstring exactly if the first statement of its body begins with a string
literal.  That is a content in quotes, which begins behind the first part of the literal.  In
whatever way it is read as one, the docstring is the content without the blank space around it
exactly if the content has no quotes at its ends and does not stand in back quotes. -/
theorem docstrings_exact (m : Module) : ∀ e ∈ m.catalog.elements,
    ∃ d ∈ m.definitions, d.element = e ∧ ∃ body, d.body? = some body ∧
      (e.docstring.isSome = true ↔ ∃ statement literal,
        body.firstStatement? = some statement ∧ statement.literal? = some literal) ∧
      ∀ statement literal,
        body.firstStatement? = some statement → statement.literal? = some literal →
        (∃ opening content closing, literal.opening? = some opening ∧
          Quotes literal.source.toList opening content closing) ∧
        ∀ opening content closing, Quotes literal.source.toList opening content closing →
          (e.docstring = some (String.ofList (trimEnds isBlank content)) ↔
            opening ≠ .back ∧ closing ≠ .back ∧ Unquoted content) := by
  intro e he
  rw [elements_catalog] at he
  obtain ⟨d, hd, rfl⟩ := List.mem_map.1 he
  obtain ⟨body, found, within, value⟩ := exists_body hd
  refine ⟨d, hd, rfl, body, found, ?_, fun statement literal hs hl =>
    ⟨?_, fun opening content closing written => ?_⟩⟩
  · rw [value, Option.isSome_map, Option.isSome_iff_exists]
    simp only [Option.bind_eq_some_iff]
    exact exists_comm
  · have reached := (Node.infix_preorder within).subset (Node.mem_preorder_of_firstStatement? hs)
    exact exists_quotes_of_literal? reached hl
  · rw [value, hs, Option.bind_some, hl, Option.map_some, Option.some_inj, String.ofList_inj]
    exact written.docstringOf_eq

/-- The source of the literal that the body of a definition begins with. -/
def literalSource? {text : List Char} (d : Definition text) : Option String :=
  (d.body?.bind fun body => body.firstStatement?.bind Node.literal?).map Node.source

/-- A decorated function with a comment before its docstring. -/
def commented : String := "@a\ndef f():\n    # c\n    r\"\"\" it's \"\"\"\n"

/-- The literals and the docstrings of some definitions; the first statement of one of them has more
than a literal. -/
theorem computed_docstrings :
    (Module.parse commented).toOption.map (fun m => m.definitions.map literalSource?) =
      some [some "r\"\"\" it's \"\"\""] ∧
    ((Module.parse "def f(): 'a', 'b'").toOption.map fun m =>
        (m.definitions.map fun d => (d.body?.bind Node.firstStatement?).map (·.parts.length),
          m.catalog.elements.map (·.docstring))) = some ([some 3], [some "a"]) ∧
    ((Module.parse "def f(): \"'a'\"").toOption.map fun m =>
        (m.definitions.map literalSource?, m.catalog.elements.map (·.docstring))) =
      some ([some "\"'a'\""], [some "a"]) ∧
    ((Module.parse "def f(): `a`").toOption.map fun m =>
        (m.definitions.map literalSource?, m.catalog.elements.map (·.docstring))) =
      some ([some "`a`"], [some "`a`"]) := by
  decide +kernel

/-- A comment before the literal and quotes inside of it do no harm. -/
theorem docstrings_exact_commented : ∃ m, Module.parse commented = .ok m ∧
    ∃ e ∈ m.catalog.elements, e.docstring = some "it's" := by
  obtain ⟨m, parsed, literals⟩ := exists_of_map_parse computed_docstrings.1
  refine ⟨m, parsed, ?_⟩
  obtain ⟨d, definitions, source⟩ := List.map_eq_singleton_iff.1 literals
  have he : d.element ∈ m.catalog.elements := by simp [elements_catalog, definitions]
  refine ⟨d.element, he, ?_⟩
  obtain ⟨d', hd', -, body, found, -, exact⟩ := m.docstrings_exact d.element he
  obtain rfl : d' = d := by simpa [definitions] using hd'
  rw [literalSource?, found, Option.bind_some] at source
  obtain ⟨literal, first, written⟩ := Option.map_eq_some_iff.1 source
  obtain ⟨statement, hs, hl⟩ := Option.bind_eq_some_iff.1 first
  have quotes : Quotes literal.source.toList .tripleDouble " it's ".toList .tripleDouble := by
    rw [written]
    exact ⟨['r'], List.forall_mem_singleton.2 rfl, by decide⟩
  refine ((exact statement literal hs hl).2 _ _ _ quotes).2 ⟨by decide, by decide, ?_⟩
  unfold Unquoted
  simp [isQuote]

/-- A statement of two literals counts as its first one, a literal in quotes loses them, and back
quotes stay. -/
theorem docstrings_inexact :
    ((Module.parse "def f(): 'a', 'b'").toOption.map fun m =>
        (m.definitions.map fun d => (d.body?.bind Node.firstStatement?).map (·.parts.length),
          m.catalog.elements.map (·.docstring))) = some ([some 3], [some "a"]) ∧
      ((Module.parse "def f(): \"'a'\"").toOption.map fun m =>
        (m.definitions.map literalSource?, m.catalog.elements.map (·.docstring))) =
        some ([some "\"'a'\""], [some "a"]) ∧
      ((Module.parse "def f(): `a`").toOption.map fun m =>
        (m.definitions.map literalSource?, m.catalog.elements.map (·.docstring))) =
        some ([some "`a`"], [some "`a`"]) :=
  computed_docstrings.2

end Module

end CallContext
