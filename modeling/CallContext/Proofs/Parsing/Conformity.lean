import CallContext.Proofs.Grammar.Past
import CallContext.Proofs.Parsing.Order
import CallContext.Proofs.Syntax.Form

/-!
# Subtrees that conform to the grammar

A subtree conforms to the grammar if each of its nodes was made by a reduction out of one of the
sides of that reduction, with nothing but comments and line continuations in between, and if its
tokens are spelled as their symbols say (`Subtree.Conforms`).

A node does not pay for skipped text that it has as a child, so that it has to be known from the
automaton that there is none.  `Subtree.Walk` says what the automaton knows about the subtrees
between two of its states, and `Machine.conforms_subtree` that what a reduction makes of them
conforms to the grammar if it costs nothing.  Below subtrees that do cost, `Subtree.Closed` says the
same of all that is not inside of an error.
-/

namespace CallContext

variable {text : List Char}

/-- The text of a token is what its symbol says. -/
structure Token.Spelled (token : Token text) : Prop where
  word : token.symbol = Symbol.identifier ∨ Lexeme.isKeyword token.symbol = true →
    Identifier.isWord (token.start.between token.stop) = true
  dot : token.symbol = Symbol.dot → token.start.between token.stop = "."
  opens : token.symbol = Symbol.stringStart →
    StringLiteral.opens (token.start.between token.stop) = true
  closes : token.symbol = Symbol.stringEnd →
    StringLiteral.closes (token.start.between token.stop) = true

/-- The symbols of extras, which may stand anywhere. -/
def Symbol.isLoose (s : Symbol) : Bool := s = comment || s = lineContinuation || s = error

namespace Subtree

/-- The subtrees that are no extras. -/
def solid (ts : List (Subtree text)) : List (Subtree text) := ts.filter (!·.isExtra)

/-- The symbols of the subtrees that are no extras. -/
def symbols (ts : List (Subtree text)) : List Symbol := (solid ts).map symbol

theorem solid_cons_of_extra {t : Subtree text} (h : t.isExtra = true) (ts : List (Subtree text)) :
    solid (t :: ts) = solid ts :=
  List.filter_cons_of_neg (by simp [h])

theorem solid_cons_of_solid {t : Subtree text} (h : t.isExtra = false)
    (ts : List (Subtree text)) : solid (t :: ts) = t :: solid ts :=
  List.filter_cons_of_pos (by simp [h])

theorem solid_append (front back : List (Subtree text)) :
    solid (front ++ back) = solid front ++ solid back :=
  List.filter_append ..

theorem solid_of_extras {ts : List (Subtree text)} (h : ∀ t ∈ ts, t.isExtra = true) :
    solid ts = [] :=
  List.filter_eq_nil_iff.2 fun t ht => by simp [h t ht]

/-- How a node is made of its children: by a reduction, with a child at its start and at its end
that is no extra. -/
structure Made (symbol : Symbol) (labels : Labels) (tally : Tally text)
    (children : List (Subtree text)) : Prop where
  admitted : ∃ r : Reduction, r.result = symbol ∧ r.labels = labels ∧
    r.admits (symbols children) = true
  first : ∀ t ∈ children.head?, t.isExtra = false ∧ t.start = tally.start
  last : ∀ t ∈ children.getLast?, t.isExtra = false ∧ t.stop = tally.stop

mutual

/-- The subtree was made as the grammar says. -/
def Conforms : Subtree text → Prop
  | leaf token extra =>
    token.Spelled ∧ token.symbol.code < Symbol.terminalCount ∧
      (extra = true ↔ token.symbol = Symbol.comment ∨ token.symbol = Symbol.lineContinuation)
  | missing .. => False
  | node symbol labels extra tally children =>
    extra = false ∧ Made symbol labels tally children ∧ ConformAll children

/-- All subtrees were made as the grammar says. -/
def ConformAll : List (Subtree text) → Prop
  | [] => True
  | t :: ts => t.Conforms ∧ ConformAll ts

end

theorem conformAll_iff {ts : List (Subtree text)} : ConformAll ts ↔ ∀ t ∈ ts, t.Conforms := by
  induction ts with
  | nil => simp [ConformAll]
  | cons t ts ih => rw [ConformAll, ih, List.forall_mem_cons]

/-! ### Costs -/

/-- A node that has the subtree as a child need not pay for it. -/
def Bearable (t : Subtree text) : Prop := t.symbol = Symbol.skipped ∨ t.cost = 0

theorem cost_foldl_addChild {symbol : Symbol} (sound : symbol.isFault = false) (labels : Labels)
    (children : List (Subtree text)) (sum : Tally text × Nat) :
    (children.foldl (addChild symbol labels) sum).1.cost = 0 ↔
      sum.1.cost = 0 ∧ ∀ t ∈ children, t.Bearable := by
  induction children generalizing sum with
  | nil => simp
  | cons c cs ih =>
    have paid : (addChild symbol labels sum c).1.cost = 0 ↔ sum.1.cost = 0 ∧ c.Bearable := by
      by_cases skipped : c.symbol = Symbol.skipped <;> simp [addChild, sound, skipped, Bearable]
    rw [List.foldl_cons, ih, paid, List.forall_mem_cons, and_assoc]

/-- A node costs nothing if it is no fault and has no child to pay for. -/
theorem cost_build_eq_zero {symbol : Symbol} {labels : Labels} {precedence : Int}
    {place : Cursor text} {children : List (Subtree text)} :
    (build symbol labels precedence place children).cost = 0 ↔
      symbol.isFault = false ∧ ∀ t ∈ children, t.Bearable := by
  change (tally symbol labels precedence place children).cost = 0 ↔ _
  by_cases fault : symbol.isFault = true
  · simp [tally, fault, costs]
  · have sound : symbol.isFault = false := by simpa using fault
    dsimp only [tally]
    rw [if_neg fault, cost_foldl_addChild sound]
    cases children <;> simp [sound]

/-- What a nonterminal costs is a fault of its own or one of its children. -/
def Pays (t : Subtree text) : Prop :=
  Symbol.terminalCount ≤ t.symbol.code → t.symbol.isFault = false →
    (∀ child ∈ t.children, child.Bearable) → t.cost = 0

theorem pays_build (symbol : Symbol) (labels : Labels) (precedence : Int) (place : Cursor text)
    (children : List (Subtree text)) : (build symbol labels precedence place children).Pays :=
  fun _ sound bearable => cost_build_eq_zero.2 ⟨sound, bearable⟩

/-- What is known about a subtree, wherever it stands. -/
structure Known (t : Subtree text) : Prop where
  conforms : t.cost = 0 → t.symbol ≠ Symbol.skipped → t.Conforms
  pays : t.Pays
  skipped : t.symbol = Symbol.skipped → t.isExtra = false
  /-- An error is an extra that ends with something else. -/
  error : t.symbol = Symbol.error → t.isExtra = true ∧ ∃ u ∈ t.children.getLast?, u.isExtra = false
  loose : t.isExtra = true → t.symbol.isLoose = true

/-- No text is skipped in the subtree but inside of errors, and outside of errors all that stands in
it is known. -/
inductive Closed : Subtree text → Prop
  | fault {t : Subtree text} (fault : t.symbol.isFault = true) : Closed t
  | made {t : Subtree text} (labels : ∃ r : Reduction, r.labels = t.labels)
      (known : ∀ u ∈ t.children, u.Known ∧ u.symbol ≠ Symbol.skipped)
      (closed : ∀ u ∈ t.children, Closed u) : Closed t

theorem closed_of_bare {t : Subtree text} (labels : t.labels = Labels.none)
    (bare : t.children = []) : t.Closed := by
  refine .made ⟨⟨t.symbol, 0, 0, 0⟩, labels.symm⟩ ?_ ?_ <;> simp [bare]

/-- What is known about a subtree and about what stands in it. -/
structure Fair (t : Subtree text) : Prop extends Known t where
  closed : t.Closed

/-- What conforms to the grammar is no fault itself. -/
theorem Known.isFault_of_conforms {t : Subtree text} (known : t.Known)
    (unskipped : t.symbol ≠ Symbol.skipped) (h : t.Conforms) : t.symbol.isFault = false := by
  have noError : t.symbol ≠ Symbol.error := by
    intro error
    -- an error is an extra, and no node that conforms to the grammar is one
    have extra := (known.error error).1
    cases t with
    | leaf token => exact Symbol.ne_error h.2.1 error
    | missing => exact h
    | node => exact absurd extra (by simp [isExtra, h.1])
  simp [Symbol.isFault, noError, unskipped]

/-! ### Places -/

theorem stop_foldl_addChild (symbol : Symbol) (labels : Labels) {children : List (Subtree text)}
    (sum : Tally text × Nat) {t : Subtree text} (h : t ∈ children.getLast?) :
    t.stop = (children.foldl (addChild symbol labels) sum).1.stop := by
  induction children generalizing sum with
  | nil => cases h
  | cons c cs ih =>
    cases cs with
    | nil =>
      cases h
      rfl
    | cons d ds =>
      rw [List.getLast?_cons_cons] at h
      exact ih (addChild symbol labels sum c) h

/-- A node starts with its first child and ends with its last. -/
theorem places_tally (symbol : Symbol) (labels : Labels) (precedence : Int) (place : Cursor text)
    (children : List (Subtree text)) :
    (∀ t ∈ children.head?, t.start = (tally symbol labels precedence place children).start) ∧
      ∀ t ∈ children.getLast?, t.stop = (tally symbol labels precedence place children).stop := by
  cases children with
  | nil => simp
  | cons c cs =>
    obtain ⟨start, stop⟩ := tally_places symbol labels precedence place c cs
    refine ⟨fun t h => ?_, fun t h => ?_⟩
    · cases h
      exact start.symm
    · rw [stop]
      exact stop_foldl_addChild symbol labels _ h

/-! ### Extras at the end -/

theorem splitExtras_eq (run : List (Subtree text)) :
    splitExtras run =
      ((run.reverse.dropWhile isExtra).reverse, (run.reverse.takeWhile isExtra).reverse) := by
  have whole : (run.reverse.dropWhile isExtra).reverse ++ (run.reverse.takeWhile isExtra).reverse =
      run := by
    rw [← List.reverse_append, List.takeWhile_append_dropWhile, List.reverse_reverse]
  refine Prod.ext ?_ rfl
  have front := splitExtras_append run
  exact List.append_cancel_right (front.trans whole.symm)

theorem mem_splitExtras {run : List (Subtree text)} {t : Subtree text} :
    t ∈ (splitExtras run).1 ∨ t ∈ (splitExtras run).2 ↔ t ∈ run := by
  rw [← List.mem_append, splitExtras_append]

theorem extra_of_mem_splitExtras {run : List (Subtree text)} {t : Subtree text}
    (h : t ∈ (splitExtras run).2) : t.isExtra = true := by
  rw [splitExtras_eq, List.mem_reverse] at h
  exact List.all_eq_true.1 List.all_takeWhile t h

theorem solid_splitExtras (run : List (Subtree text)) : solid (splitExtras run).1 = solid run := by
  conv => rhs; rw [← splitExtras_append run, solid_append,
    solid_of_extras fun t ht => extra_of_mem_splitExtras ht, List.append_nil]

theorem last_splitExtras {run : List (Subtree text)} {t : Subtree text}
    (h : t ∈ (splitExtras run).1.getLast?) : t.isExtra = false := by
  rw [splitExtras_eq, List.getLast?_reverse] at h
  have := List.head?_dropWhile_not isExtra run.reverse
  rw [h] at this
  simpa using this

/-- The children of a reduction start as the run does. -/
theorem head_splitExtras {run : List (Subtree text)} {t : Subtree text}
    (h : t ∈ (splitExtras run).1.head?) : t ∈ run.head? := by
  rw [← splitExtras_append run, List.head?_append, Option.mem_def.1 h]
  rfl

/-! ### Walks -/

/-- What is known about the subtrees between two states of the automaton, of which `depth` are no
extras. -/
structure Walk (before after depth : Nat) (trees : List (Subtree text)) : Prop where
  before_ne : before ≠ 0
  count : depth = (solid trees).length
  sees : ∀ below, SymbolSet.sees (Automaton.past before) below = true →
    SymbolSet.sees (Automaton.past after) ((symbols trees).reverse ++ below) = true
  unskipped : ∀ t ∈ trees, t.symbol ≠ Symbol.skipped
  fair : ∀ t ∈ trees, t.Fair

namespace Walk

variable {before after depth : Nat} {trees : List (Subtree text)}

theorem sees_symbols (h : Walk before after depth trees) :
    SymbolSet.sees (Automaton.past after) (symbols trees).reverse = true := by
  have seen := h.sees [] (by cases Automaton.past before <;> rfl)
  rwa [List.append_nil] at seen

theorem conforms_of_bearable (h : Walk before after depth trees) {t : Subtree text}
    (ht : t ∈ trees) (bearable : t.Bearable) : t.Conforms :=
  have unskipped := h.unskipped t ht
  (h.fair t ht).conforms (bearable.resolve_left unskipped) unskipped

theorem admits {r : Reduction} (h : Walk before after r.arity trees) {token : Symbol}
    (hr : Act.reduce r ∈ Automaton.acts after token) : r.admits (symbols trees) = true := by
  have admitted := Automaton.admits_of_sees hr h.sees_symbols (by
    rw [List.length_reverse, symbols, List.length_map, h.count])
  rwa [List.reverse_reverse] at admitted

end Walk

end Subtree

namespace Machine

open Subtree

/-- What a reduction makes of the subtrees on the way to its state conforms to the grammar if it
costs nothing. -/
theorem conforms_subtree {before after : Nat} {r : Reduction} {run : List (Subtree text)}
    (walk : Walk before after r.arity run) {token : Symbol}
    (hr : Act.reduce r ∈ Automaton.acts after token)
    (first : ∀ t ∈ run.head?, t.isExtra = false) (place : Cursor text)
    (free : (subtree r place run).1.cost = 0) : (subtree r place run).1.Conforms := by
  change (build r.result r.labels r.precedence place (splitExtras run).1).Conforms
  obtain ⟨-, bearable⟩ := cost_build_eq_zero.1 free
  obtain ⟨start, stop⟩ := places_tally r.result r.labels r.precedence place (splitExtras run).1
  refine ⟨rfl, ⟨⟨r, rfl, rfl, ?_⟩, fun t ht => ?_, fun t ht => ?_⟩, conformAll_iff.2 ?_⟩
  · rw [symbols, solid_splitExtras]
    exact walk.admits hr
  · exact ⟨first t (head_splitExtras ht), start t ht⟩
  · exact ⟨last_splitExtras ht, stop t ht⟩
  · intro t ht
    exact walk.conforms_of_bearable (mem_splitExtras.1 (.inl ht)) (bearable t ht)

end Machine

end CallContext
