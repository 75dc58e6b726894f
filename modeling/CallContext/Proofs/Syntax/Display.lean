import CallContext.Proofs.Parsing.LawfulRun
import CallContext.Proofs.Syntax.Walk
import Mathlib.Data.List.Forall2

/-!
# How subtrees are displayed

A subtree that is shown becomes one node (`Node.display`), and a hidden one is replaced by the nodes
of its children.  Without what may stand anywhere, the parts of a node are therefore put together
from the `pieces` of the children that the grammar asks for, one after the other
(`Node.parts_display_of_conforms`).  What the children of a subtree are that conforms to the grammar
is known from the sides of reductions (`Subtree.Conforms.sides`).
-/

namespace CallContext

variable {text : List Char}

namespace Subtree

/-- What holds of a subtree if it holds of its children holds of all subtrees. -/
theorem induct {P : Subtree text → Prop} (step : ∀ t, (∀ u ∈ t.children, P u) → P t) :
    ∀ t, P t
  | leaf .. => step _ (by simp [children])
  | missing .. => step _ (by simp [children])
  | node _ _ _ _ cs => step _ fun u (hu : u ∈ cs) =>
    have : sizeOf u < sizeOf cs := List.sizeOf_lt_of_mem hu
    induct step u

namespace Conforms

variable {t : Subtree text}

theorem children (h : t.Conforms) : ∀ u ∈ t.children, u.Conforms := by
  cases t with
  | leaf => simp [Subtree.children]
  | missing => simp [Subtree.children]
  | node => exact conformAll_iff.1 h.2.2

/-- A subtree is an extra exactly if its symbol says so. -/
theorem isExtra_iff (h : t.Conforms) :
    t.isExtra = true ↔ t.symbol = Symbol.comment ∨ t.symbol = Symbol.lineContinuation := by
  cases t with
  | leaf => exact h.2.2
  | missing => exact h.elim
  | node symbol labels extra tally children =>
    obtain ⟨rfl, ⟨⟨r, rfl, -, admitted⟩, -, -⟩, -⟩ := h
    simp only [Reduction.admits, Bool.and_eq_true, decide_eq_true_eq] at admitted
    have nonterminal : r.result ≠ Symbol.comment ∧ r.result ≠ Symbol.lineContinuation := by
      constructor <;> intro same <;> rw [same] at admitted <;>
        exact absurd admitted.1.1 (by decide)
    simp [isExtra, symbol, nonterminal]

/-- A terminal is a leaf. -/
theorem leaf_of_terminal (h : t.Conforms) (terminal : t.symbol.code < Symbol.terminalCount) :
    ∃ token extra, t = leaf token extra ∧ token.Spelled := by
  cases t with
  | leaf token extra => exact ⟨token, extra, rfl, h.1⟩
  | missing => exact h.elim
  | node symbol labels extra tally children =>
    obtain ⟨-, ⟨⟨r, rfl, -, admitted⟩, -, -⟩, -⟩ := h
    simp only [Reduction.admits, Bool.and_eq_true, decide_eq_true_eq] at admitted
    exact absurd terminal (Nat.not_lt.2 admitted.1.1)

theorem children_of_terminal (h : t.Conforms) (terminal : t.symbol.code < Symbol.terminalCount) :
    t.children = [] := by
  obtain ⟨token, extra, rfl, -⟩ := h.leaf_of_terminal terminal
  rfl

end Conforms

theorem mem_of_mem_solid {ts : List (Subtree text)} {t : Subtree text} (h : t ∈ solid ts) :
    t ∈ ts ∧ t.isExtra = false := by
  simpa [solid] using h

/-- The subtree conforms to the grammar and is a part of a larger one. -/
structure Proper (t : Subtree text) : Prop where
  conforms : t.Conforms
  solid : t.isExtra = false

theorem Conforms.proper {t : Subtree text} (h : t.Conforms) : ∀ u ∈ solid t.children, u.Proper :=
  fun u hu =>
    have ⟨member, solid⟩ := mem_of_mem_solid hu
    ⟨h.children u member, solid⟩

/-- The subtrees have symbols of the sets, one by one. -/
def Suits (side : List SymbolSet) (ts : List (Subtree text)) : Prop :=
  List.Forall₂ (fun set t => t.Proper ∧ set.has t.symbol = true) side ts

theorem suits_of_fits {side : List SymbolSet} {ts : List (Subtree text)}
    (proper : ∀ t ∈ ts, t.Proper) (h : SymbolSet.fits side (ts.map symbol) = true) :
    Suits side ts := by
  induction side generalizing ts with
  | nil =>
    cases ts with
    | nil => exact .nil
    | cons t ts => cases h
  | cons set side ih =>
    cases ts with
    | nil => cases h
    | cons t ts =>
      rw [List.map_cons, SymbolSet.fits, Bool.and_eq_true] at h
      obtain ⟨first, rest⟩ := List.forall_mem_cons.1 proper
      exact .cons ⟨first, h.1⟩ (ih rest h.2)

theorem Suits.of_getElem? {side : List SymbolSet} {ts : List (Subtree text)} (h : Suits side ts)
    {i : Nat} {t : Subtree text} (ht : ts[i]? = some t) :
    ∃ set, side[i]? = some set ∧ t.Proper ∧ set.has t.symbol = true := by
  induction h generalizing i with
  | nil => cases ht
  | cons first _ ih =>
    cases i with
    | zero =>
      cases ht
      exact ⟨_, rfl, first⟩
    | succ i => exact ih ht

/-- The children of a nonterminal are what the labels of the reduction that made it ask for, and one
of its sides. -/
theorem Conforms.sides {t : Subtree text} (h : t.Conforms)
    (nonterminal : Symbol.terminalCount ≤ t.symbol.code) :
    ∃ r : Reduction, r.result = t.symbol ∧ r.labels = t.labels ∧
      Suits r.labelledSide (solid t.children) ∧
      ∀ sides ∈ r.sides, ∃ side ∈ sides, Suits side (solid t.children) := by
  have proper := h.proper
  cases t with
  | leaf => exact absurd h.2.1 (Nat.not_lt.2 nonterminal)
  | missing => exact h.elim
  | node symbol labels extra tally children =>
    obtain ⟨-, ⟨⟨r, rfl, rfl, admitted⟩, -, -⟩, -⟩ := h
    simp only [Reduction.admits, Bool.and_eq_true] at admitted
    refine ⟨r, rfl, rfl, suits_of_fits proper admitted.1.2, fun sides hs => ?_⟩
    have fitting := admitted.2
    rw [Option.mem_def.1 hs, Option.all_some, List.any_eq_true] at fitting
    obtain ⟨side, member, fits⟩ := fitting
    exact ⟨side, member, suits_of_fits proper fits⟩

/-- A subtree starts with its first child that is no extra. -/
theorem Conforms.start_eq {t u : Subtree text} (h : t.Conforms)
    (hu : u ∈ (solid t.children).head?) : t.start = u.start := by
  cases t with
  | leaf => cases hu
  | missing => cases hu
  | node symbol labels extra tally children =>
    obtain ⟨-, made, -⟩ := h
    cases children with
    | nil => cases hu
    | cons first rest =>
      obtain ⟨solid, start⟩ := made.first first rfl
      change u ∈ (Subtree.solid (first :: rest)).head? at hu
      rw [solid_cons_of_solid solid] at hu
      cases hu
      exact start.symm

/-- A subtree ends with its last child that is no extra. -/
theorem Conforms.stop_eq {t u : Subtree text} (h : t.Conforms)
    (hu : u ∈ (solid t.children).getLast?) : t.stop = u.stop := by
  cases t with
  | leaf => cases hu
  | missing => cases hu
  | node symbol labels extra tally children =>
    obtain ⟨-, made, -⟩ := h
    rcases List.eq_nil_or_concat children with rfl | ⟨before, last, rfl⟩
    · cases hu
    · obtain ⟨solid, stop⟩ := made.last last (by simp)
      have split : Subtree.solid (before.concat last) = Subtree.solid before ++ [last] := by
        rw [List.concat_eq_append, solid_append, solid_cons_of_solid solid]
        rfl
      rw [Subtree.children, split, List.getLast?_concat] at hu
      cases hu
      exact stop.symm

/-- What is known of the children of a nonterminal whose reductions all have one labelling. -/
theorem Conforms.suits {t : Subtree text} (h : t.Conforms) {code : Nat}
    (symbol : t.symbol = ⟨code⟩) (nonterminal : Symbol.terminalCount ≤ code) (labelling : Nat)
    (sides : Reduction → List (List SymbolSet))
    (known : ∀ r : Reduction, r.result = ⟨code⟩ →
      r.sides = some (if r.labelling = labelling then sides r else [])) :
    t.labels = Labels.table.getD labelling Labels.none ∧
      ∃ r, ∃ side ∈ sides r, Suits side (solid t.children) := by
  obtain ⟨r, result, labels, -, suits⟩ := h.sides (by rw [symbol]; exact nonterminal)
  obtain ⟨side, member, suit⟩ := suits _ (known r (result.trans symbol))
  split at member
  · next same =>
    rw [← labels, Reduction.labels, same]
    exact ⟨rfl, r, side, member, suit⟩
  · exact absurd member List.not_mem_nil

theorem suits_cons {set : SymbolSet} {side : List SymbolSet} {ts : List (Subtree text)}
    (h : Suits (set :: side) ts) :
    ∃ t us, ts = t :: us ∧ t.Proper ∧ set.has t.symbol = true ∧ Suits side us := by
  cases h with
  | cons first rest => exact ⟨_, _, rfl, first.1, first.2, rest⟩

theorem suits_nil {ts : List (Subtree text)} (h : Suits [] ts) : ts = [] := by
  cases h
  rfl

theorem suits_one {a : SymbolSet} {ts : List (Subtree text)} (h : Suits [a] ts) :
    ∃ t, ts = [t] ∧ t.Proper ∧ a.has t.symbol = true := by
  obtain ⟨t, _, rfl, ht, has, rest⟩ := suits_cons h
  obtain rfl := suits_nil rest
  exact ⟨t, rfl, ht, has⟩

theorem suits_two {a b : SymbolSet} {ts : List (Subtree text)} (h : Suits [a, b] ts) :
    ∃ t u, ts = [t, u] ∧ (t.Proper ∧ a.has t.symbol = true) ∧
      u.Proper ∧ b.has u.symbol = true := by
  obtain ⟨t, _, rfl, ht, has, rest⟩ := suits_cons h
  obtain ⟨u, rfl, second⟩ := suits_one rest
  exact ⟨t, u, rfl, ⟨ht, has⟩, second⟩

theorem suits_three {a b c : SymbolSet} {ts : List (Subtree text)} (h : Suits [a, b, c] ts) :
    ∃ t u v, ts = [t, u, v] ∧ (t.Proper ∧ a.has t.symbol = true) ∧
      (u.Proper ∧ b.has u.symbol = true) ∧ v.Proper ∧ c.has v.symbol = true := by
  obtain ⟨t, _, rfl, ht, has, rest⟩ := suits_cons h
  obtain ⟨u, v, rfl, second, third⟩ := suits_two rest
  exact ⟨t, u, v, rfl, ⟨ht, has⟩, second, third⟩

end Subtree

/-! ### Kinds that parents give -/

/-- What holds of all labels in the table, and of no labels, holds of the labels of a reduction. -/
theorem Reduction.labels_of_table {p : Labels → Bool} (empty : p Labels.none = true)
    (all : Labels.table.all p = true) (r : Reduction) : p r.labels = true := by
  rw [Reduction.labels, List.getD_eq_getElem?_getD]
  cases found : Labels.table[r.labelling]? with
  | none => exact empty
  | some labels => exact List.all_eq_true.1 all labels (List.mem_of_getElem? found)

/-- Labels give few kinds. -/
theorem Reduction.kind_of_kindAt {r : Reduction} {i : Nat} {k : Symbol}
    (h : r.labels.kindAt i = some k) :
    k = Symbol.identifier ∨ k = Symbol.block ∨ k.code ∈ [149, 224, 270, 271, 272, 273] := by
  have all := Reduction.labels_of_table (p := fun labels => labels.kinds.all fun k =>
    k.2 = Symbol.identifier || k.2 = Symbol.block ||
      [149, 224, 270, 271, 272, 273].contains k.2.code) rfl (by decide) r
  obtain ⟨front, back, split, -⟩ := List.lookup_eq_some_iff.1 h
  have known := List.all_eq_true.1 all (i, k) (by simp [split])
  simpa [or_assoc] using known

namespace Subtree

/-- The subtree can be displayed under a kind: keywords as identifiers, statements behind a colon as
a block, and others under kinds that the analysis does not look into. -/
def Displayable (kind : Option Symbol) (t : Subtree text) : Prop :=
  ∀ k ∈ kind, k = Symbol.identifier ∧ SymbolSet.nameKeywords.has t.symbol = true ∨
    k = Symbol.block ∧ SymbolSet.suite.has t.symbol = true ∨
    k.code ∈ [149, 224, 270, 271, 272, 273]

theorem displayable_none (t : Subtree text) : Displayable none t := nofun

/-- Labels only give kinds to children that can be displayed under them. -/
theorem Conforms.displayable {t u : Subtree text} (h : t.Conforms) {i : Nat}
    (hu : (solid t.children)[i]? = some u) : Displayable (t.labels.kindAt i) u := by
  intro k hk
  by_cases terminal : t.symbol.code < Symbol.terminalCount
  · rw [h.children_of_terminal terminal] at hu
    cases hu
  · obtain ⟨r, -, labels, labelled, -⟩ := h.sides (Nat.not_lt.1 terminal)
    rw [← labels] at hk
    obtain ⟨set, hs, -, has⟩ := labelled.of_getElem? hu
    have inside : i < r.arity := by
      have := (List.getElem?_eq_some_iff.1 hs).1
      simpa [Reduction.labelledSide] using this
    simp only [Reduction.labelledSide, List.getElem?_map, List.getElem?_range inside,
      Option.map_some, Option.some.injEq, Option.mem_def.1 hk] at hs
    rcases Reduction.kind_of_kindAt hk with rfl | rfl | other
    · refine .inl ⟨rfl, ?_⟩
      rwa [← hs, if_pos rfl] at has
    · refine .inr (.inl ⟨rfl, ?_⟩)
      rwa [← hs, if_neg (by decide), if_pos rfl] at has
    · exact .inr (.inr other)

end Subtree

namespace Node

open Subtree

/-- The node of a subtree that is shown. -/
def display (kind : Option Symbol) (field : Option Field) : Subtree text → Node text
  | .leaf token _ => mk (kind.getD token.symbol) field token.start token.stop false false []
  | .missing symbol place => mk (kind.getD symbol) field place place true true []
  | .node symbol labels _ tally children =>
    mk (kind.getD symbol) field tally.start tally.stop false (0 < tally.cost)
      (ofSubtrees labels none 0 children [])

section Display

variable (kind : Option Symbol) (field : Option Field) (t : Subtree text)

@[simp] theorem kind_display : (display kind field t).kind = kind.getD t.symbol := by
  cases t <;> rfl

@[simp] theorem field_display : (display kind field t).field = field := by
  cases t <;> rfl

@[simp] theorem start_display : (display kind field t).start = t.start := by
  cases t <;> rfl

@[simp] theorem stop_display : (display kind field t).stop = t.stop := by
  cases t <;> rfl

theorem children_display :
    (display kind field t).children = ofSubtrees t.labels none 0 t.children [] := by
  cases t <;> rfl

theorem ofSubtree_eq (after : List (Node text)) :
    ofSubtree kind field t after =
      if kind.isSome || t.symbol.shown then display kind field t :: after
      else ofSubtrees t.labels field 0 t.children after := by
  cases kind with
  | some => cases t <;> rfl
  | none =>
    cases shown : t.symbol.shown <;> cases t <;> simp_all [ofSubtree, symbol, display] <;> rfl

end Display

/-! ### Nodes one after the other -/

mutual

theorem ofSubtree_append (kind : Option Symbol) (field : Option Field) :
    ∀ (t : Subtree text) (after : List (Node text)),
      ofSubtree kind field t after = ofSubtree kind field t [] ++ after
  | .leaf token extra, after => by
    rw [ofSubtree_eq, ofSubtree_eq]
    split
    · rfl
    · rfl
  | .missing symbol place, after => by
    rw [ofSubtree_eq, ofSubtree_eq]
    split
    · rfl
    · rfl
  | .node symbol labels extra tally children, after => by
    rw [ofSubtree_eq, ofSubtree_eq]
    split
    · rfl
    · exact ofSubtrees_append labels field 0 children after

theorem ofSubtrees_append (labels : Labels) (field : Option Field) :
    ∀ (position : Nat) (ts : List (Subtree text)) (after : List (Node text)),
      ofSubtrees labels field position ts after = ofSubtrees labels field position ts [] ++ after
  | _, [], _ => rfl
  | position, t :: ts, after => by
    unfold ofSubtrees
    split
    · rw [ofSubtree_append, ofSubtree_append _ _ t (ofSubtrees labels field position ts []),
        ofSubtrees_append labels field position ts after, List.append_assoc]
    · rw [ofSubtree_append, ofSubtree_append _ _ t (ofSubtrees labels field (position + 1) ts []),
        ofSubtrees_append labels field (position + 1) ts after, List.append_assoc]

end

/-- What holds of the nodes of all children holds of the nodes that stand for them. -/
theorem forall_mem_ofSubtrees {P : Node text → Prop} {labels : Labels} {field : Option Field}
    {ts : List (Subtree text)} {position : Nat}
    (extras : ∀ t ∈ ts, t.isExtra = true → ∀ n ∈ ofSubtree none none t [], P n)
    (others : ∀ i t, (solid ts)[i]? = some t →
      ∀ n ∈ ofSubtree (labels.kindAt (position + i)) (labels.fieldAt (position + i) <|> field) t [],
        P n) :
    ∀ n ∈ ofSubtrees labels field position ts [], P n := by
  induction ts generalizing position with
  | nil => exact fun n hn => nomatch hn
  | cons t ts ih =>
    obtain ⟨first, rest⟩ := List.forall_mem_cons.1 extras
    unfold ofSubtrees
    split
    · next extra =>
      rw [ofSubtree_append]
      rw [solid_cons_of_extra extra] at others
      exact List.forall_mem_append.2 ⟨first extra, ih rest others⟩
    · next solid =>
      rw [ofSubtree_append]
      rw [solid_cons_of_solid (by simpa using solid)] at others
      refine List.forall_mem_append.2 ⟨others 0 t rfl, ih rest fun i u hu => ?_⟩
      have := others (i + 1) u hu
      rwa [← Nat.add_assoc, Nat.add_right_comm] at this

/-- The nodes of a child stand among those of all children. -/
theorem mem_ofSubtrees {labels : Labels} {field : Option Field} {ts : List (Subtree text)}
    {position i : Nat} {t : Subtree text} (ht : (solid ts)[i]? = some t) {n : Node text}
    (hn : n ∈ ofSubtree (labels.kindAt (position + i)) (labels.fieldAt (position + i) <|> field)
      t []) : n ∈ ofSubtrees labels field position ts [] := by
  induction ts generalizing position i with
  | nil => cases ht
  | cons u ts ih =>
    unfold ofSubtrees
    split
    · next extra =>
      rw [solid_cons_of_extra extra] at ht
      rw [ofSubtree_append]
      exact List.mem_append_right _ (ih ht hn)
    · next solid =>
      rw [solid_cons_of_solid (by simpa using solid)] at ht
      rw [ofSubtree_append]
      cases i with
      | zero =>
        cases ht
        exact List.mem_append_left _ hn
      | succ i =>
        refine List.mem_append_right _ (ih ht ?_)
        rwa [Nat.add_right_comm, Nat.add_assoc]

/-! ### Pieces -/

/-- The nodes of a subtree without what may stand anywhere. -/
def pieces (kind : Option Symbol) (field : Option Field) (t : Subtree text) : List (Node text) :=
  (ofSubtree kind field t []).filter (!·.isExtra)

/-- The nodes of several subtrees without what may stand anywhere. -/
def piecesAll (labels : Labels) (field : Option Field) (position : Nat)
    (ts : List (Subtree text)) : List (Node text) :=
  (ofSubtrees labels field position ts []).filter (!·.isExtra)

theorem parts_display (kind : Option Symbol) (field : Option Field) (t : Subtree text) :
    (display kind field t).parts = piecesAll t.labels none 0 t.children := by
  rw [parts, children_display]
  rfl

@[simp] theorem piecesAll_nil (labels : Labels) (field : Option Field) (position : Nat) :
    piecesAll labels field position ([] : List (Subtree text)) = [] :=
  rfl

theorem piecesAll_cons {t : Subtree text} (solid : t.isExtra = false) (labels : Labels)
    (field : Option Field) (position : Nat) (ts : List (Subtree text)) :
    piecesAll labels field position (t :: ts) =
      pieces (labels.kindAt position) (labels.fieldAt position <|> field) t ++
        piecesAll labels field (position + 1) ts := by
  rw [piecesAll, ofSubtrees, if_neg (by simp [solid]), ofSubtree_append, List.filter_append]
  rfl

/-- A subtree that may stand anywhere becomes a node that may stand anywhere. -/
theorem isExtra_of_mem {t : Subtree text} (h : t.Conforms) (extra : t.isExtra = true) :
    ∀ n ∈ ofSubtree none none t [], n.isExtra = true ∧ n.field = none := by
  rw [ofSubtree_eq]
  have symbol := h.isExtra_iff.1 extra
  have shown : t.symbol.shown = true := by
    rcases symbol with symbol | symbol <;> rw [symbol] <;> decide
  rw [if_pos (by simp [shown]), List.forall_mem_singleton]
  simpa [isExtra] using symbol

/-- Extras are no pieces. -/
theorem piecesAll_solid {ts : List (Subtree text)} (h : ∀ t ∈ ts, t.Conforms) (labels : Labels)
    (field : Option Field) (position : Nat) :
    piecesAll labels field position ts = piecesAll labels field position (solid ts) := by
  induction ts generalizing position with
  | nil => rfl
  | cons t ts ih =>
    obtain ⟨first, rest⟩ := List.forall_mem_cons.1 h
    cases extra : t.isExtra with
    | true =>
      have none : (ofSubtree none none t []).filter (!·.isExtra) = [] :=
        List.filter_eq_nil_iff.2 fun n hn => by simp [(isExtra_of_mem first extra n hn).1]
      rw [solid_cons_of_extra extra, ← ih rest, piecesAll, ofSubtrees, if_pos extra,
        ofSubtree_append, List.filter_append, none]
      rfl
    | false =>
      rw [solid_cons_of_solid extra, piecesAll_cons extra, piecesAll_cons extra, ih rest]

/-- What stands for a part of a larger subtree may not stand anywhere. -/
theorem isExtra_display {t : Subtree text} (h : t.Proper) {kind : Option Symbol}
    (displayable : Displayable kind t) (field : Option Field) :
    (display kind field t).isExtra = false := by
  cases kind with
  | none =>
    have := mt h.conforms.isExtra_iff.2 (by simp [h.solid])
    simpa [isExtra] using this
  | some k =>
    have other : k ≠ Symbol.comment ∧ k ≠ Symbol.lineContinuation := by
      rcases displayable k rfl with ⟨rfl, -⟩ | ⟨rfl, -⟩ | other
      · decide
      · decide
      · constructor <;> rintro rfl <;> exact absurd other (by decide)
    simpa [isExtra] using other

/-- What may stand anywhere plays no field. -/
theorem field_of_isExtra : ∀ {t : Subtree text}, t.Proper → ∀ {kind : Option Symbol},
    Displayable kind t → ∀ {field : Option Field},
      ∀ n ∈ ofSubtree kind field t [], n.isExtra = true → n.field = none := by
  refine @induct _ _ fun t ih h kind displayable field => ?_
  rw [ofSubtree_eq]
  split
  · rw [List.forall_mem_singleton, isExtra_display h displayable field]
    exact fun extra => nomatch extra
  · refine forall_mem_ofSubtrees (fun u hu extra n hn _ => ?_) fun i u hu n hn => ?_
    · exact (isExtra_of_mem (h.conforms.children u hu) extra n hn).2
    · have member := List.mem_of_getElem? hu
      rw [Nat.zero_add] at hn
      exact ih u (mem_of_mem_solid member).1 (h.conforms.proper u member)
        (h.conforms.displayable hu) n hn

theorem hasPlainExtras_display {t : Subtree text} (h : t.Conforms) (kind : Option Symbol)
    (field : Option Field) : (display kind field t).hasPlainExtras = true := by
  rw [hasPlainExtras, children_display, List.all_eq_true]
  have plain : ∀ n ∈ ofSubtrees t.labels none 0 t.children [],
      n.isExtra = true → n.field = none := by
    refine forall_mem_ofSubtrees (fun u hu extra n hn _ => ?_) fun i u hu n hn => ?_
    · exact (isExtra_of_mem (h.children u hu) extra n hn).2
    · rw [Nat.zero_add] at hn
      exact field_of_isExtra (h.proper u (List.mem_of_getElem? hu)) (h.displayable hu) n hn
  intro n hn
  cases extra : n.isExtra with
  | false => rfl
  | true => simp [plain n hn extra]

/-- The one piece of a subtree that is shown. -/
theorem pieces_of_displayed {t : Subtree text} (h : t.Proper) {kind : Option Symbol}
    (displayable : Displayable kind t) (shown : (kind.isSome || t.symbol.shown) = true)
    (field : Option Field) : pieces kind field t = [display kind field t] := by
  rw [pieces, ofSubtree_eq, if_pos shown,
    List.filter_cons_of_pos (by simp [isExtra_display h displayable field])]
  rfl

theorem pieces_of_shown {t : Subtree text} (h : t.Proper) (shown : t.symbol.shown = true)
    (field : Option Field) : pieces none field t = [display none field t] :=
  pieces_of_displayed h (displayable_none t) (by simp [shown]) field

/-- The pieces of a hidden subtree are those of its children. -/
theorem pieces_of_hidden {t : Subtree text} (h : t.Conforms) (hidden : t.symbol.shown = false)
    (field : Option Field) :
    pieces none field t = piecesAll t.labels field 0 (solid t.children) := by
  rw [← piecesAll_solid h.children, pieces, ofSubtree_eq, if_neg (by simp [hidden])]
  rfl

/-- The pieces of a hidden subtree that has two children and gives them no labels. -/
theorem pieces_of_pair {t a b : Subtree text} (h : t.Conforms) (hidden : t.symbol.shown = false)
    (labels : t.labels = Labels.none) (ha : a.Proper) (hb : b.Proper)
    (children : solid t.children = [a, b]) :
    pieces none none t = pieces none none a ++ pieces none none b := by
  rw [pieces_of_hidden h hidden, labels, children, piecesAll_cons ha.solid,
    piecesAll_cons hb.solid, piecesAll_nil, List.append_nil]
  rfl

/-- A child that is shown under no other kind is one piece. -/
theorem piecesAll_cons_of_shown {t : Subtree text} (h : t.Proper) (shown : t.symbol.shown = true)
    {labels : Labels} {position : Nat} (plain : labels.kindAt position = none)
    (ts : List (Subtree text)) :
    piecesAll labels none position (t :: ts) =
      display none (labels.fieldAt position) t :: piecesAll labels none (position + 1) ts := by
  have field : (labels.fieldAt position <|> none) = labels.fieldAt position := by
    cases labels.fieldAt position <;> rfl
  rw [piecesAll_cons h.solid, plain, field, pieces_of_shown h shown]
  rfl

theorem parts_display_of_conforms {t : Subtree text} (h : t.Conforms) (kind : Option Symbol)
    (field : Option Field) :
    (display kind field t).parts = piecesAll t.labels none 0 (solid t.children) := by
  rw [parts_display, piecesAll_solid h.children]

end Node

end CallContext
