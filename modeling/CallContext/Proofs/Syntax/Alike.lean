import CallContext.Analysis.Calls
import CallContext.Proofs.Syntax.Walk
import Mathlib.Data.List.Forall2

/-!
# Trees of the same shape and text

Two nodes, maybe of different texts, are `Alike` if their trees have the same kinds, fields and
texts.  The analysis reads nothing else: alike nodes have the same tag, name, docstring and call
targets, wherever they stand.
-/

namespace CallContext

namespace Node

variable {text text' : List Char}

mutual

/-- The trees have the same kinds, fields and texts. -/
def Alike : Node text → Node text' → Prop
  | mk kind field start stop _ _ children, mk kind' field' start' stop' _ _ children' =>
    kind = kind' ∧ field = field' ∧ start.between stop = start'.between stop' ∧
      AllAlike children children'

/-- The trees of two lists are alike, one by one. -/
def AllAlike : List (Node text) → List (Node text') → Prop
  | [], [] => True
  | n :: ns, n' :: ns' => Alike n n' ∧ AllAlike ns ns'
  | [], _ :: _ => False
  | _ :: _, [] => False

end

mutual

/-- Whether two trees are alike can be computed. -/
def decideAlike : (n : Node text) → (n' : Node text') → Decidable (n.Alike n')
  | mk _ _ _ _ _ _ children, mk _ _ _ _ _ _ children' =>
    have := decideAllAlike children children'
    inferInstanceAs (Decidable (_ ∧ _ ∧ _ ∧ _))

/-- Whether the trees of two lists are alike can be computed. -/
def decideAllAlike : (ns : List (Node text)) → (ns' : List (Node text')) →
    Decidable (AllAlike ns ns')
  | [], [] => isTrue trivial
  | n :: ns, n' :: ns' =>
    have := decideAlike n n'
    have := decideAllAlike ns ns'
    inferInstanceAs (Decidable (_ ∧ _))
  | [], _ :: _ => isFalse id
  | _ :: _, [] => isFalse id

end

instance (ns : List (Node text)) (ns' : List (Node text')) : Decidable (AllAlike ns ns') :=
  decideAllAlike ns ns'

theorem allAlike_iff {ns : List (Node text)} {ns' : List (Node text')} :
    AllAlike ns ns' ↔ List.Forall₂ Alike ns ns' := by
  induction ns generalizing ns' with
  | nil => cases ns' <;> simp [AllAlike]
  | cons n ns ih => cases ns' <;> simp [AllAlike, ih]

theorem allAlike_singleton {n : Node text} {ns' : List (Node text')} :
    AllAlike [n] ns' ↔ ∃ n', ns' = [n'] ∧ n.Alike n' := by
  rw [allAlike_iff, List.forall₂_cons_left_iff]
  simp [and_comm]

section

variable {n : Node text} {n' : Node text'}

theorem Alike.kind_eq (h : n.Alike n') : n.kind = n'.kind := by
  cases n
  cases n'
  exact h.1

theorem Alike.field_eq (h : n.Alike n') : n.field = n'.field := by
  cases n
  cases n'
  exact h.2.1

theorem Alike.source_eq (h : n.Alike n') : n.source = n'.source := by
  cases n
  cases n'
  exact h.2.2.1

theorem Alike.children (h : n.Alike n') : List.Forall₂ Alike n.children n'.children := by
  cases n
  cases n'
  exact allAlike_iff.1 h.2.2.2

end

mutual

theorem Alike.tag_eq : ∀ {n : Node text} {n' : Node text'}, n.Alike n' → n.tag = n'.tag
  | mk .., mk .., ⟨rfl, _, _, children⟩ => by
    rw [tag, tag, AllAlike.tagOfDefinition_eq children]

theorem AllAlike.tagOfDefinition_eq : ∀ {ns : List (Node text)} {ns' : List (Node text')},
    AllAlike ns ns' → tagOfDefinition ns = tagOfDefinition ns'
  | [], [], _ => rfl
  | _ :: _, _ :: _, ⟨first, others⟩ => by
    rw [tagOfDefinition, tagOfDefinition, first.field_eq, Alike.tag_eq first,
      AllAlike.tagOfDefinition_eq others]

end

/-! ### Children -/

theorem rel_find? {ns : List (Node text)} {ns' : List (Node text')}
    (h : List.Forall₂ Alike ns ns') {p : Node text → Bool} {p' : Node text' → Bool}
    (hp : ∀ n n', n.Alike n' → p n = p' n') :
    Option.Rel Alike (ns.find? p) (ns'.find? p') := by
  induction h with
  | nil => exact .none
  | cons first _ ih =>
    rw [List.find?_cons, List.find?_cons, hp _ _ first]
    split
    · exact .some first
    · exact ih

theorem Alike.child? {n : Node text} {n' : Node text'} (h : n.Alike n') (field : Field) :
    Option.Rel Alike (n.child? field) (n'.child? field) :=
  rel_find? h.children fun _ _ alike => by rw [alike.field_eq]

theorem Alike.namedChildren {n : Node text} {n' : Node text'} (h : n.Alike n') :
    List.Forall₂ Alike n.namedChildren n'.namedChildren :=
  List.rel_filter (fun _ _ alike => by dsimp only; rw [alike.kind_eq]) h.children

theorem map_source_eq {o : Option (Node text)} {o' : Option (Node text')}
    (h : Option.Rel Alike o o') : o.map source = o'.map source := by
  cases h with
  | some alike => exact congrArg some alike.source_eq
  | none => rfl

theorem Alike.undecorated? {n : Node text} {n' : Node text'} (h : n.Alike n') :
    Option.Rel Alike n.undecorated? n'.undecorated? := by
  unfold Node.undecorated?
  rw [h.kind_eq]
  split
  · exact h.child? _
  · exact .some h

/-! ### What the analysis reads -/

theorem Alike.docstring?_eq {n : Node text} {n' : Node text'} (h : n.Alike n') :
    n.docstring? = n'.docstring? := by
  unfold docstring?
  match n.child? .body, n'.child? .body, h.child? .body with
  | none, none, _ => rfl
  | some body, some body', .some alike =>
    dsimp only
    match body.namedChildren, body'.namedChildren, alike.namedChildren with
    | [], [], _ => rfl
    | statement :: _, statement' :: _, .cons first _ =>
      dsimp only
      rw [first.kind_eq]
      match statement.children, statement'.children, first.children with
      | [], [], _ => rfl
      | string :: _, string' :: _, .cons literal _ =>
        dsimp only
        rw [literal.kind_eq, literal.source_eq]

theorem Alike.callTarget?_eq {n : Node text} {n' : Node text'} (h : n.Alike n') :
    n.callTarget? = n'.callTarget? := by
  unfold callTarget?
  match n.child? .callee, n'.child? .callee, h.child? .callee with
  | none, none, _ => rfl
  | some callee, some callee', .some alike =>
    simp only [alike.kind_eq, alike.source_eq, map_source_eq (alike.child? .attribute)]

mutual

theorem Alike.preorder : ∀ {n : Node text} {n' : Node text'}, n.Alike n' →
    List.Forall₂ Alike n.preorder n'.preorder
  | mk .., mk .., alike => .cons alike (AllAlike.preorderAll alike.2.2.2)

theorem AllAlike.preorderAll : ∀ {ns : List (Node text)} {ns' : List (Node text')},
    AllAlike ns ns' → List.Forall₂ Alike (preorderAll ns) (preorderAll ns')
  | [], [], _ => .nil
  | _ :: _, _ :: _, ⟨first, others⟩ =>
    List.rel_append (Alike.preorder first) (AllAlike.preorderAll others)

end

theorem filterMap_callTarget?_eq {ns : List (Node text)} {ns' : List (Node text')}
    (h : List.Forall₂ Alike ns ns') : ns.filterMap callTarget? = ns'.filterMap callTarget? := by
  induction h with
  | nil => rfl
  | cons first _ ih => rw [List.filterMap_cons, List.filterMap_cons, first.callTarget?_eq, ih]

/-- Alike nodes call the same names in the same order. -/
theorem Alike.callTargets_eq {n : Node text} {n' : Node text'} (h : n.Alike n') :
    n.callTargets = n'.callTargets := by
  rw [callTargets, callTargets, walk_eq_preorder, walk_eq_preorder]
  exact filterMap_callTarget?_eq
    (List.rel_filter (fun _ _ alike => by dsimp only; rw [alike.tag_eq]) h.preorder)

end Node

end CallContext
