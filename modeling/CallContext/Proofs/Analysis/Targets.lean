import CallContext.Proofs.Analysis.Calls
import CallContext.Proofs.Analysis.Redefinitions

/-!
# Targets of calls

What a call calls is an expression.  If that is an identifier, or an access to an attribute, then
the call has a name, `Node.CalledAs`; a value that is computed has none, but calls inside of it
count like all others.  The callees of a node are exactly the names of the calls in its tree, the
own name left out, each at its first occurrence (`Node.callees_exact`).
-/

namespace CallContext

namespace Node

variable {text : List Char}

/-- The names of the calls in the tree of a node, in the order of the text. -/
def targets (n : Node text) : List String :=
  (n.preorder.filter (·.tag = .call)).filterMap callTarget?

theorem callTargets_eq (n : Node text) : n.callTargets = n.targets := by
  rw [callTargets, targets, walk_eq_preorder]

/-- What is called is the identifier of the name, or what stands last in an attribute access is. -/
inductive CalledAs (call : Node text) : String → Prop
  | identifier {callee : Node text} (found : call.child? .callee = some callee)
      (plain : callee.kind = Symbol.identifier) : CalledAs call callee.source
  | attribute {callee last : Node text} (found : call.child? .callee = some callee)
      (access : callee.kind = Symbol.attributeAccess)
      (behind : callee.child? .attribute = some last)
      (ends : last.stop.offset = callee.stop.offset) : CalledAs call last.source

/-! ### Trees inside trees -/

mutual

/-- The tree of a node inside another one is a stretch of it. -/
theorem infix_preorder : ∀ {n inner : Node text}, inner ∈ n.preorder →
    inner.preorder <:+: n.preorder
  | mk kind field start stop isMissing hasFault children, inner, h => by
    rcases List.mem_cons.1 h with rfl | below
    · exact List.infix_refl _
    · exact (infix_preorderAll below).trans (List.suffix_cons _ _).isInfix

theorem infix_preorderAll : ∀ {ns : List (Node text)} {inner : Node text},
    inner ∈ preorderAll ns → inner.preorder <:+: preorderAll ns
  | n :: ns, inner, h => by
    rcases List.mem_append.1 h with first | later
    · exact (infix_preorder first).trans (List.prefix_append _ _).isInfix
    · exact (infix_preorderAll later).trans (List.suffix_append _ _).isInfix

end

theorem mem_preorder_of_child? {n child : Node text} {field : Field}
    (h : n.child? field = some child) : child ∈ n.preorder :=
  preorder_subset (child?_mem h) child.self_mem_preorder

/-- The calls inside a part of a tree are among those of the tree, in the same order. -/
theorem targets_sublist {n inner : Node text} (h : inner ∈ n.preorder) :
    inner.targets.Sublist n.targets :=
  ((infix_preorder h).sublist.filter _).filterMap _

/-! ### Calls of a module -/

theorem isIdentifier_of_isBuilt {n : Node text} (h : n.isBuilt = true)
    (plain : n.kind = Symbol.identifier) : n.isIdentifier = true := by
  rwa [isBuilt, if_pos plain] at h

theorem source_ne_empty_of_isBuilt {n : Node text} (h : n.isBuilt = true)
    (plain : n.kind = Symbol.identifier) : n.source ≠ "" := by
  have named := isIdentifier_of_isBuilt h plain
  rintro empty
  simp [isIdentifier, empty, Identifier.isWord] at named

theorem exists_callee {call : Node text} (h : call.isBuilt = true)
    (calls : call.kind = Symbol.call) : ∃ callee, call.child? .callee = some callee := by
  have parts : (call.child? .callee).isSome = true := by
    rw [isBuilt, calls] at h
    exact h
  exact Option.isSome_iff_exists.1 parts

theorem exists_attribute {n : Node text} (h : n.isBuilt = true)
    (access : n.kind = Symbol.attributeAccess) :
    ∃ last, n.child? .attribute = some last ∧ last.kind = Symbol.identifier ∧
      last.stop.offset = n.stop.offset := by
  have parts : ((n.child? .attribute).any fun last =>
      last.kind = Symbol.identifier && last.stop.offset = n.stop.offset) = true := by
    rw [isBuilt, access] at h
    exact h
  obtain ⟨last, found, ends⟩ := (Option.any_eq_true _ _).1 parts
  simp only [Bool.and_eq_true, decide_eq_true_eq] at ends
  exact ⟨last, found, ends⟩

/-- The target of a call is the name that it calls. -/
theorem callTarget?_eq_some {call : Node text} (built : ∀ x ∈ call.preorder, x.isBuilt = true)
    {name : String} : call.callTarget? = some name ↔ call.CalledAs name := by
  unfold callTarget?
  constructor
  · intro h
    split at h
    · cases h
    · next callee found =>
      have inside := mem_preorder_of_child? found
      obtain ⟨h, -⟩ := Option.filter_eq_some_iff.1 h
      split at h
      · next plain =>
        cases h
        exact .identifier found plain
      · split at h
        · next access =>
          obtain ⟨last, behind, -, ends⟩ := exists_attribute (built callee inside) access
          rw [behind] at h
          cases h
          exact .attribute found access behind ends
        · cases h
  · rintro (⟨found, plain⟩ | ⟨found, access, behind, ends⟩)
    · have inside := mem_preorder_of_child? found
      simp [found, plain, source_ne_empty_of_isBuilt (built _ inside) plain]
    · rename_i callee last
      have inside := mem_preorder_of_child? found
      have other : Symbol.attributeAccess ≠ Symbol.identifier := by decide
      obtain ⟨last', behind', plain, -⟩ := exists_attribute (built _ inside) access
      cases behind.symm.trans behind'
      have below : last ∈ call.preorder :=
        (infix_preorder inside).subset (mem_preorder_of_child? behind)
      simp [found, other, access, behind, source_ne_empty_of_isBuilt (built _ below) plain]

/-- A call has a name exactly if what it calls is an identifier or an attribute access. -/
theorem exists_calledAs {call callee : Node text} (built : callee.isBuilt = true)
    (found : call.child? .callee = some callee) :
    (∃ name, call.CalledAs name) ↔
      callee.kind = Symbol.identifier ∨ callee.kind = Symbol.attributeAccess := by
  constructor
  · rintro ⟨_, ⟨found', plain⟩ | ⟨found', access, -⟩⟩
    · cases found.symm.trans found'
      exact .inl plain
    · cases found.symm.trans found'
      exact .inr access
  · rintro (plain | access)
    · exact ⟨_, .identifier found plain⟩
    · obtain ⟨last, behind, -, ends⟩ := exists_attribute built access
      exact ⟨_, .attribute found access behind ends⟩

/-- Behind decorators there is a definition, so other tags are those of the node itself. -/
theorem tag_eq_ofKind {n : Node text} (parts : n.hasParts = true)
    (other : ∀ kind, n.tag ≠ .definition kind) : n.tag = Tag.ofKind n.kind := by
  by_cases decorated : n.kind = Symbol.decoratedDefinition
  · obtain ⟨inner, -, -, same, plain⟩ :=
      exists_undecorated parts (by simp [isDefinition, decorated])
    obtain ⟨kind, tagged⟩ := tag_of_kind plain
    exact absurd (same.trans tagged) (other kind)
  · obtain ⟨symbol, field, start, stop, isMissing, hasFault, children⟩ := n
    change symbol ≠ _ at decorated
    rw [tag, if_neg decorated]
    rfl

/-- A node is taken for a call exactly if the grammar has it for one. -/
theorem tag_eq_call_iff {n : Node text} (parts : n.hasParts = true) :
    n.tag = .call ↔ n.kind = Symbol.call := by
  constructor
  · intro h
    have own := tag_eq_ofKind parts (by simp [h])
    rw [h] at own
    unfold Tag.ofKind at own
    grind
  · intro h
    obtain ⟨symbol, field, start, stop, isMissing, hasFault, children⟩ := n
    cases h
    rfl

end Node

/-- The callees of a node are the names of the calls in its tree other than the own one, each once
and in the order in which they occur first; the node is recursive exactly if the own name is called.
In a module the calls are the nodes that the grammar has for calls.  Every call is of some
expression, and has a name exactly if that is an identifier or an attribute access, whatever calls
stand inside the expression: these count as well. -/
theorem Node.callees_exact {text : List Char} (n : Node text) (own : String) :
    (n.callees own).names = (n.targets.filter (· ≠ own)).eraseDups ∧
      ((n.callees own).recursive = true ↔ own ∈ n.targets) ∧
      (∀ call ∈ n.preorder, ∀ callee, call.child? .callee = some callee →
        callee.targets.Sublist n.targets) ∧
      ∀ m : Module, ∀ call ∈ m.root.preorder, (call.tag = .call ↔ call.kind = Symbol.call) ∧
        (call.tag = .call → ∃ callee, call.child? .callee = some callee ∧
          ((∃ name, call.callTarget? = some name) ↔
            callee.kind = Symbol.identifier ∨ callee.kind = Symbol.attributeAccess) ∧
          ∀ name, call.callTarget? = some name ↔ call.CalledAs name) := by
  refine ⟨?_, ?_, fun call hc callee found => ?_, fun m call hc => ?_⟩
  · rw [callees_eq, callTargets_eq]
  · rw [callees_eq, callTargets_eq, List.contains_iff_mem]
  · exact targets_sublist ((infix_preorder hc).subset (mem_preorder_of_child? found))
  · have built : ∀ x ∈ call.preorder, x.isBuilt = true := fun x hx =>
      (Module.shapely_of_mem ((infix_preorder hc).subset hx)).2
    obtain ⟨parts, own⟩ := Module.shapely_of_mem hc
    have classified := tag_eq_call_iff parts
    refine ⟨classified, fun tagged => ?_⟩
    obtain ⟨callee, found⟩ := exists_callee own (classified.1 tagged)
    refine ⟨callee, found, ?_, fun name => callTarget?_eq_some built⟩
    simp only [callTarget?_eq_some built]
    exact exists_calledAs (built callee (mem_preorder_of_child? found)) found

end CallContext
