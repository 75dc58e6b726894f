import CallContext.Analysis.Imports
import CallContext.Proofs.Model.Sorted
import CallContext.Proofs.Syntax.Shapely

/-!
# Records of imports

What every record of an import satisfies, since the tree of a module has the shape of a syntax tree:
a reference without dots before it starts with an identifier, and so do imported names, which only
an import of names has.
-/

namespace CallContext

/-- The record has the form that the grammar gives it. -/
structure ImportRecord.Regular (r : ImportRecord) : Prop where
  starts : r.level = 0 → Identifier.starts r.reference = true
  names_eq_nil : r.kind ≠ .names → r.names = []
  starts_names : ∀ name ∈ r.names, Identifier.starts name = true

namespace Node

variable {text : List Char} {n : Node text}

theorem kind_of_isDottedName (h : n.isDottedName = true) : n.kind = Symbol.dottedName := by
  simp only [isDottedName, Bool.and_eq_true, decide_eq_true_eq] at h
  exact h.1

theorem starts_of_isDottedName (h : n.isDottedName = true) :
    Identifier.starts n.source = true := by
  simp only [isDottedName, Bool.and_eq_true] at h
  exact h.2

theorem starts_importedName (h : n.isImportedName = true) :
    Identifier.starts n.importedName = true := by
  rw [isImportedName, Bool.or_eq_true] at h
  rcases h with dotted | aliased
  · have other : n.kind ≠ Symbol.aliasedImport := by
      rw [kind_of_isDottedName dotted]
      decide
    rw [importedName, if_neg other]
    exact starts_of_isDottedName dotted
  · simp only [Bool.and_eq_true, decide_eq_true_eq] at aliased
    obtain ⟨name, found, dotted⟩ := (Option.any_eq_true _ _).1 aliased.2
    rw [importedName, if_pos aliased.1, found]
    exact starts_of_isDottedName dotted

/-- Without dots before it the module's name starts with an identifier. -/
theorem starts_moduleReference (h : n.isModuleName = true) (level : n.moduleReference.2 = 0) :
    Identifier.starts n.moduleReference.1 = true := by
  rw [isModuleName, Bool.or_eq_true] at h
  rcases h with dotted | relative
  · have other : n.kind ≠ Symbol.relativeImport := by
      rw [kind_of_isDottedName dotted]
      decide
    rw [moduleReference, if_neg other]
    exact starts_of_isDottedName dotted
  · simp only [Bool.and_eq_true, decide_eq_true_eq] at relative
    obtain ⟨dots, found, dot⟩ := (Option.any_eq_true _ _).1 relative.2
    rw [moduleReference, if_pos relative.1, found] at level
    exact absurd (List.contains_iff_mem.1 dot) (List.count_eq_zero.1 level)

/-- The names in a statement that imports modules, or from the future. -/
theorem names_of_hasParts (h : n.hasParts = true)
    (kind : n.kind = Symbol.importStatement ∨ n.kind = Symbol.futureImportStatement) :
    n.childrenOf .name ≠ [] ∧ ∀ name ∈ n.childrenOf .name, name.isImportedName = true := by
  have parts :
      (!(n.childrenOf .name).isEmpty && (n.childrenOf .name).all isImportedName) = true := by
    rcases kind with kind | kind <;>
      · rw [hasParts, kind] at h
        exact h
  rw [Bool.and_eq_true, List.all_eq_true] at parts
  exact ⟨by simpa using parts.1, parts.2⟩

theorem parts_of_importFromStatement (h : n.hasParts = true)
    (named : n.kind = Symbol.importFromStatement) :
    (n.child? .moduleName).any isModuleName = true ∧
      (∀ name ∈ n.childrenOf .name, name.isImportedName = true) ∧
      (n.childrenOf .name).isEmpty = (n.childOfKind? Symbol.wildcardImport).isSome := by
  have parts : ((n.child? .moduleName).any isModuleName &&
      (n.childrenOf .name).all isImportedName &&
        ((n.childrenOf .name).isEmpty = (n.childOfKind? Symbol.wildcardImport).isSome)) = true := by
    rw [hasParts, named] at h
    exact h
  rw [Bool.and_eq_true, Bool.and_eq_true, decide_eq_true_eq, List.all_eq_true] at parts
  exact ⟨parts.1.1, parts.1.2, parts.2⟩

theorem starts_nameSet {names : List (Node text)} (h : ∀ n ∈ names, n.isImportedName = true) :
    ∀ name ∈ nameSet (names.map importedName), Identifier.starts name = true := by
  intro name listed
  obtain ⟨n, hn, rfl⟩ := List.mem_map.1 (mem_nameSet.1 listed)
  exact starts_importedName (h n hn)

theorem regular_imports (h : n.hasParts = true) : ∀ r ∈ n.imports, r.Regular := by
  intro r hr
  unfold imports at hr
  split at hr
  · next whole =>
    rw [List.map_map] at hr
    obtain ⟨name, hn, rfl⟩ := List.mem_map.1 hr
    have imported := (names_of_hasParts h (.inl whole)).2 name hn
    exact ⟨fun _ => starts_importedName imported, fun _ => rfl, nofun⟩
  · split at hr
    · next named =>
      obtain ⟨moduleName, imported, wildcard⟩ := parts_of_importFromStatement h named
      split at hr
      · cases hr
      · next name found =>
        rw [found] at moduleName
        obtain rfl := List.mem_singleton.1 hr
        refine ⟨starts_moduleReference moduleName, fun other => ?_, starts_nameSet imported⟩
        -- everything is imported, so there are no names
        cases all : (n.childOfKind? Symbol.wildcardImport).isSome with
        | false => simp [all] at other
        | true =>
          rw [all, List.isEmpty_iff] at wildcard
          exact congrArg (fun names => nameSet (names.map importedName)) wildcard
    · split at hr
      · next named =>
        obtain rfl := List.mem_singleton.1 hr
        have imported := (names_of_hasParts h (.inr named)).2
        have future : Identifier.starts "__future__" = true := by decide
        exact ⟨fun _ => future, fun other => absurd rfl other, starts_nameSet imported⟩
      · cases hr

end Node

theorem Module.regular_imports (m : Module) : ∀ r ∈ m.imports, r.Regular := by
  intro r hr
  obtain ⟨n, hn, hr⟩ := List.mem_flatMap.1 hr
  have visited := (List.mem_filter.1 hn).1
  rw [Node.walk_eq_preorder] at visited
  exact Node.regular_imports (shapely_of_mem visited).1 r hr

end CallContext
