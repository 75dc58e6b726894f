import CallContext.Analysis.Calls
import CallContext.Proofs.Syntax.Walk

/-!
# Callees are call targets

`Node.Calls` says what it means that a node calls a name: somewhere in its tree there is a call with
that target.  The callees of a node are its call targets without the name of the definition itself,
each once, in the order in which they occur first (`Node.callees_eq`); so a name is among them
exactly if the node calls it and it is not the own name (`Node.contains_callees`).
-/

namespace CallContext

/-- The names that are recorded: the new ones other than the own one, each once. -/
theorem CalleeSet.foldl_record (own : String) (s : CalleeSet) (targets : List String) :
    targets.foldl (record own) s =
      ⟨s.names ++ ((targets.filter (· ≠ own)).filter (· ∉ s.names)).eraseDups,
        s.recursive || targets.contains own⟩ := by
  induction targets generalizing s with
  | nil => simp
  | cons t ts ih =>
    rw [List.foldl_cons, ih, record]
    by_cases hown : t = own
    · simp [hown]
    · have other : own ≠ t := fun h => hown h.symm
      rw [if_neg hown, List.filter_cons_of_pos (by simpa using hown), List.contains_cons,
        beq_false_of_ne other, Bool.false_or]
      unfold insert
      split
      · next known =>
        rw [List.filter_cons_of_neg (by simpa [contains] using known)]
      · next new =>
        have fresh : t ∉ s.names := by simpa [contains] using new
        -- later occurrences of a new name are left out either way
        have rest : ((ts.filter (· ≠ own)).filter (· ∉ s.names)).filter (fun b => !b == t) =
            (ts.filter (· ≠ own)).filter (· ∉ s.names ++ [t]) := by
          rw [List.filter_filter]
          refine List.filter_congr fun x _ => Bool.eq_iff_iff.2 ?_
          simp [and_comm]
        rw [List.filter_cons_of_pos (by simpa using fresh), List.eraseDups_cons, rest]
        simp

namespace Node

variable {text : List Char}

/-- Somewhere in the tree of the node the name is called. -/
def Calls (n : Node text) (name : String) : Prop :=
  ∃ call ∈ n.preorder, call.tag = .call ∧ call.callTarget? = some name

theorem mem_callTargets {n : Node text} {name : String} :
    name ∈ n.callTargets ↔ n.Calls name := by
  simp only [callTargets, Calls, walk_eq_preorder, List.mem_filterMap, List.mem_filter,
    decide_eq_true_eq, and_assoc]

/-- The callees are the call targets other than the own name, each once. -/
theorem callees_eq (n : Node text) (own : String) :
    n.callees own =
      ⟨(n.callTargets.filter (· ≠ own)).eraseDups, n.callTargets.contains own⟩ := by
  rw [callees, CalleeSet.foldl_record]
  simp [EmptyCollection.emptyCollection, CalleeSet.empty]

theorem contains_callees {n : Node text} {own name : String} :
    (n.callees own).contains name = true ↔ n.Calls name ∧ name ≠ own := by
  rw [callees_eq, CalleeSet.contains, List.contains_iff_mem, List.mem_eraseDups, List.mem_filter,
    mem_callTargets, decide_eq_true_eq]

end Node

end CallContext
