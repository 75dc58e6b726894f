import CallContext.Model.Sorted
import Mathlib.Order.Compare

/-!
# Sorted sets and maps

Inserting keeps a list in increasing order.  If no two things that are put in are equal, nothing is
lost (`perm_foldl_insertSorted`), and the result does not depend on the order in which they are put
in (`foldl_insertSorted_of_perm`).

Sorting loses nothing at all (`perm_sortStable`).  The order is strict if no two things are equal
(`increasing_sortStable`).
-/

namespace CallContext

open Std

variable {α : Type} {compare : α → α → Ordering} {a x : α} {as bs : List α}

/-- The list is in strictly increasing order. -/
def Increasing (compare : α → α → Ordering) (as : List α) : Prop :=
  as.Pairwise fun a b => compare a b = .lt

/-- No two members of the list are equal. -/
def Distinct (compare : α → α → Ordering) (as : List α) : Prop :=
  as.Pairwise fun a b => compare a b ≠ .eq

theorem Increasing.distinct (h : Increasing compare as) : Distinct compare as :=
  h.imp fun lt eq => by simp [lt] at eq

theorem Increasing.nodup [ReflCmp compare] (h : Increasing compare as) : as.Nodup := by
  refine h.imp fun lt same => ?_
  rw [same, (ReflCmp.compare_self : compare _ _ = .eq)] at lt
  cases lt

theorem mem_of_mem_insertSorted (h : x ∈ insertSorted compare a as) : x = a ∨ x ∈ as := by
  induction as with
  | nil => exact .inl (List.mem_singleton.1 h)
  | cons b bs ih =>
    unfold insertSorted at h
    split at h
    · exact List.mem_cons.1 h
    · rcases List.mem_cons.1 h with rfl | h
      · exact .inl rfl
      · exact .inr (List.mem_cons_of_mem _ h)
    · rcases List.mem_cons.1 h with rfl | h
      · exact .inr List.mem_cons_self
      · exact (ih h).imp_right (List.mem_cons_of_mem _)

theorem mem_of_mem_foldl_insertSorted
    (h : x ∈ bs.foldl (fun sorted a => insertSorted compare a sorted) as) : x ∈ as ∨ x ∈ bs := by
  induction bs generalizing as with
  | nil => exact .inl h
  | cons b bs ih =>
    rcases ih h with h | h
    · rcases mem_of_mem_insertSorted h with rfl | h
      · exact .inr List.mem_cons_self
      · exact .inl h
    · exact .inr (List.mem_cons_of_mem _ h)

theorem mem_of_mem_sortedSet (h : x ∈ sortedSet compare as) : x ∈ as := by
  rcases mem_of_mem_foldl_insertSorted h with h | h
  · cases h
  · exact h

theorem mem_insertSorted [LawfulEqCmp compare] :
    x ∈ insertSorted compare a as ↔ x = a ∨ x ∈ as := by
  refine ⟨mem_of_mem_insertSorted, fun h => ?_⟩
  induction as with
  | nil => simpa [insertSorted] using h
  | cons b bs ih =>
    unfold insertSorted
    split
    · simpa using h
    · next same =>
      obtain rfl : a = b := LawfulEqCmp.eq_of_compare same
      simpa using h
    · rcases h with rfl | h
      · exact List.mem_cons_of_mem _ (ih (.inl rfl))
      · rcases List.mem_cons.1 h with rfl | h
        · exact List.mem_cons_self
        · exact List.mem_cons_of_mem _ (ih (.inr h))

theorem mem_foldl_insertSorted [LawfulEqCmp compare] :
    x ∈ bs.foldl (fun sorted a => insertSorted compare a sorted) as ↔ x ∈ as ∨ x ∈ bs := by
  induction bs generalizing as with
  | nil => simp
  | cons b bs ih =>
    rw [List.foldl_cons, ih, mem_insertSorted, List.mem_cons, or_assoc, or_left_comm]

theorem mem_nameSet {name : String} {names : List String} :
    name ∈ nameSet names ↔ name ∈ names := by
  rw [nameSet, sortedSet, mem_foldl_insertSorted]
  simp

theorem nameSet_eq_nil {names : List String} : nameSet names = [] ↔ names = [] := by
  rw [List.eq_nil_iff_forall_not_mem, List.eq_nil_iff_forall_not_mem]
  exact forall_congr' fun name => not_congr mem_nameSet

/-! ### The order -/

/-- An order of keys orders what has the keys. -/
theorem transCmp_on {β : Type} (compare : β → β → Ordering) [TransCmp compare] (key : α → β) :
    TransCmp fun a b => compare (key a) (key b) where
  eq_swap := OrientedCmp.eq_swap
  isLE_trans := TransCmp.isLE_trans

theorem Increasing.insertSorted [TransCmp compare] (h : Increasing compare as) (a : α) :
    Increasing compare (insertSorted compare a as) := by
  induction as with
  | nil => exact List.pairwise_singleton _ _
  | cons b bs ih =>
    obtain ⟨below, rest⟩ := List.pairwise_cons.1 h
    unfold CallContext.insertSorted
    split
    · next lt =>
      refine List.pairwise_cons.2 ⟨fun x hx => ?_, h⟩
      rcases List.mem_cons.1 hx with rfl | hx
      · exact lt
      · exact TransCmp.lt_trans lt (below x hx)
    · next eq =>
      refine List.pairwise_cons.2 ⟨fun x hx => ?_, rest⟩
      exact TransCmp.lt_of_eq_of_lt eq (below x hx)
    · next gt =>
      refine List.pairwise_cons.2 ⟨fun x hx => ?_, ih rest⟩
      rcases mem_of_mem_insertSorted hx with rfl | hx
      · exact OrientedCmp.lt_of_gt gt
      · exact below x hx

theorem Increasing.foldl_insertSorted [TransCmp compare] (h : Increasing compare as)
    (bs : List α) :
    Increasing compare
      (bs.foldl (fun sorted a => CallContext.insertSorted compare a sorted) as) := by
  induction bs generalizing as with
  | nil => exact h
  | cons b bs ih => exact ih (h.insertSorted b)

theorem increasing_sortedSet [TransCmp compare] (as : List α) :
    Increasing compare (sortedSet compare as) :=
  Increasing.foldl_insertSorted .nil as

/-- Lists in increasing order with the same members are the same. -/
theorem Increasing.eq_of_perm [TransCmp compare] (ha : Increasing compare as)
    (hb : Increasing compare bs) (h : as.Perm bs) : as = bs := by
  refine h.eq_of_pairwise (fun a b _ _ lt gt => ?_) ha hb
  exact absurd gt (OrientedCmp.not_lt_of_lt lt)

/-! ### Nothing is lost -/

/-- What is equal to nothing in a list replaces nothing. -/
theorem perm_insertSorted (h : ∀ b ∈ as, compare a b ≠ .eq) :
    (insertSorted compare a as).Perm (a :: as) := by
  induction as with
  | nil => exact .refl _
  | cons b bs ih =>
    obtain ⟨first, rest⟩ := List.forall_mem_cons.1 h
    unfold insertSorted
    split
    · exact .refl _
    · next eq => exact absurd eq first
    · exact ((ih rest).cons b).trans (List.Perm.swap a b bs)

theorem Distinct.of_perm [OrientedCmp compare] (h : Distinct compare as) (perm : as.Perm bs) :
    Distinct compare bs :=
  perm.pairwise h fun ne eq => ne (OrientedCmp.eq_symm eq)

/-- A member is known by what it is equal to. -/
theorem Distinct.eq_of_mem [OrientedCmp compare] (h : Distinct compare as) (ha : a ∈ as)
    (hx : x ∈ as) (same : compare a x = .eq) : a = x := by
  induction as with
  | nil => cases ha
  | cons b bs ih =>
    obtain ⟨first, rest⟩ := List.pairwise_cons.1 h
    rcases List.mem_cons.1 ha with rfl | later <;> rcases List.mem_cons.1 hx with rfl | later'
    · rfl
    · exact absurd same (first x later')
    · exact absurd (OrientedCmp.eq_symm same) (first a later)
    · exact ih rest later later'

/-- All of what is put in is there, if no two are equal. -/
theorem perm_foldl_insertSorted [OrientedCmp compare] (h : Distinct compare (as ++ bs)) :
    (bs.foldl (fun sorted a => insertSorted compare a sorted) as).Perm (as ++ bs) := by
  induction bs generalizing as with
  | nil => simp
  | cons b bs ih =>
    have apart : ∀ a ∈ as, compare b a ≠ .eq := fun a ha eq =>
      (List.pairwise_append.1 h).2.2 a ha b List.mem_cons_self (OrientedCmp.eq_symm eq)
    -- the next one joins those that are in, which leaves all of them apart
    have moved : (as ++ b :: bs).Perm (insertSorted compare b as ++ bs) :=
      List.perm_middle.trans ((perm_insertSorted apart).symm.append_right bs)
    exact (ih (h.of_perm moved)).trans moved.symm

/-- Things of which no two are equal can be put in in any order. -/
theorem foldl_insertSorted_of_perm [TransCmp compare] (h : Distinct compare as)
    (perm : as.Perm bs) :
    bs.foldl (fun sorted a => insertSorted compare a sorted) [] =
      as.foldl (fun sorted a => insertSorted compare a sorted) [] := by
  have sorted (cs : List α) :
      Increasing compare (cs.foldl (fun sorted a => insertSorted compare a sorted) []) :=
    Increasing.foldl_insertSorted .nil cs
  have all (cs : List α) (distinct : Distinct compare cs) :
      (cs.foldl (fun sorted a => insertSorted compare a sorted) []).Perm cs :=
    perm_foldl_insertSorted distinct
  refine (sorted bs).eq_of_perm (sorted as) ?_
  exact (all bs (h.of_perm perm)).trans (perm.symm.trans (all as h).symm)

/-! ### Sorting -/

theorem perm_insertBehind (a : α) (as : List α) : (insertBehind compare a as).Perm (a :: as) := by
  induction as with
  | nil => exact .refl _
  | cons b bs ih =>
    unfold insertBehind
    split
    · exact .refl _
    · exact (ih.cons b).trans (List.Perm.swap a b bs)

theorem perm_foldl_insertBehind (as bs : List α) :
    (bs.foldl (fun sorted a => insertBehind compare a sorted) as).Perm (as ++ bs) := by
  induction bs generalizing as with
  | nil => simp
  | cons b bs ih =>
    refine (ih _).trans (((perm_insertBehind b as).append_right bs).trans ?_)
    exact List.perm_middle.symm

theorem perm_sortStable (as : List α) : (sortStable compare as).Perm as :=
  perm_foldl_insertBehind [] as

theorem mem_sortStable : x ∈ sortStable compare as ↔ x ∈ as :=
  (perm_sortStable as).mem_iff

/-- What is equal to nothing in a list comes to the same place whether it would replace or not. -/
theorem insertBehind_eq_insertSorted (h : ∀ b ∈ as, compare a b ≠ .eq) :
    insertBehind compare a as = insertSorted compare a as := by
  induction as with
  | nil => rfl
  | cons b bs ih =>
    obtain ⟨first, rest⟩ := List.forall_mem_cons.1 h
    rw [insertBehind, insertSorted, ih rest]
    cases order : compare a b with
    | lt => rfl
    | eq => exact absurd order first
    | gt => rfl

theorem Increasing.foldl_insertBehind [TransCmp compare] (h : Increasing compare as)
    (distinct : Distinct compare (as ++ bs)) :
    Increasing compare
      (bs.foldl (fun sorted a => CallContext.insertBehind compare a sorted) as) := by
  induction bs generalizing as with
  | nil => exact h
  | cons b bs ih =>
    have apart : ∀ a ∈ as, compare b a ≠ .eq := fun a ha eq =>
      (List.pairwise_append.1 distinct).2.2 a ha b List.mem_cons_self (OrientedCmp.eq_symm eq)
    have next := h.insertSorted b
    rw [← insertBehind_eq_insertSorted apart] at next
    refine ih next (distinct.of_perm ?_)
    exact List.perm_middle.trans ((perm_insertBehind b as).symm.append_right bs)

/-- Things of which no two are equal are put in strict order. -/
theorem increasing_sortStable [TransCmp compare] (h : Distinct compare as) :
    Increasing compare (sortStable compare as) :=
  Increasing.foldl_insertBehind .nil h

end CallContext
