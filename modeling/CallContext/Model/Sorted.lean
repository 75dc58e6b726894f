/-!
# Sorted lists

Sets and maps are lists in strictly increasing order.  A list is put in order by `sortStable`, which
keeps all of it.
-/

namespace CallContext

/-- Puts something into a list in increasing order; it replaces what is equal to it. -/
def insertSorted {α : Type} (compare : α → α → Ordering) (a : α) : List α → List α
  | [] => [a]
  | b :: bs =>
    match compare a b with
    | .lt => a :: b :: bs
    | .eq => a :: bs
    | .gt => b :: insertSorted compare a bs

/-- The members of a list in increasing order; of equal ones the last. -/
def sortedSet {α : Type} (compare : α → α → Ordering) (as : List α) : List α :=
  as.foldl (fun sorted a => insertSorted compare a sorted) []

/-- Puts something into a list in increasing order, behind what is equal to it. -/
def insertBehind {α : Type} (compare : α → α → Ordering) (a : α) : List α → List α
  | [] => [a]
  | b :: bs =>
    match compare a b with
    | .lt => a :: b :: bs
    | _ => b :: insertBehind compare a bs

/-- The list in increasing order; what is equal stays in its order. -/
def sortStable {α : Type} (compare : α → α → Ordering) (as : List α) : List α :=
  as.foldl (fun sorted a => insertBehind compare a sorted) []

/-- A set of names, in the order of code points. -/
def nameSet (names : List String) : List String := sortedSet Ord.compare names

end CallContext
