import CallContext.Proofs.Model.Catalog

/-!
# Catalogs refine lists

A catalog can be used as a list of elements with different names, on which an `Operation` takes the
element of a name out or puts one in at the end.  The index is never seen: it always leads to the
element of a name (`Catalog.Mirrors`).

* `Operation.mirrors_onCatalog` : one operation does the same to a catalog and to its list,
* `Catalog.refines_perform` : so do all operations one after the other, from any elements that the
  catalog was made of; and catalogs with the same elements are the same.
-/

namespace CallContext

/-- A change of a catalog. -/
inductive Operation where
  | insert (e : Element)
  | remove (name : String)
deriving DecidableEq, Repr

namespace Operation

/-- What the operation gives back and leaves of a catalog. -/
def onCatalog (c : Catalog) : Operation → Option Element × Catalog
  | insert e => c.insert e
  | remove name => c.remove name

/-- What the operation gives back and leaves of a list: the element of the name goes, the others
stay in their order, and a new element comes to the end. -/
def onList (es : List Element) : Operation → Option Element × List Element
  | insert e => (es.find? (·.name = e.name), es.filter (·.name ≠ e.name) ++ [e])
  | remove name => (es.find? (·.name = name), es.filter (·.name ≠ name))

/-- Performs operations one after the other: what they give back, and what is left at the end. -/
def perform {σ : Type} (step : σ → Operation → Option Element × σ) (s : σ) :
    List Operation → List (Option Element) × σ
  | [] => ([], s)
  | o :: os =>
    ((step s o).1 :: (perform step (step s o).2 os).1, (perform step (step s o).2 os).2)

end Operation

namespace Catalog

variable {c c' : Catalog} {es : List Element}

/-- The catalog shows a list of elements with different names, and its index fits the list. -/
structure Mirrors (c : Catalog) (es : List Element) : Prop where
  elements_eq : c.elements = es
  nodup : (es.map (·.name)).Nodup
  /-- The index leads from a name to the place of its element, and nowhere else. -/
  lookup_iff : ∀ name i, c.index.lookup name = some i ↔ es[i]?.map (·.name) = some name
  nodup_index : (c.index.map (·.1)).Nodup
  length_index : c.index.length = es.length
  inRange : ∀ entry ∈ c.index, entry.2 < es.length
  /-- Where a place is moved up there is one before it. -/
  positive : ∀ name i, c.index.lookup name = some i → ∀ entry ∈ c.index, i < entry.2 → 1 ≤ entry.2
  get?_eq : ∀ name, c.get? name = es.find? (·.name = name)
  contains_iff : ∀ name, c.contains name = true ↔ ∃ e ∈ es, e.name = name
  size_eq : c.size = es.length
  isEmpty_iff : c.isEmpty = true ↔ es = []
  names_eq : c.names = es.map (·.name)

/-- The catalogs have the same elements in the same order, and the same index as a map. -/
def Same (c c' : Catalog) : Prop :=
  c.elements = c'.elements ∧ ∀ name, c.index.lookup name = c'.index.lookup name

/-! ### The index -/

/-- Where no name stands twice, the place of a name is where it stands. -/
theorem lookup_zipIdx_eq_some {names : List String} (nodup : names.Nodup) {name : String}
    {i : Nat} : names.zipIdx.lookup name = some i ↔ names[i]? = some name := by
  constructor
  · intro found
    obtain ⟨before, after, split, -⟩ := List.lookup_eq_some_iff.1 found
    have mem : (name, i) ∈ names.zipIdx := by simp [split]
    exact List.mem_zipIdx_iff_getElem?.1 mem
  · intro stands
    obtain ⟨bound, rfl⟩ := List.getElem?_eq_some_iff.1 stands
    have split : names = names.take i ++ names[i] :: names.drop (i + 1) := by simp
    have fresh : names[i] ∉ names.take i := by
      have apart := nodup
      rw [split, List.nodup_append] at apart
      exact fun before => apart.2.2 _ before _ List.mem_cons_self rfl
    have found := lookup_zipIdx_append fresh (names.drop (i + 1)) 0
    rw [← split] at found
    rw [found, List.length_take, Nat.zero_add, Nat.min_eq_left (Nat.le_of_lt bound)]

theorem Indexed.lookup_iff (h : c.Indexed) (name : String) (i : Nat) :
    c.index.lookup name = some i ↔ c.elements[i]?.map (·.name) = some name := by
  rw [h.index_eq, lookup_zipIdx_eq_some h.nodup, names, List.getElem?_map]

theorem Indexed.inRange (h : c.Indexed) : ∀ entry ∈ c.index, entry.2 < c.elements.length := by
  intro entry he
  rw [h.index_eq] at he
  have bound := (List.getElem?_eq_some_iff.1 (List.mem_zipIdx_iff_getElem?.1 he)).1
  rwa [names, List.length_map] at bound

theorem Indexed.map_fst_index (h : c.Indexed) : c.index.map (·.1) = c.names := by
  rw [h.index_eq]
  simp

theorem Indexed.mirrors (h : c.Indexed) : c.Mirrors c.elements where
  elements_eq := rfl
  nodup := h.nodup
  lookup_iff := h.lookup_iff
  nodup_index := h.map_fst_index ▸ h.nodup
  length_index := by rw [h.index_eq, List.length_zipIdx, names, List.length_map]
  inRange := h.inRange
  positive := fun _ _ _ _ _ behind => Nat.one_le_of_lt behind
  get?_eq := h.get?
  contains_iff := fun name => by rw [h.contains, names, List.mem_map]
  size_eq := rfl
  isEmpty_iff := List.isEmpty_iff
  names_eq := rfl

/-- The elements tell all of a catalog. -/
theorem Indexed.eq_iff (h : c.Indexed) (h' : c'.Indexed) :
    c = c' ↔ c.elements = c'.elements := by
  refine ⟨fun same => same ▸ rfl, fun same => ?_⟩
  have index : c.index = c'.index := by rw [h.index_eq, h'.index_eq, names, names, same]
  cases c
  cases c'
  exact mk.injEq .. ▸ ⟨same, index⟩

theorem Indexed.same_iff (h : c.Indexed) (h' : c'.Indexed) :
    c.Same c' ↔ c.elements = c'.elements :=
  ⟨fun same => same.1, fun same => (h.eq_iff h').2 same ▸ ⟨rfl, fun _ => rfl⟩⟩

end Catalog

/-! ### Operations -/

namespace Operation

theorem indexed_onCatalog {c : Catalog} (h : c.Indexed) (o : Operation) :
    (onCatalog c o).2.Indexed := by
  cases o with
  | insert e => exact (h.insert e).2.2
  | remove name => exact (h.remove name).2.2

/-- One operation does the same to a catalog and to the list of its elements. -/
theorem mirrors_onCatalog {c : Catalog} (h : c.Indexed) (o : Operation) :
    (onCatalog c o).1 = (onList c.elements o).1 ∧
      (onCatalog c o).2.elements = (onList c.elements o).2 := by
  cases o with
  | insert e => exact ⟨(h.insert e).1, (h.insert e).2.1⟩
  | remove name => exact ⟨(h.remove name).1, (h.remove name).2.1⟩

theorem mirrors_perform {c : Catalog} (h : c.Indexed) (os : List Operation) :
    (perform onCatalog c os).1 = (perform onList c.elements os).1 ∧
      (perform onCatalog c os).2.elements = (perform onList c.elements os).2 ∧
      (perform onCatalog c os).2.Indexed := by
  induction os generalizing c with
  | nil => exact ⟨rfl, rfl, h⟩
  | cons o os ih =>
    obtain ⟨given, left⟩ := mirrors_onCatalog h o
    obtain ⟨given', left', indexed⟩ := ih (indexed_onCatalog h o)
    rw [left] at given' left'
    exact ⟨congr (congrArg List.cons given) given', left', indexed⟩

end Operation

namespace Catalog

/-- The catalog of some elements after some operations.  Without elements it starts empty. -/
def after (es : List Element) (os : List Operation) : Catalog :=
  (Operation.perform Operation.onCatalog (ofList es) os).2

theorem indexed_after (es : List Element) (os : List Operation) : (after es os).Indexed :=
  (Operation.mirrors_perform (indexed_ofList es) os).2.2

/-- Operations give back and leave the same of a catalog and of a list that starts with the last
element of each name, or with none; the catalog mirrors the list then.  Catalogs are the same
exactly if their elements are. -/
theorem refines_perform (es : List Element) (os : List Operation) :
    ofList [] = empty ∧
      (Operation.perform Operation.onCatalog (ofList es) os).1 =
        (Operation.perform Operation.onList (keepLast (·.name) es) os).1 ∧
      (after es os).Mirrors (Operation.perform Operation.onList (keepLast (·.name) es) os).2 ∧
      ∀ es' os',
        (after es os = after es' os' ↔ (after es os).elements = (after es' os').elements) ∧
        ((after es os).Same (after es' os') ↔
          (after es os).elements = (after es' os').elements) := by
  obtain ⟨given, left, indexed⟩ := Operation.mirrors_perform (indexed_ofList es) os
  rw [elements_ofList_eq] at given left
  refine ⟨rfl, given, left ▸ indexed.mirrors, fun es' os' => ?_⟩
  exact ⟨indexed.eq_iff (indexed_after es' os'), indexed.same_iff (indexed_after es' os')⟩

end Catalog

end CallContext
