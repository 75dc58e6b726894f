import CallContext.Model.Element

/-!
# Catalogs of elements

A `Catalog` holds elements under their names, in the order in which they were put in.  The last
element of a name wins: it replaces the one before and goes to the end.  Beside the elements the
catalog keeps an index from names to positions.

The index and the elements are kept in step by `Catalog.insert` and `Catalog.remove`; what a catalog
holds is seen by `Catalog.elements`.
-/

namespace CallContext

/-- Elements by name, in the order of insertion. -/
structure Catalog where
  elements : List Element
  /-- The position of each name. -/
  index : List (String × Nat)
deriving DecidableEq, Repr

namespace Catalog

/-- The catalog without elements. -/
def empty : Catalog := ⟨[], []⟩

instance : EmptyCollection Catalog := ⟨empty⟩

/-- The positions after the one at `position` has been taken out. -/
def closeGap (position : Nat) (index : List (String × Nat)) : List (String × Nat) :=
  index.map fun (name, slot) => (name, if position < slot then slot - 1 else slot)

/-- Takes the element of a name out, which is given beside the rest. -/
def remove (c : Catalog) (name : String) : Option Element × Catalog :=
  match c.index.lookup name with
  | none => (none, c)
  | some position =>
    (c.elements[position]?,
      ⟨c.elements.eraseIdx position, closeGap position (c.index.filter (·.1 ≠ name))⟩)

/-- Puts an element at the end, in place of the one of its name, which is given beside. -/
def insert (c : Catalog) (e : Element) : Option Element × Catalog :=
  let (replaced, rest) := c.remove e.name
  (replaced, ⟨rest.elements ++ [e], rest.index ++ [(e.name, rest.elements.length)]⟩)

/-- Puts elements in one after the other. -/
def insertAll (c : Catalog) (es : List Element) : Catalog :=
  es.foldl (fun c e => (c.insert e).2) c

/-- The catalog of some elements. -/
def ofList (es : List Element) : Catalog := empty.insertAll es

/-- The element of a name. -/
def get? (c : Catalog) (name : String) : Option Element :=
  (c.index.lookup name).bind fun position => c.elements[position]?

def contains (c : Catalog) (name : String) : Bool := (c.index.lookup name).isSome

def size (c : Catalog) : Nat := c.elements.length

def isEmpty (c : Catalog) : Bool := c.elements.isEmpty

/-- The names in order. -/
def names (c : Catalog) : List String := c.elements.map (·.name)

end Catalog

end CallContext
