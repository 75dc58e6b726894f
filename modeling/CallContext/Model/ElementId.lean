import CallContext.Files.Path
import CallContext.Model.Element
import CallContext.Model.Sorted

/-!
# Identity of elements

An element of a project is known by the path of its module and its name.
-/

namespace CallContext

/-- The path of a module and the name of an element in it. -/
structure ElementId where
  path : Path
  name : String
deriving DecidableEq, Repr

namespace ElementId

/-- The order by path, then by name. -/
def compare (a b : ElementId) : Ordering := (a.path.compare b.path).then (Ord.compare a.name b.name)

/-- The identity as it is displayed. -/
def display (id : ElementId) : String := id.path.text ++ "::" ++ id.name

end ElementId

/-- Elements by identity, in increasing order. -/
abbrev ElementMap := List (ElementId × Element)

/-- Puts an element into a map. -/
def ElementMap.insert (m : ElementMap) (entry : ElementId × Element) : ElementMap :=
  insertSorted (fun a b => a.1.compare b.1) entry m

end CallContext
