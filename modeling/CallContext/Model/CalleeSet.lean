/-!
# Callees

The names that an element calls, each once, in the order of their first occurrence.  An element
that calls its own name is `recursive`; its own name is not in the set.
-/

namespace CallContext

/-- The different names that an element calls. -/
structure CalleeSet where
  names : List String
  /-- The element calls its own name. -/
  recursive : Bool
deriving DecidableEq, Repr

namespace CalleeSet

/-- No calls. -/
def empty : CalleeSet := ⟨[], false⟩

instance : EmptyCollection CalleeSet := ⟨empty⟩

def contains (s : CalleeSet) (name : String) : Bool := s.names.contains name

/-- Adds a name, and says whether it is new. -/
def insert (s : CalleeSet) (name : String) : Bool × CalleeSet :=
  if s.contains name then (false, s) else (true, { s with names := s.names ++ [name] })

def size (s : CalleeSet) : Nat := s.names.length

def isEmpty (s : CalleeSet) : Bool := s.names.isEmpty

/-- Adds a name that an element called `own` calls. -/
def record (own : String) (s : CalleeSet) (name : String) : CalleeSet :=
  if name = own then { s with recursive := true } else (s.insert name).2

end CalleeSet

end CallContext
