import CallContext.Analysis.Definitions
import CallContext.Model.CalleeSet

/-!
# Calls

The names that are called anywhere inside a node: in nested functions and classes, in decorators,
in arguments and in what other calls are made of.
-/

namespace CallContext

namespace Node

variable {text : List Char}

/-- The targets of the calls inside a node, in the order of the text. -/
def callTargets (n : Node text) : List String :=
  (n.walk.filter (·.tag = .call)).filterMap callTarget?

/-- The names that are called inside a node, the definition of which is called `own`. -/
def callees (n : Node text) (own : String) : CalleeSet :=
  n.callTargets.foldl (CalleeSet.record own) ∅

end Node

/-- The names that an element calls, as its text alone tells. -/
def Element.callees (e : Element) : Except SyntaxError CalleeSet :=
  match Module.parse e.source with
  | .ok m => .ok (m.root.callees e.name)
  | .error fault => .error fault

end CallContext
