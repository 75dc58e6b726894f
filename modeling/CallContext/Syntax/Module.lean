import CallContext.Syntax.Tag

/-!
# Modules

A `Module` is a text with its syntax tree.  A text is a module if the grammar explains all of it
and it has no statement that only Python 2 knows; otherwise `Module.parse` gives the line and the
reason of the first fault.
-/

namespace CallContext

/-- Why a text is no module. -/
inductive SyntaxFault where
  /-- No syntax tree was found. -/
  | noTree
  | invalid
  | missing (token : String)
  /-- A statement that only Python 2 knows. -/
  | legacyStatement
deriving DecidableEq, Repr

/-- The words for a fault. -/
def SyntaxFault.message : SyntaxFault → String
  | noTree => "parser produced no syntax tree"
  | invalid => "invalid syntax"
  | missing token => "missing `" ++ token ++ "`"
  | legacyStatement => "Python 2 statement syntax"

/-- A fault with its line. -/
structure SyntaxError where
  line : Nat
  fault : SyntaxFault
deriving DecidableEq, Repr

namespace Node

variable {text : List Char}

mutual

/-- The first node that stands for a fault, looked for only where there are faults. -/
def firstFault? : Node text → Option (Node text)
  | mk kind field start stop isMissing hasFault children =>
    if kind = Symbol.error || isMissing then
      some (mk kind field start stop isMissing hasFault children)
    else firstFaultAmong? children

/-- The first node that stands for a fault in one of some trees. -/
def firstFaultAmong? : List (Node text) → Option (Node text)
  | [] => none
  | n :: ns =>
    if n.hasFault || n.isMissing then firstFault? n <|> firstFaultAmong? ns
    else firstFaultAmong? ns

end

/-- The fault of a tree that has one. -/
def fault (root : Node text) : SyntaxError :=
  match root.firstFault? with
  | some n => ⟨n.startLine, if n.isMissing then .missing n.kind.name else .invalid⟩
  | none => ⟨1, .invalid⟩

/-- The first statement that only Python 2 knows. -/
def firstLegacy? (root : Node text) : Option (Node text) :=
  root.walk.find? fun n => n.kind = Symbol.printStatement || n.kind = Symbol.execStatement

end Node

/-- A text with its syntax tree, which has no faults and no statements that only Python 2 knows. -/
structure Module where
  text : List Char
  root : Node text
  found : Node.parse? text = some root
  sound : root.hasFault = false
  modern : root.firstLegacy? = none

/-- Reads a module. -/
def Module.parse (source : String) : Except SyntaxError Module :=
  match found : Node.parse? source.toList with
  | none => .error ⟨1, .noTree⟩
  | some root =>
    if faulty : root.hasFault = true then .error root.fault
    else
      match modern : root.firstLegacy? with
      | some n => .error ⟨n.startLine, .legacyStatement⟩
      | none => .ok ⟨source.toList, root, found, eq_false_of_ne_true faulty, modern⟩

end CallContext
