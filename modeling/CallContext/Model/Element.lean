/-!
# Elements

An `Element` is a function or class at the top level of a module with its exact place in the
module's text.
-/

namespace CallContext

/-- What an element defines. -/
inductive ElementKind where
  | functionDefinition
  | classDefinition
deriving DecidableEq, Repr

namespace ElementKind

/-- The word for the kind in messages and reports. -/
def name : ElementKind → String
  | functionDefinition => "Function"
  | classDefinition => "Class"

/-- The kind as a number, in short reports. -/
def code : ElementKind → Nat
  | functionDefinition => 0
  | classDefinition => 1

end ElementKind

/-- A function or class at the top level of a module. -/
structure Element where
  name : String
  kind : ElementKind
  /-- The text of the module from `startByte` to `endByte`. -/
  source : String
  /-- The line of the first character, the first line being 1. -/
  startLine : Nat
  /-- The line of the end. -/
  endLine : Nat
  startByte : Nat
  endByte : Nat
  docstring : Option String
deriving DecidableEq, Repr

/-- An element of which only the text is known: it starts with the text. -/
def Element.ofSource (name : String) (kind : ElementKind) (source : String)
    (startLine endLine : Nat) : Element :=
  ⟨name, kind, source, startLine, endLine, 0, source.utf8ByteSize, none⟩

end CallContext
