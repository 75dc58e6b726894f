import CallContext.Model.Element
import CallContext.Syntax.Walk
import CallContext.Text.Blank

/-!
# What a node means to the analysis
-/

namespace CallContext

/-- The kinds of nodes that the analysis looks at. -/
inductive Tag where
  | definition (kind : ElementKind)
  | call
  | importing
  | other
deriving DecidableEq, Repr

/-- The tag of a node that has no decorators. -/
def Tag.ofKind (kind : Symbol) : Tag :=
  if kind = Symbol.functionDefinition then .definition .functionDefinition
  else if kind = Symbol.classDefinition then .definition .classDefinition
  else if kind = Symbol.call then .call
  else if kind = Symbol.importStatement || kind = Symbol.importFromStatement ||
      kind = Symbol.futureImportStatement then .importing
  else .other

namespace Node

variable {text : List Char}

mutual

/-- The tag of a node; a decorated definition has that of the definition inside. -/
def tag : Node text → Tag
  | mk kind _ _ _ _ _ children =>
    if kind = Symbol.decoratedDefinition then tagOfDefinition children else Tag.ofKind kind

/-- The tag of the first of some nodes that is what decorators stand before. -/
def tagOfDefinition : List (Node text) → Tag
  | [] => .other
  | n :: ns => if n.field = some .definition then tag n else tagOfDefinition ns

end

/-- Calls a function on a node and on everything below it, with the tags, in the order of the text,
each node before its children. -/
def visit {σ : Type} (f : σ → Node text → Tag → σ) (n : Node text) (s : σ) : σ :=
  Position.visitFrom (fun s n => f s n n.tag) n.size (Position.atNode n) s

/-- The nodes that are visited. -/
def walk (n : Node text) : List (Node text) :=
  (n.visit (fun visited n _ => n :: visited) []).reverse

/-- The definition without its decorators. -/
def undecorated? (n : Node text) : Option (Node text) :=
  if n.kind = Symbol.decoratedDefinition then n.child? .definition else some n

/-- The name that a call calls: an identifier, or what stands after the last dot of an attribute
access.  What is called by a computed value has no name. -/
def callTarget? (call : Node text) : Option String :=
  match call.child? .callee with
  | none => none
  | some callee =>
    let name :=
      if callee.kind = Symbol.identifier then some callee.source
      else if callee.kind = Symbol.attributeAccess then (callee.child? .attribute).map source
      else none
    name.filter (· ≠ "")

/-- The text of the string that is the first statement of a definition, without the letters and
quotes around it and the blank space inside them. -/
def docstring? (definition : Node text) : Option String :=
  match definition.child? .body with
  | none => none
  | some body =>
    match body.namedChildren with
    | [] => none
    | statement :: _ =>
      if statement.kind = Symbol.expressionStatement then
        match statement.children with
        | [] => none
        | first :: _ =>
          if first.kind = Symbol.string then
            let quoted := first.source.toList.dropWhile Char.isAlpha
            let inner := trimEnds (fun c => c = '"' || c = '\'') quoted
            some (String.ofList (trimEnds isBlank inner))
          else none
      else none

end Node

end CallContext
