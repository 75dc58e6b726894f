import CallContext.Model.Catalog
import CallContext.Syntax.Module

/-!
# Definitions of a module

The functions and classes at the top level of a module.  Of several definitions of one name only
the last counts, as it does when the module is run.
-/

namespace CallContext

/-- An element with its node in the syntax tree. -/
structure Definition (text : List Char) where
  element : Element
  node : Node text

namespace Node

variable {text : List Char}

/-- The element that a node defines, with its decorators. -/
def element? (n : Node text) (kind : ElementKind) : Option Element :=
  match n.undecorated? with
  | none => none
  | some inner =>
    match (inner.child? .name).map source with
    | none => none
    | some name =>
      if name = "" then none
      else
        some ⟨name, kind, n.source, n.startLine, n.endLine, n.start.offset, n.stop.offset,
          inner.docstring?⟩

/-- The definition that a node is. -/
def definition? (n : Node text) : Option (Definition text) :=
  match n.tag with
  | .definition kind => (n.element? kind).map (⟨·, n⟩)
  | _ => none

end Node

/-- Definitions that were found so far, with the position of each name. -/
structure Collection (text : List Char) where
  definitions : List (Definition text)
  positions : List (String × Nat)

namespace Collection

variable {text : List Char}

/-- Nothing was found yet. -/
def empty : Collection text := ⟨[], []⟩

/-- Takes the definition of a name out, if there is one, and moves up those behind it. -/
def drop (c : Collection text) (name : String) : Collection text :=
  match c.positions.lookup name with
  | none => c
  | some previous =>
    ⟨c.definitions.eraseIdx previous,
      Catalog.closeGap previous (c.positions.filter (·.1 ≠ name))⟩

/-- Adds a definition behind the others, in place of the one of its name. -/
def add (c : Collection text) (d : Definition text) : Collection text :=
  let others := c.drop d.element.name
  ⟨others.definitions ++ [d],
    others.positions ++ [(d.element.name, others.definitions.length)]⟩

end Collection

namespace Module

/-- The definitions at the top level, in the order of the text. -/
def definitions (m : Module) : List (Definition m.text) :=
  ((m.root.namedChildren.filterMap Node.definition?).foldl Collection.add .empty).definitions

/-- The elements of a module. -/
def catalog (m : Module) : Catalog := Catalog.ofList (m.definitions.map (·.element))

end Module

end CallContext
