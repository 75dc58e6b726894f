import CallContext.Syntax.Node

/-!
# Walking through a syntax tree

A `Position` is a node together with the way back to the node where the walk began.  From a
position one goes to the first child, to the next sibling or back to the parent, but never beyond
the node where the walk began.  A walk visits the nodes below a node in this way, each before its
children.
-/

namespace CallContext

/-- A node on a walk. -/
structure Position (text : List Char) where
  node : Node text
  /-- The siblings to the right of the node. -/
  later : List (Node text)
  /-- The ancestors up to the beginning of the walk, the nearest first, each with the siblings to
  its right. -/
  above : List (Node text × List (Node text))

namespace Position

variable {text : List Char}

/-- The beginning of a walk; the siblings of the node are not part of it. -/
def atNode (n : Node text) : Position text := ⟨n, [], []⟩

def firstChild? (p : Position text) : Option (Position text) :=
  match p.node.children with
  | [] => none
  | c :: cs => some ⟨c, cs, (p.node, p.later) :: p.above⟩

def nextSibling? (p : Position text) : Option (Position text) :=
  match p.later with
  | [] => none
  | c :: cs => some ⟨c, cs, p.above⟩

def parent? (p : Position text) : Option (Position text) :=
  match p.above with
  | [] => none
  | (n, later) :: above => some ⟨n, later, above⟩

/-- The next sibling of the node, or else of the nearest ancestor that has one. -/
def onward? (later : List (Node text)) :
    List (Node text × List (Node text)) → Option (Position text)
  | above@((_, upper) :: higher) =>
    match later with
    | c :: cs => some ⟨c, cs, above⟩
    | [] => onward? upper higher
  | [] =>
    match later with
    | c :: cs => some ⟨c, cs, []⟩
    | [] => none

/-- The position that a walk visits next. -/
def next? (p : Position text) : Option (Position text) :=
  match p.firstChild? with
  | some child => some child
  | none => onward? p.later p.above

/-- Calls a function on the nodes that a walk of at most `fuel` nodes visits, one after the other. -/
def visitFrom {σ : Type} (f : σ → Node text → σ) : Nat → Position text → σ → σ
  | 0, _, s => s
  | fuel + 1, p, s =>
    match p.next? with
    | some next => visitFrom f fuel next (f s p.node)
    | none => f s p.node

end Position

namespace Node

variable {text : List Char}

mutual

/-- Adds to `n` the number of nodes of a tree. -/
def addSize : Node text → Nat → Nat
  | mk _ _ _ _ _ _ children, n => addSizes children (n + 1)

/-- Adds to `n` the number of nodes of several trees. -/
def addSizes : List (Node text) → Nat → Nat
  | [], n => n
  | c :: cs, n => addSizes cs (addSize c n)

end

/-- The number of nodes of a tree. -/
def size (n : Node text) : Nat := n.addSize 0

end Node

end CallContext
