import CallContext.Parsing.Run

/-!
# Syntax trees

A `Node` is what the analysis sees of a parse: hidden subtrees are gone, their children stand in
their place, and every node knows its kind, the field that it plays in its parent and its place in
the text.
-/

namespace CallContext

/-- A node of a syntax tree. -/
inductive Node (text : List Char) where
  | mk (kind : Symbol) (field : Option Field) (start stop : Cursor text)
    (isMissing hasFault : Bool) (children : List (Node text))

namespace Node

variable {text : List Char}

def kind : Node text → Symbol
  | mk kind .. => kind

/-- The part that the node plays in its parent. -/
def field : Node text → Option Field
  | mk _ field .. => field

def start : Node text → Cursor text
  | mk _ _ start .. => start

def stop : Node text → Cursor text
  | mk _ _ _ stop .. => stop

/-- The node stands for a token that the text lacks. -/
def isMissing : Node text → Bool
  | mk _ _ _ _ isMissing .. => isMissing

/-- Some text in the node is outside the grammar, or a token is missing. -/
def hasFault : Node text → Bool
  | mk _ _ _ _ _ hasFault _ => hasFault

def children : Node text → List (Node text)
  | mk _ _ _ _ _ _ children => children

/-- The text of the node is outside the grammar. -/
def isError (n : Node text) : Bool := n.kind = Symbol.error

/-- The text of the node. -/
def source (n : Node text) : String := n.start.between n.stop

/-- The line on which the node starts, the first line being 1. -/
def startLine (n : Node text) : Nat := n.start.line + 1

/-- The line on which the node ends, the first line being 1. -/
def endLine (n : Node text) : Nat := n.stop.line + 1

/-- The children that play a field. -/
def childrenOf (n : Node text) (field : Field) : List (Node text) :=
  n.children.filter (·.field = some field)

/-- The first child that plays a field. -/
def child? (n : Node text) (field : Field) : Option (Node text) :=
  n.children.find? (·.field = some field)

/-- The first child of a kind. -/
def childOfKind? (n : Node text) (kind : Symbol) : Option (Node text) :=
  n.children.find? (·.kind = kind)

/-- The children that are more than punctuation or keywords. -/
def namedChildren (n : Node text) : List (Node text) := n.children.filter (·.kind.named)

mutual

/-- The node and everything below it, each node before its children. -/
def preorder : Node text → List (Node text)
  | mk kind field start stop isMissing hasFault children =>
    mk kind field start stop isMissing hasFault children :: preorderAll children

/-- The nodes of several trees, one tree after the other. -/
def preorderAll : List (Node text) → List (Node text)
  | [] => []
  | n :: ns => preorder n ++ preorderAll ns

end

mutual

/-- Puts the nodes of a subtree before others.  A subtree that is not shown, unless under the
`kind` that its parent gives it, is replaced by its children, which play its field. -/
def ofSubtree (kind : Option Symbol) (field : Option Field) :
    Subtree text → List (Node text) → List (Node text)
  | .leaf token _, after =>
    match kind, token.symbol.shown with
    | none, false => after
    | _, _ => mk (kind.getD token.symbol) field token.start token.stop false false [] :: after
  | .missing symbol place, after =>
    match kind, symbol.shown with
    | none, false => after
    | _, _ => mk (kind.getD symbol) field place place true true [] :: after
  | .node symbol labels _ tally children, after =>
    match kind, symbol.shown with
    | none, false => ofSubtrees labels field 0 children after
    | _, _ =>
      mk (kind.getD symbol) field tally.start tally.stop false (0 < tally.cost)
        (ofSubtrees labels none 0 children []) :: after

/-- Puts the nodes of the children of a subtree before others; `position` counts the children that
are not extras, and `field` is what children play that have no field of their own. -/
def ofSubtrees (labels : Labels) (field : Option Field) :
    (position : Nat) → List (Subtree text) → List (Node text) → List (Node text)
  | _, [], after => after
  | position, t :: ts, after =>
    if t.isExtra then ofSubtree none none t (ofSubtrees labels field position ts after)
    else
      ofSubtree (labels.kindAt position) (labels.fieldAt position <|> field) t
        (ofSubtrees labels field (position + 1) ts after)

end

/-- The syntax tree of a whole text. -/
def parse? (text : List Char) : Option (Node text) :=
  (Machine.parse? text).bind fun tree => (ofSubtree none none tree []).head?

end Node

end CallContext
