import CallContext.Grammar.Reduction
import CallContext.Parsing.Token

/-!
# Subtrees

What the parser builds: leaves, tokens that are missing from the text, and nodes.  A node carries
the `Tally` of its children: its place in the text and the numbers by which competing parses are
compared.  The `cost` of a subtree says how much of its text the grammar does not explain; it is
`0` exactly for subtrees without faults.
-/

namespace CallContext

/-- What is known about a node without looking at its children. -/
structure Tally (text : List Char) where
  /-- The end of the token before the node. -/
  left : Cursor text
  start : Cursor text
  stop : Cursor text
  cost : Nat
  /-- Children that are shown, those of hidden children included. -/
  shownChildren : Nat
  /-- Descendants that are shown. -/
  shownDescendants : Nat
  /-- The preference for the node among ambiguous ones. -/
  precedence : Int

/-- A part of a parse. -/
inductive Subtree (text : List Char) where
  /-- A token; an extra one may stand anywhere. -/
  | leaf (token : Token text) (extra : Bool)
  /-- A token that the text lacks. -/
  | missing (symbol : Symbol) (place : Cursor text)
  | node (symbol : Symbol) (labels : Labels) (extra : Bool) (tally : Tally text)
    (children : List (Subtree text))

/-- What each fault costs. -/
structure Costs where
  recovery : Nat
  missing : Nat
  skippedTree : Nat
  skippedByte : Nat
  skippedLine : Nat

/-- The costs of faults. -/
def costs : Costs := ⟨500, 110, 100, 1, 30⟩

namespace Subtree

variable {text : List Char}

def symbol : Subtree text → Symbol
  | leaf token _ => token.symbol
  | missing symbol _ => symbol
  | node symbol .. => symbol

def isExtra : Subtree text → Bool
  | leaf _ extra => extra
  | missing .. => false
  | node _ _ extra .. => extra

def left : Subtree text → Cursor text
  | leaf token _ => token.left
  | missing _ place => place
  | node _ _ _ tally _ => tally.left

def start : Subtree text → Cursor text
  | leaf token _ => token.start
  | missing _ place => place
  | node _ _ _ tally _ => tally.start

def stop : Subtree text → Cursor text
  | leaf token _ => token.stop
  | missing _ place => place
  | node _ _ _ tally _ => tally.stop

def cost : Subtree text → Nat
  | leaf .. => 0
  | missing .. => costs.missing + costs.recovery
  | node _ _ _ tally _ => tally.cost

def shownChildren : Subtree text → Nat
  | node _ _ _ tally _ => tally.shownChildren
  | _ => 0

def shownDescendants : Subtree text → Nat
  | node _ _ _ tally _ => tally.shownDescendants
  | _ => 0

def precedence : Subtree text → Int
  | node _ _ _ tally _ => tally.precedence
  | _ => 0

def labels : Subtree text → Labels
  | node _ labels .. => labels
  | _ => Labels.none

def children : Subtree text → List (Subtree text)
  | node _ _ _ _ children => children
  | _ => []

/-- The layout after the subtree, if it is a token that the layout produced. -/
def layout : Subtree text → Option Layout
  | leaf token _ => token.layout
  | _ => none

/-- The subtree with another mark of being extra. -/
def withExtra (extra : Bool) : Subtree text → Subtree text
  | leaf token _ => leaf token extra
  | missing symbol place => missing symbol place
  | node symbol labels _ tally children => node symbol labels extra tally children

/-- How many bytes the subtree and the blank space before it take. -/
def size (t : Subtree text) : Nat := t.stop.offset - t.left.offset

/-- How many shown nodes the subtree counts for. -/
def weight (t : Subtree text) : Nat :=
  t.shownDescendants + (if t.symbol.shown then 1 else 0) +
    (if t.symbol = Symbol.skipped then 1 else 0)

/-- What a child adds to the cost of the unparsed stretch that it belongs to. -/
def skippedCost (t : Subtree text) : Nat :=
  if t.isExtra || (t.symbol = Symbol.error && t.children.isEmpty) then 0
  else if t.symbol.shown then costs.skippedTree
  else costs.skippedTree * t.shownChildren

/-- Adds the child at a position to the tally of a node. -/
def addChild (symbol : Symbol) (labels : Labels) (sum : Tally text × Nat) (child : Subtree text) :
    Tally text × Nat :=
  let (tally, position) := sum
  let renamed := !child.isExtra && (labels.kindAt position).isSome
  let shown := if renamed || child.symbol.shown then 1 else 0
  ({ tally with
      stop := child.stop
      cost := tally.cost + (if child.symbol = Symbol.skipped then 0 else child.cost) +
        (if symbol.isFault then child.skippedCost else 0)
      shownChildren :=
        tally.shownChildren + (if shown = 1 then 1 else child.shownChildren)
      shownDescendants := tally.shownDescendants + child.shownDescendants + shown
      precedence := tally.precedence + child.precedence },
    if child.isExtra then position else position + 1)

/-- The tally of a node; one without children stands at `place`. -/
def tally (symbol : Symbol) (labels : Labels) (precedence : Int) (place : Cursor text)
    (children : List (Subtree text)) : Tally text :=
  let empty : Tally text :=
    match children with
    | [] => ⟨place, place, place, 0, 0, 0, precedence⟩
    | first :: _ => ⟨first.left, first.start, first.stop, 0, 0, 0, precedence⟩
  let sum := (children.foldl (addChild symbol labels) (empty, 0)).1
  if symbol.isFault then
    { sum with
      cost := sum.cost + costs.recovery +
        costs.skippedByte * (sum.stop.offset - sum.start.offset) +
        costs.skippedLine * (sum.stop.line - sum.start.line) }
  else sum

/-- A node with its children. -/
def build (symbol : Symbol) (labels : Labels) (precedence : Int) (place : Cursor text)
    (children : List (Subtree text)) : Subtree text :=
  node symbol labels false (tally symbol labels precedence place children) children

/-- Splits the extras off that stand last. -/
def splitExtras (children : List (Subtree text)) : List (Subtree text) × List (Subtree text) :=
  let extras := (children.reverse.takeWhile isExtra).reverse
  (children.take (children.length - extras.length), extras)

mutual

/-- A fixed order on subtrees: by symbol, by number of children, by the children. -/
def compare : Subtree text → Subtree text → Ordering
  | node s _ _ _ cs, t =>
    (Ord.compare s.code t.symbol.code).then <|
      (Ord.compare cs.length t.children.length).then (compareAll cs t.children)
  | s, t =>
    (Ord.compare s.symbol.code t.symbol.code).then (Ord.compare 0 t.children.length)

/-- The order on lists of subtrees. -/
def compareAll : List (Subtree text) → List (Subtree text) → Ordering
  | s :: ss, t :: ts => (compare s t).then (compareAll ss ts)
  | _, _ => .eq

end

/-- Of two parses of the same text the second is better. -/
def prefersSecond (first second : Subtree text) : Bool :=
  if second.cost ≠ first.cost then second.cost < first.cost
  else if second.precedence ≠ first.precedence then first.precedence < second.precedence
  else first.cost > 0 || compare first second = .gt

/-- Two subtrees between the same vertices of a stack may stand for each other. -/
def interchangeable (s t : Subtree text) : Bool :=
  s.symbol = t.symbol &&
    ((s.cost > 0 && t.cost > 0) ||
      (s.left.offset = t.left.offset && s.start.offset = t.start.offset &&
        s.stop.offset = t.stop.offset && s.children.length = t.children.length &&
        s.isExtra = t.isExtra && s.layout = t.layout))

end Subtree

end CallContext
