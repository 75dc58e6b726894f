import CallContext.Parsing.Stack

/-!
# Versions of a parse

Where the text is ambiguous or faulty the parser follows several versions of the parse side by
side.  A `Version` is a stack with what is needed to go on from it, and versions are compared by
their `Standing`: a version that explains the text at clearly less cost replaces the other.
-/

namespace CallContext

/-- Whether a version goes on. -/
inductive Status (text : List Char) where
  | active
  /-- It waits, since the automaton has no use for the next token. -/
  | paused (token : Token text)
  /-- It has ended. -/
  | halted

/-- One way to parse the text up to a place. -/
structure Version (text : List Char) where
  stack : Stack text
  /-- The layout after the last layout token. -/
  layout : Option Layout
  /-- The weight of the stack at the last error. -/
  errorWeight : Nat
  status : Status text
  /-- The vertices from which the parse could go on, while it is inside an error. -/
  footholds : Option (List (Stack.Foothold text))

/-- What versions are compared by. -/
structure Standing where
  cost : Nat
  /-- The weight of what was parsed since the last error. -/
  since : Nat
  precedence : Int
  inError : Bool

/-- The result of a comparison: the first or the second is to be preferred, or even to be taken
alone. -/
inductive Verdict where
  | takeFirst
  | preferFirst
  | even
  | preferSecond
  | takeSecond
deriving DecidableEq

/-- A difference in cost counts the more, the longer the parse went well after the error. -/
def Standing.decisive (low high : Standing) : Bool :=
  1600 < (high.cost - low.cost) * (1 + low.since)

/-- Compares two versions. -/
def Standing.judge (a b : Standing) : Verdict :=
  if !a.inError && b.inError then if a.cost < b.cost then .takeFirst else .preferFirst
  else if a.inError && !b.inError then if b.cost < a.cost then .takeSecond else .preferSecond
  else if a.cost < b.cost then if a.decisive b then .takeFirst else .preferFirst
  else if b.cost < a.cost then if b.decisive a then .takeSecond else .preferSecond
  else if b.precedence < a.precedence then .preferFirst
  else if a.precedence < b.precedence then .preferSecond
  else .even

namespace Version

variable {text : List Char}

/-- The version at the beginning of the text. -/
def initial (text : List Char) : Version text :=
  ⟨Stack.bottom text, none, 0, .active, none⟩

def isActive (v : Version text) : Bool :=
  match v.status with
  | .active => true
  | _ => false

def isPaused (v : Version text) : Bool :=
  match v.status with
  | .paused _ => true
  | _ => false

def isHalted (v : Version text) : Bool :=
  match v.status with
  | .halted => true
  | _ => false

/-- Puts a subtree on the stack; without a subtree the place of an error. -/
def push (serial state : Nat) (tree : Option (Subtree text)) (v : Version text) : Version text :=
  let stack := v.stack.push serial state tree
  { v with
    stack := stack
    errorWeight := if tree.isNone then stack.weight else v.errorWeight }

/-- The same parse at a vertex of its stack. -/
def fork (v : Version text) (stack : Stack text) : Version text :=
  ⟨stack, v.layout, v.errorWeight, .active, none⟩

/-- The version has ended. -/
def halt (v : Version text) : Version text := { v with status := .halted }

/-- The version waits before a token. -/
def pause (token : Token text) (v : Version text) : Version text :=
  { v with status := .paused token, errorWeight := v.stack.weight }

/-- The stack is not lighter than at the last error. -/
def settle (v : Version text) : Version text :=
  { v with errorWeight := min v.errorWeight v.stack.weight }

/-- The cost of the parse, that of an open error included. -/
def cost (v : Version text) : Nat :=
  let open? := v.isPaused || (v.stack.state = 0 && v.stack.links.head?.any (·.2.isNone))
  v.stack.cost + if open? then costs.recovery else 0

/-- The weight of what was parsed since the last error. -/
def since (v : Version text) : Nat := v.stack.weight - v.errorWeight

/-- What a version is compared by. -/
def standing (v : Version text) : Standing :=
  ⟨v.cost + (if v.isPaused then costs.skippedTree else 0), v.since, v.stack.precedence,
    v.isPaused || v.stack.state = 0⟩

/-- Text was taken since the last error. -/
def progressed (v : Version text) : Bool :=
  v.stack.cost = 0 || v.stack.progressed v.errorWeight

/-- Two versions have come to the same point. -/
def canMerge (v w : Version text) : Bool :=
  v.isActive && w.isActive && v.stack.state = w.stack.state &&
    v.stack.place.offset = w.stack.place.offset && v.stack.cost = w.stack.cost &&
    v.layout = w.layout

/-- One version for two that have come to the same point. -/
def merge (v w : Version text) : Version text :=
  let stack := v.stack.join w.stack
  { v with
    stack := stack
    errorWeight := if stack.state = 0 then stack.weight else v.errorWeight }

/-- Merges a version into the first possible one of some. -/
def mergeInto? (w : Version text) : List (Version text) → Option (List (Version text))
  | [] => none
  | v :: more =>
    if v.canMerge w then some (v.merge w :: more)
    else (mergeInto? w more).map (v :: ·)

/-- Puts a version into the place of another, whose footholds it keeps. -/
def replace (old new : Version text) : Version text :=
  { new with footholds := new.footholds <|> old.footholds }

end Version

end CallContext
