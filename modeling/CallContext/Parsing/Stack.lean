import CallContext.Parsing.Subtree

/-!
# Parse stacks

A stack is a vertex with links to the vertices below it.  Several links stand for several parses
of the same text that have come to the same state, so a stack is in fact a directed graph, of
which the versions of a parse share the lower parts.  Each vertex has a serial number, by which it
is known again after links have been added to it.

* `Stack.push` puts a subtree on top,
* `Stack.join` adds the links of one vertex to another,
* `Stack.pop` and `Stack.popAll` take subtrees off along all links,
* `Stack.summary` lists the states from which a parse could go on after an error.
-/

namespace CallContext

/-- A vertex of a parse stack with everything below it. -/
inductive Stack (text : List Char) where
  | vertex (serial state : Nat) (place : Cursor text) (cost weight : Nat) (precedence : Int)
    (links : List (Stack text × Option (Subtree text)))

namespace Stack

variable {text : List Char}

/-- A way from a vertex to one below it; without a subtree it marks the place of an error. -/
abbrev Link (text : List Char) := Stack text × Option (Subtree text)

def serial : Stack text → Nat
  | vertex serial .. => serial

/-- The state of the automaton. -/
def state : Stack text → Nat
  | vertex _ state .. => state

/-- The end of the text that the stack holds. -/
def place : Stack text → Cursor text
  | vertex _ _ place .. => place

/-- The cost of all subtrees. -/
def cost : Stack text → Nat
  | vertex _ _ _ cost .. => cost

/-- The weight of all subtrees. -/
def weight : Stack text → Nat
  | vertex _ _ _ _ weight .. => weight

/-- The precedence of all subtrees. -/
def precedence : Stack text → Int
  | vertex _ _ _ _ _ precedence _ => precedence

def links : Stack text → List (Link text)
  | vertex _ _ _ _ _ _ links => links

/-- The stack before the first token. -/
def bottom (text : List Char) : Stack text :=
  vertex 0 1 (Cursor.atStart text) 0 0 0 []

/-- A new vertex on top of a stack. -/
def push (serial state : Nat) (tree : Option (Subtree text)) (below : Stack text) : Stack text :=
  match tree with
  | none =>
    vertex serial state below.place below.cost below.weight below.precedence [(below, none)]
  | some t =>
    vertex serial state t.stop (below.cost + t.cost) (below.weight + t.weight)
      (below.precedence + t.precedence) [(below, some t)]

/-! ### Joining -/

/-- The precedence of a subtree that may be absent. -/
def linkPrecedence : Option (Subtree text) → Int
  | some t => t.precedence
  | none => 0

/-- The weight of a subtree that may be absent. -/
def linkWeight : Option (Subtree text) → Nat
  | some t => t.weight
  | none => 0

/-- The subtrees of two links may stand for each other. -/
def interchangeable : Option (Subtree text) → Option (Subtree text) → Bool
  | some s, some t => s.interchangeable t
  | none, none => true
  | _, _ => false

/-- Joins a link with one of some links if their subtrees may stand for each other and they lead
to the same vertex, or to vertices that can be joined by `join`.  Also gives the precedence of the
vertex that the links belong to, which was `precedence`. -/
def joinLink? (join : Stack text → Stack text) (target : Stack text)
    (tree : Option (Subtree text)) (precedence : Int) :
    List (Link text) → Option (List (Link text) × Int)
  | [] => none
  | (below, old) :: more =>
    let same := interchangeable old tree
    let sum := target.precedence + linkPrecedence tree
    if same && below.serial = target.serial then
      if linkPrecedence old < linkPrecedence tree then some ((below, tree) :: more, sum)
      else some ((below, old) :: more, precedence)
    else if same && below.state = target.state && below.place.offset = target.place.offset &&
        below.cost = target.cost then
      some ((join below, old) :: more, max precedence sum)
    else
      (joinLink? join target tree precedence more).map fun r => ((below, old) :: r.1, r.2)

/-- Adds a link to a vertex, which has at most 8 of them. -/
def insertLink (join : Stack text → Stack text) (target : Stack text)
    (tree : Option (Subtree text)) : Stack text → Stack text
  | vertex serial state place cost weight precedence links =>
    if target.serial = serial then vertex serial state place cost weight precedence links
    else
      match joinLink? join target tree precedence links with
      | some (links, precedence) => vertex serial state place cost weight precedence links
      | none =>
        if links.length = 8 then vertex serial state place cost weight precedence links
        else
          vertex serial state place cost (max weight (target.weight + linkWeight tree))
            (max precedence (target.precedence + linkPrecedence tree)) (links ++ [(target, tree)])

mutual

/-- Adds a link with everything below it to a vertex. -/
def addLink : Stack text → Option (Subtree text) → Stack text → Stack text
  | vertex serial state place cost weight precedence links, tree, top =>
    insertLink (addLinks links) (vertex serial state place cost weight precedence links) tree top

/-- Adds links one after the other. -/
def addLinks : List (Link text) → Stack text → Stack text
  | [], top => top
  | (target, tree) :: more, top => addLinks more (addLink target tree top)

end

/-- Adds the links of the second vertex to the first. -/
def join (top other : Stack text) : Stack text := addLinks other.links top

/-! ### Climbing down -/

/-- A way down from the top. -/
structure Climb (text : List Char) where
  /-- Where it has come to. -/
  stack : Stack text
  /-- The subtrees on the way, in the order of the text. -/
  trees : List (Subtree text)
  /-- The number of links that are not extras. -/
  depth : Nat

/-- Follows a link. -/
def Climb.follow (c : Climb text) (link : Link text) : Climb text :=
  match link.2 with
  | none => ⟨link.1, c.trees, c.depth + 1⟩
  | some t => ⟨link.1, t :: c.trees, if t.isExtra then c.depth else c.depth + 1⟩

/-- A vertex, and the runs of subtrees that lie between it and the top. -/
structure Slice (text : List Char) where
  base : Stack text
  runs : List (List (Subtree text))

/-- Adds a run of subtrees above a vertex. -/
def addRun (base : Stack text) (run : List (Subtree text)) : List (Slice text) → List (Slice text)
  | [] => [⟨base, [run]⟩]
  | s :: more =>
    if s.base.serial = base.serial then { s with runs := s.runs ++ [run] } :: more
    else s :: addRun base run more

/-- What to do at a vertex: whether to take the subtrees above it, and whether to go on. -/
structure Decision where
  take : Bool
  stop : Bool

/-- The ways down, all of the same length, while they are followed one link further. -/
structure Descent (text : List Char) (σ : Type) where
  memory : σ
  slices : List (Slice text)
  /-- Ways that go on, the last first. -/
  going : List (Climb text)
  /-- Ways that have branched off, the last first. -/
  branched : List (Climb text)
  /-- The number of all ways, of which there are at most 64. -/
  count : Nat

/-- Follows one way one link further. -/
def Descent.step {σ : Type} (visit : σ → Climb text → σ × Decision) (d : Descent text σ)
    (c : Climb text) : Descent text σ :=
  let (memory, decision) := visit d.memory c
  let d := { d with
    memory := memory
    slices := if decision.take then addRun c.stack c.trees d.slices else d.slices }
  match decision.stop, c.stack.links with
  | false, first :: more =>
    let d := { d with going := c.follow first :: d.going }
    more.foldl (fun d link =>
      if d.count < 64 then
        { d with branched := c.follow link :: d.branched, count := d.count + 1 }
      else d) d
  | _, _ => { d with count := d.count - 1 }

/-- Follows all ways down as far as `visit` lets them go. -/
def descend {σ : Type} (visit : σ → Climb text → σ × Decision) :
    (fuel : Nat) → σ → List (Slice text) → List (Climb text) → σ × List (Slice text)
  | 0, memory, slices, _ => (memory, slices)
  | _, memory, slices, [] => (memory, slices)
  | fuel + 1, memory, slices, ways =>
    let d := ways.foldl (Descent.step visit) ⟨memory, slices, [], [], ways.length⟩
    descend visit fuel d.memory d.slices (d.going.reverse ++ d.branched.reverse)

/-- Takes `count` subtrees off the top, extras not counted, along all ways. -/
def pop (fuel count : Nat) (top : Stack text) : List (Slice text) :=
  (descend (fun _ c => ((), ⟨c.depth = count, c.depth = count⟩)) fuel () [] [⟨top, [], 0⟩]).2

/-- Takes all subtrees off, along all ways. -/
def popAll (fuel : Nat) (top : Stack text) : List (Slice text) :=
  (descend (fun _ c => ((), ⟨c.stack.links.isEmpty, false⟩)) fuel () [] [⟨top, [], 0⟩]).2

/-- A vertex below the top from which a parse could go on. -/
structure Foothold (text : List Char) where
  place : Cursor text
  depth : Nat
  state : Nat

/-- The states of the vertices that at most 16 subtrees lie above, the nearest first; one of each
state and depth. -/
def summary (fuel : Nat) (top : Stack text) : List (Foothold text) :=
  let visit (seen : List (Foothold text)) (c : Climb text) : List (Foothold text) × Decision :=
    if 16 < c.depth then (seen, ⟨false, true⟩)
    else if (seen.takeWhile (c.depth ≤ ·.depth)).any
        (fun f => f.depth = c.depth && f.state = c.stack.state) then (seen, ⟨false, false⟩)
    else (⟨c.stack.place, c.depth, c.stack.state⟩ :: seen, ⟨false, false⟩)
  (descend visit fuel [] [] [⟨top, [], 0⟩]).1.reverse

/-- Along the first links, text was taken since the weight of the stack was `weight`. -/
def progressed (weight : Nat) : Stack text → Bool
  | vertex _ _ _ _ w _ ((below, some t) :: _) =>
    0 < t.size || (weight < w && t.cost = 0 && progressed weight below)
  | _ => false

end Stack

end CallContext
