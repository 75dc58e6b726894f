import CallContext.Parsing.Version

/-!
# The machine

The `Machine` holds the versions of a parse, of which the most promising comes first, and the best
complete parse so far.  Versions are addressed by their rank.  This module has the steps that take
a version to the next token: shifting it, reducing subtrees to a larger one, and accepting the
text.
-/

namespace CallContext

/-- All versions of a parse. -/
structure Machine (text : List Char) where
  versions : List (Version text)
  /-- The best parse of the whole text. -/
  finished : Option (Subtree text)
  /-- How many parses of the whole text were found. -/
  accepted : Nat
  /-- The serial number of the next vertex. -/
  serial : Nat

namespace Machine

variable {text : List Char}

/-- At most this many versions are followed. -/
def maxVersions : Nat := 6

/-- At most this many versions are followed until the next comparison. -/
def maxOverflow : Nat := 4

/-- The machine at the beginning of the text. -/
def initial (text : List Char) : Machine text := ⟨[Version.initial text], none, 0, 1⟩

/-- More links than any way down a stack has. -/
def fuel (m : Machine text) : Nat := m.serial + 2

def version? (m : Machine text) (rank : Nat) : Option (Version text) := m.versions[rank]?

/-- The state of a version. -/
def state (m : Machine text) (rank : Nat) : Nat :=
  match m.version? rank with
  | some v => v.stack.state
  | none => 0

/-- Changes a version. -/
def change (m : Machine text) (rank : Nat) (f : Version text → Version text) : Machine text :=
  { m with versions := m.versions.modify rank f }

/-- Takes a version out. -/
def remove (m : Machine text) (rank : Nat) : Machine text :=
  { m with versions := m.versions.eraseIdx rank }

/-- Puts a subtree on the stack of a version. -/
def push (m : Machine text) (rank : Nat) (tree : Option (Subtree text)) (state : Nat) :
    Machine text :=
  { m.change rank (·.push m.serial state tree) with serial := m.serial + 1 }

/-- Moves a version to the rank of another, which it replaces. -/
def promote (m : Machine text) (source target : Nat) : Machine text :=
  match m.version? source with
  | some new =>
    if source = target then m
    else (m.change target (·.replace new)).remove source
  | none => m

/-- Merges a version into another. -/
def merge? (m : Machine text) (target source : Nat) : Option (Machine text) :=
  match m.version? target, m.version? source with
  | some v, some w =>
    if v.canMerge w then some ((m.change target (·.merge w)).remove source) else none
  | _, _ => none

/-- Merges a version into the first possible one of the ranks from `low`, of which there are
`count`. -/
def mergeAmong? (m : Machine text) (source : Nat) : (low count : Nat) → Option (Machine text)
  | _, 0 => none
  | low, count + 1 =>
    match m.merge? low source with
    | some m => some m
    | none => mergeAmong? m source (low + 1) count

/-- Adds a version, or merges it into the first possible one that is not at rank `apart`. -/
def addVersion (m : Machine text) (apart : Nat) (new : Version text) : Machine text :=
  let rank := m.versions.length
  let added := { m with versions := m.versions ++ [new] }
  match added.mergeAmong? rank 0 apart with
  | some m => m
  | none =>
    match added.mergeAmong? rank (apart + 1) (rank - (apart + 1)) with
    | some m => m
    | none => added

/-! ### Reducing -/

/-- Makes a subtree of a run of subtrees, and keeps the extras apart that stand last. -/
def subtree (r : Reduction) (place : Cursor text) (run : List (Subtree text)) :
    Subtree text × List (Subtree text) :=
  let (children, extras) := Subtree.splitExtras run
  (Subtree.build r.result r.labels r.precedence place children, extras)

/-- The best subtree of several runs of subtrees. -/
def bestSubtree (r : Reduction) (place : Cursor text) (run : List (Subtree text))
    (runs : List (List (Subtree text))) : Subtree text × List (Subtree text) :=
  runs.foldl (fun best run =>
    let other := subtree r place run
    if best.1.prefersSecond other.1 then other else best) (subtree r place run)

/-- Puts subtrees on the stack of a version. -/
def pushOnto (v : Version text) (serial state : Nat) :
    List (Subtree text) → Version text × Nat
  | [] => (v, serial)
  | t :: ts => pushOnto (v.push serial state (some t)) (serial + 1) state ts

/-- Adds the version that a reduction makes of a slice of the stack of the version at a rank. -/
def addReduced (rank : Nat) (v : Version text) (r : Reduction) (m : Machine text)
    (slice : Stack.Slice text) : Machine text :=
  match slice.runs with
  | [] => m
  | run :: runs =>
    if maxVersions + maxOverflow < m.versions.length then m
    else
      let (tree, extras) := bestSubtree r slice.base.place run runs
      let state := Automaton.next slice.base.state r.result
      let (new, serial) := pushOnto (v.fork slice.base) m.serial state (tree :: extras)
      { m with serial := serial }.addVersion rank new

/-- Adds the versions that a reduction makes of a version; the version itself stays. -/
def reduce (m : Machine text) (rank : Nat) (r : Reduction) : Machine text :=
  match m.version? rank with
  | some v => (v.stack.pop m.fuel r.arity).foldl (addReduced rank v r) m
  | none => m

/-! ### Accepting -/

/-- The subtree of the whole text: its extras become children of the one that is none. -/
def root? (trees : List (Subtree text)) : Option (Subtree text) :=
  let after := (trees.reverse.takeWhile Subtree.isExtra).reverse
  match trees.reverse.dropWhile Subtree.isExtra with
  | [] => none
  | t :: before =>
    some (Subtree.build t.symbol t.labels 0 t.left (before.reverse ++ t.children ++ after))

/-- Keeps the better one of two parses of the whole text. -/
def finish (m : Machine text) (trees : List (Subtree text)) : Machine text :=
  let m := { m with accepted := m.accepted + 1 }
  match m.finished, root? trees with
  | some old, some new => if old.prefersSecond new then { m with finished := new } else m
  | none, new => { m with finished := new }
  | _, none => m

/-- Ends a version at the end of the text. -/
def accept (m : Machine text) (rank : Nat) (token : Token text) : Machine text :=
  let m := m.push rank (some (.leaf token true)) 1
  match m.version? rank with
  | some v =>
    let runs := (v.stack.popAll m.fuel).flatMap (·.runs)
    (runs.foldl finish m).change rank Version.halt
  | none => m

/-! ### Shifting -/

/-- Takes a token. -/
def shift (m : Machine text) (rank state : Nat) (token : Token text) (extra : Bool) :
    Machine text :=
  (m.push rank (some (.leaf token extra)) state).change rank fun v =>
    { v with layout := token.layout <|> v.layout }

end Machine

end CallContext
