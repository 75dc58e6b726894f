import CallContext.Parsing.Recovery

/-!
# Running the machine

All versions are taken one token further, then compared, and so on until no version can become
better than the parse that is finished.  `Machine.parse?` gives the subtree of a whole text.

Nothing but the text bounds these loops, so that they are given numbers of steps:

* Before a token there are a few reductions for each link of a stack at most, since the grammar has
  no circles; so `Machine.passFuel` is never used up.
* The loops over tokens, versions and rounds give no result when their steps are used up, and a
  result that they give is the same for all greater numbers.  A round takes every version past the
  offset that was reached before, or else a block, a string or a version ends there, so that a few
  rounds for each character are ample (`Machine.stepsFor`).
-/

namespace CallContext

namespace Machine

variable {text : List Char}

/-! ### One token -/

/-- What the acts for a token have led to. -/
inductive Progress (text : List Char) where
  /-- The token is dealt with. -/
  | done (m : Machine text)
  /-- It is still ahead; the last reduction has added a version. -/
  | ahead (m : Machine text) (added : Option Nat)

/-- Carries out the acts for a token. -/
def perform (rank : Nat) (token : Token text) : List Act → Machine text → Option Nat → Progress text
  | [], m, added => .ahead m added
  | .shift state :: _, m, _ => .done (m.shift rank state token false)
  | .shiftExtra :: _, m, _ => .done (m.shift rank (m.state rank) token true)
  | .accept :: _, m, _ => .done (m.accept rank token)
  | .recover :: _, m, _ => .done (m.recover rank token)
  | .shiftRepeated _ :: acts, m, added => perform rank token acts m added
  | .reduce r :: acts, m, added =>
    let reduced := m.reduce rank r
    let added :=
      if m.versions.length < reduced.versions.length then some m.versions.length else added
    perform rank token acts reduced added

/-- Takes the version at a rank past a token. -/
def pass (rank : Nat) : (fuel : Nat) → Token text → Machine text → Machine text
  | 0, _, m => m.change rank Version.halt
  | fuel + 1, token, m =>
    let state := m.state rank
    match perform rank token (Automaton.acts state token.symbol) m none with
    | .done m => m
    | .ahead m (some added) => pass rank fuel token (m.promote added rank)
    | .ahead m none =>
      if Lexeme.isKeyword token.symbol && !(Automaton.acts state Symbol.identifier).isEmpty then
        pass rank fuel token.asIdentifier m
      else if state = 0 then m.recover rank token
      else m.change rank (Version.pause token)

/-- More reductions than the stacks allow before a token. -/
def passFuel (m : Machine text) : Nat := 8 * (m.serial + 1)

/-- Takes the version at a rank one token further. -/
def advance (m : Machine text) (rank : Nat) : Machine text :=
  match m.version? rank with
  | some v =>
    let token := Token.read v.stack.state v.progressed v.layout v.stack.place
    pass rank m.passFuel token m
  | none => m

/-- Takes the version at a rank further while it is active and not beyond the offset `last`; gives
the offset that it came to beyond it, unless that takes more steps than `fuel`. -/
def advanceBeyond (rank : Nat) : (fuel last : Nat) → Machine text → Option (Nat × Machine text)
  | 0, _, _ => none
  | fuel + 1, last, m =>
    match m.version? rank with
    | some v =>
      if v.isActive then
        let m := m.advance rank
        match m.version? rank with
        | some v =>
          let offset := v.stack.place.offset
          if last < offset || (0 < rank && offset = last) then some (offset, m)
          else advanceBeyond rank fuel last m
        | none => some (last, m)
      else some (last, m)
    | none => some (last, m)

/-- Takes all versions from a rank on one token further, each in `steps` steps. -/
def advanceAll (steps : Nat) : (fuel rank last : Nat) → Machine text → Option (Nat × Machine text)
  | 0, _, _, _ => none
  | fuel + 1, rank, last, m =>
    if m.versions.length ≤ rank then some (last, m)
    else
      match advanceBeyond rank steps last m with
      | some (last, m) => advanceAll steps fuel (rank + 1) last m
      | none => none

/-! ### Comparing the versions -/

/-- Adds a version of the standing `s` to those that are kept so far: it replaces what is clearly
worse, merges with what has come to the same point, and takes its rank. -/
def rankIn (s : Standing) (new : Version text) : List (Version text) → List (Version text)
  | [] => [new]
  | v :: more =>
    match v.standing.judge s with
    | .takeFirst => v :: more
    | .preferFirst | .even =>
      if v.canMerge new then v.merge new :: more else v :: rankIn s new more
    | .preferSecond =>
      if v.canMerge new then v.merge new :: more else new :: rankIn s v more
    | .takeSecond => rankIn s new more

/-- The versions worth following, and the least cost of those that are not inside an error. -/
def select (versions : List (Version text)) : List (Version text) × Option Nat :=
  versions.foldl (fun (kept, least) v =>
    if v.isHalted then (kept, least)
    else
      let v := v.settle
      let s := v.standing
      let least :=
        if s.inError then least
        else some (match least with | some n => min n s.cost | none => s.cost)
      (rankIn s v kept, least)) ([], none)

/-- Goes through the versions by rank, `count` of them: the first that is paused is taken out of
its error unless a better one is active, and the others that are paused end. -/
def resume : (count rank : Nat) → (busy : Bool) → Option Nat → Machine text →
    Option Nat × Machine text
  | 0, _, _, least, m => (least, m)
  | count + 1, rank, busy, least, m =>
    match m.version? rank with
    | some v =>
      match v.status with
      | .paused token =>
        if !busy && m.accepted < maxVersions then
          let resumed := m.change rank fun v => { v with status := .active }
          resume count (rank + 1) true (some v.cost) (resumed.handleError rank token)
        else resume count rank busy least (m.remove rank)
      | _ => resume count (rank + 1) true least m
    | none => (least, m)

/-- Compares the versions; gives the least cost of those that go on. -/
def condense (m : Machine text) : Option Nat × Machine text :=
  let (versions, least) := select m.versions
  let versions := versions.take maxVersions
  resume versions.length 0 false least { m with versions := versions }

/-! ### The whole text -/

/-- No version can become better than the finished parse. -/
def isSettled (m : Machine text) (least : Option Nat) : Bool :=
  match m.finished, least with
  | some tree, some cost => tree.cost < cost
  | some _, none => true
  | none, _ => false

/-- Runs the machine until the finished parse is the best, each round in `steps` steps. -/
def run (steps : Nat) : (fuel last : Nat) → Machine text → Option (Subtree text)
  | 0, _, _ => none
  | fuel + 1, last, m =>
    match advanceAll steps steps 0 last m with
    | some (last, m) =>
      let exhausted := m.versions.isEmpty
      let (least, m) := m.condense
      if m.isSettled least || exhausted then m.finished
      else run steps fuel last m
    | none => none

/-- How many steps a text is given. -/
def stepsFor (text : List Char) : Nat := 64 * (text.length + 16)

/-- The subtree of a whole text. -/
def parse? (text : List Char) : Option (Subtree text) :=
  run (stepsFor text) (stepsFor text) 0 (initial text)

end Machine

end CallContext
