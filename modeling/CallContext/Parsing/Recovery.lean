import CallContext.Parsing.Machine

/-!
# Recovery from errors

When the automaton has no use for a token there are three ways to go on: a token that is missing
from the text is put in, the parse goes on from a state below the top of the stack, or the token
is skipped.  All of them cost, and the versions that they lead to compete.
-/

namespace CallContext

namespace Machine

variable {text : List Char}

/-! ### Reducing as far as possible -/

/-- The tokens that are not the end of the text. -/
def tokens : List Symbol := (List.range (Symbol.terminalCount - 1)).map fun n => ⟨n + 1⟩

/-- The acts of a state for a token, or for all tokens in place of the end of the text. -/
def prospects (state : Nat) (ahead : Symbol) : List Act :=
  if ahead = Symbol.endOfText then tokens.flatMap (Automaton.acts state)
  else Automaton.acts state ahead

/-- Some act takes the token. -/
def takesToken (acts : List Act) : Bool :=
  acts.any fun
    | .shift _ => true
    | .recover => true
    | _ => false

/-- The different reductions among some acts, those of no subtrees left out. -/
def reductions (acts : List Act) : List Reduction :=
  acts.foldl (fun found a =>
    match a with
    | .reduce r =>
      if 0 < r.arity && !(found.any fun f => f.result = r.result && f.arity = r.arity) then
        found ++ [r]
      else found
    | _ => found) []

/-- Reduces a version in several ways, and says whether the last way was possible. -/
def reduceEach (rank : Nat) : List Reduction → Machine text → Option Nat → Machine text × Option Nat
  | [], m, last => (m, last)
  | r :: rs, m, _ =>
    let reduced := m.reduce rank r
    let added :=
      if m.versions.length < reduced.versions.length then some m.versions.length else none
    reduceEach rank rs reduced added

/-- Reduces the version at rank `first` and those that arise from it in all possible ways, and
says whether one of them can take the token `ahead`.  The versions from rank `low` on have arisen
here; the next to look at is `rank`, after `round` others. -/
def reduceAll (first low : Nat) (ahead : Symbol) :
    (fuel rank round : Nat) → (able : Bool) → Machine text → Bool × Machine text
  | 0, _, _, able, m => (able, m)
  | fuel + 1, rank, round, able, m =>
    let count := m.versions.length
    if count ≤ rank then (able, m)
    else
      match m.mergeAmong? rank low (rank - low) with
      | some m => reduceAll first low ahead fuel rank (round + 1) able m
      | none =>
        let acts := prospects (m.state rank) ahead
        let (reduced, added) := reduceEach rank (reductions acts) m none
        let further := if rank = first then count else rank + 1
        match takesToken acts, added with
        | true, _ => reduceAll first low ahead fuel further (round + 1) true reduced
        | false, some new =>
          if round < maxVersions then
            reduceAll first low ahead fuel rank (round + 1) able (reduced.promote new rank)
          else
            reduceAll first low ahead fuel further (round + 1) able
              (if ahead = Symbol.endOfText then reduced else reduced.remove rank)
        | false, none =>
          reduceAll first low ahead fuel further (round + 1) able
            (if ahead = Symbol.endOfText then reduced else reduced.remove rank)

/-- The most versions that there can be while the version at a rank is reduced in all ways. -/
def versionLimit (m : Machine text) : Nat := max m.versions.length (maxVersions + maxOverflow + 1)

/-- Reduces a version in all possible ways, and says whether it can take the token `ahead`
then.  Every round but the first few goes on to another version or merges one, so their number is
bounded by the square of the number of versions. -/
def reduceFully (m : Machine text) (rank : Nat) (ahead : Symbol) : Bool × Machine text :=
  let rounds := (m.versionLimit + maxVersions + 1) * (m.versionLimit + 1)
  reduceAll rank m.versions.length ahead rounds rank 0 false m

/-! ### Comparing with the other versions -/

/-- Some other version does better than `v`, the one at a rank, with the standing `s`. -/
def outdone (rank : Nat) (s : Standing) (v : Version text) :
    Nat → List (Version text) → Bool × List (Version text)
  | _, [] => (false, [])
  | n, w :: more =>
    if n = rank || !w.isActive || w.stack.place.offset < v.stack.place.offset then
      let (found, more) := outdone rank s v (n + 1) more
      (found, w :: more)
    else
      let w := w.settle
      let verdict := s.judge w.standing
      if verdict = .takeSecond || (verdict = .preferSecond && w.canMerge v) then (true, w :: more)
      else
        let (found, more) := outdone rank s v (n + 1) more
        (found, w :: more)

/-- A better parse exists than the version at a rank if that has a certain cost. -/
def betterExists (m : Machine text) (rank cost : Nat) : Bool × Machine text :=
  if m.finished.any (·.cost ≤ cost) then (true, m)
  else
    let m := m.change rank Version.settle
    match m.version? rank with
    | some v =>
      let (found, versions) :=
        outdone rank ⟨cost, v.since, v.stack.precedence, false⟩ v 0 m.versions
      (found, { m with versions := versions })
    | none => (false, m)

/-! ### Going on from a lower state -/

/-- Adds the version that goes on from the base of a slice in the state `goal`, where it skips the
text of the slice. -/
def recoverSlice (v : Version text) (goal : Nat) (m : Machine text) (slice : Stack.Slice text) :
    Machine text :=
  match slice.base.state == goal, slice.runs with
  | true, run :: _ =>
    let (base, skipped) :=
      match slice.base.links.find? fun l => l.2.any (·.symbol = Symbol.error) with
      | some (below, some t) => (below, t.children ++ run)
      | _ => (slice.base, run)
    let (children, extras) := Subtree.splitExtras skipped
    let trees :=
      if children.isEmpty then extras
      else
        (Subtree.build Symbol.error Labels.none 0 base.place children).withExtra true :: extras
    let (new, serial) := pushOnto (v.fork base) m.serial goal trees
    { m with versions := m.versions ++ [new], serial := serial }
  | _, _ => m

/-- Goes on from a foothold of the version at a rank, the first that is worth it. -/
def recoverAtFoothold (rank : Nat) (v : Version text) (token : Token text) (count : Nat) :
    List (Stack.Foothold text) → Machine text → Bool × Machine text
  | [], m => (false, m)
  | f :: more, m =>
    let here := v.stack.place
    let taken := (m.versions.take count).any fun w =>
      w.stack.state = f.state && w.stack.place.offset = here.offset
    if f.state = 0 || f.place.offset = here.offset || taken then
      recoverAtFoothold rank v token count more m
    else
      let cost := v.cost + f.depth * costs.skippedTree +
        (here.offset - f.place.offset) * costs.skippedByte +
        (here.line - f.place.line) * costs.skippedLine
      match m.betterExists rank cost with
      | (true, m) => (false, m)
      | (false, m) =>
        if (Automaton.acts f.state token.symbol).isEmpty then
          recoverAtFoothold rank v token count more m
        else
          let depth := f.depth + if 0 < v.since then 1 else 0
          let recovered := (v.stack.pop m.fuel depth).foldl (recoverSlice v f.state) m
          if m.versions.length < recovered.versions.length then (true, recovered)
          else recoverAtFoothold rank v token count more recovered

/-! ### Skipping a token -/

/-- Skips the next token of the version at a rank. -/
def skipToken (m : Machine text) (rank : Nat) (v : Version text) (token : Token text) :
    Machine text :=
  let extra :=
    match (Automaton.acts 1 token.symbol).getLast? with
    | some .shiftExtra => true
    | _ => false
  let skipped := Subtree.build Symbol.skipped Labels.none 0 token.left [.leaf token extra]
  let (m, skipped) :=
    if 0 < v.since then
      match v.stack.pop m.fuel 1 with
      | ⟨base, run :: _⟩ :: _ =>
        (m.change rank fun v => v.replace (v.fork base),
          Subtree.build Symbol.skipped Labels.none 0 base.place (run ++ [skipped]))
      | _ => (m, skipped)
    else (m, skipped)
  (m.push rank (some skipped) 0).change rank fun v =>
    { v with layout := token.layout <|> v.layout }

/-! ### Recovery -/

/-- Goes on after an error. -/
def recover (m : Machine text) (rank : Nat) (token : Token text) : Machine text :=
  let m := m.change rank Version.settle
  match m.version? rank with
  | none => m
  | some v =>
    let count := m.versions.length
    let footholds := if token.symbol = Symbol.error then [] else v.footholds.getD []
    let (recovered, m) := recoverAtFoothold rank v token count footholds m
    if recovered && (maxVersions < m.versions.length || token.changesLayout) then
      m.change rank Version.halt
    else if token.symbol = Symbol.endOfText then
      let fault := Subtree.build Symbol.error Labels.none 0 v.stack.place []
      (m.push rank (some fault) 1).accept rank token
    else
      let cost := v.cost + costs.skippedTree +
        (token.stop.offset - token.left.offset) * costs.skippedByte +
        (token.stop.line - token.left.line) * costs.skippedLine
      match m.betterExists rank cost with
      | (true, m) => m.change rank Version.halt
      | (false, m) => m.skipToken rank v token

/-- Puts a missing token in before the next one, the first that lets the version at a rank go
on. -/
def supply (rank : Nat) (token : Token text) :
    List Symbol → Machine text → Bool × Machine text
  | [], m => (false, m)
  | absent :: more, m =>
    match m.version? rank with
    | none => (false, m)
    | some v =>
      let state := v.stack.state
      let after := Automaton.next state absent
      match after = 0 || after = state, Automaton.acts after token.symbol with
      | false, .reduce _ :: _ =>
        let count := m.versions.length
        let m := { m with versions := m.versions ++ [{ v with footholds := none }] }
        let m := m.push count (some (.missing absent v.stack.place)) after
        match m.reduceFully count token.symbol with
        | (true, m) => (true, m)
        | (false, m) => supply rank token more m
      | _, _ => supply rank token more m

/-- Marks the place of an error on the stacks of some versions; for one of them a missing token is
put in, unless that was done already. -/
def markErrors (token : Token text) : List Nat → Bool → Machine text → Machine text
  | [], _, m => m
  | rank :: more, supplied, m =>
    let (supplied, m) := if supplied then (true, m) else supply rank token tokens m
    markErrors token more supplied (m.push rank none 0)

/-- Merges the version after rank `low` into the one at a rank, `count` times. -/
def mergeMany (rank low : Nat) : Nat → Machine text → Machine text
  | 0, m => m
  | count + 1, m => mergeMany rank low count ((m.merge? rank low).getD m)

/-- Deals with a token that the version at a rank has no use for. -/
def handleError (m : Machine text) (rank : Nat) (token : Token text) : Machine text :=
  let low := m.versions.length
  let m := (m.reduceFully rank Symbol.endOfText).2
  let count := m.versions.length - low
  let m := markErrors token (rank :: (List.range count).map (low + ·)) false m
  let m := mergeMany rank low count m
  let m := m.change rank fun v => { v with footholds := some (v.stack.summary m.fuel) }
  m.recover rank token

end Machine

end CallContext
