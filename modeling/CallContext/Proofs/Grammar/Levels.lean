import CallContext.Proofs.Grammar.Past

/-!
# Levels of states

A reduction of one subtree leaves as many subtrees on the stack as there were, so that it is not
clear from their number that reductions come to an end.  The grammar has no circles, though: what
is made of one subtree alone stands on a higher level than that.  `Automaton.level` gives each
state a level, and `computed_levels` checks that every reduction of one subtree leads to a higher
one.  Where a reduction takes more subtrees off the level may fall, but by less than the five levels
that a subtree counts for.  A reduction of none makes a text without statements, and leads above all
other levels (`Automaton.level_lt_of_reduce`).
-/

namespace CallContext

namespace Automaton

/-- The levels of all states to base 8, 112 of them in each number. -/
def packedLevelWords : List Nat := [
  0x7, 0x0, 0x0, 0x0, 0x0,
  0x240240200240240200000008040000000000040241009000000000000000000000000000000000,
  0x48201040240201041040001200008200041000200000008201208001009040008000000000000000,
  0x1208041009008041041000048000208001040008,
  0x8008008000200200249249249240000000000000000000000000000000000000000000000000000000,
  0x240000009049249200048000009249249009000000000000000000000200000048249249049249249248,
  0x1000009249249048009249249, 0x40049249248009001000001000000000000, 0x0, 0x0,
  0x490000000000000200040008249249200000008000000000000040000000000000000000000000000000,
  0x492092492412492482410012208208208208492492092492490451092492492492492492492492492492,
  0x40000000000008001001008049049241000201249248a002492490482482482492412092292092482492,
  0x4024536c20006c04000000c34124000d00c269b0824004020900900c24132c00924100134900d2480412,
  0x920924904104c240228800309360221b0006126c22c00000000006000036900000d14426d8000080003,
  0x400db6402000002000000000c0000,
  0x800000000044801800309860300100000000000020004000001900000040064120b01b6db6d9000,
  0x60004000160000000020000b0000000010000016000000000010000000016000000030000080c0000000,
  0x2010482082000000080c00800c02014136c02010022002496db240040200040001600040001600040001,
  0x230d068800404001224300020920080820001c61a100690380000000000000000000008040013200040,
  0x240012481186c82490230d904920461b20924011869a20124100461a0d10092080230d0688249049040,
  0x20100000]

/-- The levels of all states in one number. -/
def packedLevels : Nat := packedLevelWords.foldr (fun word rest => word + rest <<< 336) 0

/-- The level of a state; that of the error recovery is the highest. -/
def level (state : Nat) : Nat := packedLevels >>> (3 * state) % 8

/-- The least levels that the symbols lead to, to base 8. -/
def packedRiseWords : List Nat := [
  0x6000000000000000000000000000000000000000000000000000000000000000000000000000000000,
  0x20000000000060100b00000000a60000029300000001320800000000401c0000002000492090c0042011,
  0x8000000000000000041000009058200018]

/-- The least levels of all symbols in one number. -/
def packedRises : Nat := packedRiseWords.foldr (fun word rest => word + rest <<< 336) 0

/-- The least level that a nonterminal of a code leads to. -/
def rise (code : Nat) : Nat := packedRises >>> (3 * code) % 8

/-- Nonterminals lead to their levels, and reductions to a level high enough. -/
def checkLevels (state : Nat) (row : Row) (gotos : List (Nat × Nat)) : Bool :=
  (row.groups.all fun group => group.2.all fun
    | .reduce r => 5 + level state < rise r.result.code + 5 * r.arity
    | _ => true) &&
    gotos.all fun goto => rise goto.1 ≤ level goto.2

/-- The levels of all rows are high enough. -/
theorem computed_levels (part : Nat) : checkPart checkLevels part = true :=
  match part with
  | 0 => by decide +kernel
  | 1 => by decide +kernel
  | 2 => by decide +kernel
  | 3 => by decide +kernel
  | 4 => by decide +kernel
  | 5 => by decide +kernel
  | 6 => by decide +kernel
  | 7 => by decide +kernel
  | 8 => by decide +kernel
  | n + 9 => checkPart_beyond checkLevels n

theorem checkLevels_ofState (state : Nat) :
    checkLevels state (Row.ofState state) (Gotos.ofNumber (Row.ofState state).gotos) = true :=
  check_ofState computed_levels (fun _ => rfl) state

theorem level_le (state : Nat) : level state ≤ 7 := Nat.le_of_lt_succ (Nat.mod_lt _ (by decide))

/-- Where a nonterminal leads is at least as high as its level. -/
theorem rise_le {s : Symbol} (nonterminal : Symbol.terminalCount ≤ s.code) (before : Nat) :
    rise s.code ≤ level (next before s) := by
  by_cases lost : next before s = 0
  · rw [lost]
    exact Nat.le_of_lt_succ (Nat.mod_lt _ (by decide))
  · have checked := checkLevels_ofState before
    rw [checkLevels, Bool.and_eq_true] at checked
    have high := List.all_eq_true.1 checked.2 _ (mem_gotos lost nonterminal)
    simpa using high

/-- A reduction leads to a higher level if each subtree that it takes off and puts on counts for
five levels. -/
theorem level_lt_of_reduce {state : Nat} {token : Symbol} {r : Reduction}
    (h : Act.reduce r ∈ acts state token) (before : Nat) :
    5 + level state < level (next before r.result) + 5 * r.arity := by
  obtain ⟨group, hg, -, hr⟩ := exists_group h
  have checked := checkLevels_ofState state
  rw [checkLevels, Bool.and_eq_true] at checked
  have high := List.all_eq_true.1 (List.all_eq_true.1 checked.1 group hg) _ hr
  have least := rise_le (result_of_reduce h).1 before
  simp only [decide_eq_true_eq] at high
  omega

end Automaton

end CallContext
