import CallContext.Grammar.Automaton
import Mathlib.Data.List.GetD

/-!
# Checks of the automaton

What is to be known of all states of the automaton is a check of their rows, with the transitions
that belong to them, and the kernel runs it over the packed tables.  It does so in seconds if numbers
are evaluated as soon as they are unpacked, and if the count of digits is not computed from a
logarithm.  So the tables are unpacked in another way here, with the same result: a check that all
packed rows pass holds of the rows that the automaton uses (`Automaton.check_ofState`).
-/

namespace CallContext

namespace Automaton

/-! ### Unpacking -/

/-- Evaluates a number before it is used. -/
def forced {α : Type} (n : Nat) (f : Nat → α) : α :=
  match n with
  | 0 => f 0
  | m + 1 => f (m + 1)

theorem forced_eq {α : Type} (n : Nat) (f : Nat → α) : forced n f = f n := by
  cases n <;> rfl

/-- The digits of a number, each evaluated. -/
def forcedDigits (base : Nat) : Nat → Nat → List Nat
  | 0, _ => []
  | count + 1, n =>
    match n with
    | 0 => []
    | m + 1 =>
      forced ((m + 1) % base) fun digit =>
        digit :: forced ((m + 1) / base) (forcedDigits base count)

theorem forcedDigits_eq (base count n : Nat) :
    forcedDigits base count n = digits base count n := by
  induction count generalizing n with
  | zero => rfl
  | succ count ih => cases n <;> simp [forcedDigits, digits, forced_eq, ih]

/-- More digits than a number has make no difference. -/
theorem digits_of_le {base count more n : Nat} (h : n < base.pow count) (le : count ≤ more) :
    digits base count n = digits base more n := by
  induction count generalizing more n with
  | zero =>
    obtain rfl : n = 0 := by simpa [Nat.pow_eq] using h
    cases more <;> rfl
  | succ count ih =>
    obtain ⟨more, rfl⟩ : ∃ m, more = m + 1 := ⟨more - 1, by omega⟩
    have lower : n / base < base.pow count := by
      refine Nat.div_lt_of_lt_mul ?_
      rwa [Nat.mul_comm]
    simp only [digits, ih lower (Nat.le_of_succ_le_succ le)]

theorem digits_log2 (width : Nat) {n : Nat} (positive : 0 < width)
    (h : n.log2 / width + 1 ≤ 512) :
    digits (1 <<< width) (n.log2 / width + 1) n = forcedDigits (1 <<< width) 512 n := by
  rw [forcedDigits_eq]
  refine digits_of_le ?_ h
  have shift : (1 <<< width).pow (n.log2 / width + 1) = 2 ^ (width * (n.log2 / width + 1)) := by
    rw [Nat.one_shiftLeft, Nat.pow_eq, ← Nat.pow_mul]
  rw [shift]
  refine Nat.lt_of_lt_of_le Nat.lt_log2_self (Nat.pow_le_pow_right (by decide) ?_)
  exact Nat.lt_mul_div_succ n.log2 positive

/-- The row of a code, with its digits evaluated. -/
def forcedRow (code : Nat) : Row :=
  match forcedDigits 4096 512 code with
  | lexicon :: expectation :: gotos :: groups =>
    ⟨lexicon, Expectation.table.getD expectation Expectation.everything, gotos,
      Row.groupsOfDigits groups.length groups⟩
  | _ => ⟨0, Expectation.everything, 0, []⟩

/-- The transitions of a code, with its digits evaluated. -/
def forcedGotos (code : Nat) : List (Nat × Nat) :=
  (forcedDigits 2097152 512 code).map fun d => (d % 512, d / 512)

/-- The number has at most 6000 binary digits. -/
def isShort (code : Nat) : Bool := code < 1 <<< 6000

theorem log2_div_le {code : Nat} (h : isShort code = true) {width : Nat} (le : 12 ≤ width) :
    code.log2 / width + 1 ≤ 512 := by
  rw [isShort, decide_eq_true_eq, Nat.one_shiftLeft] at h
  have log : code.log2 < 6000 := by
    by_cases zero : code = 0
    · rw [zero, Nat.log2_zero]
      decide
    · exact (Nat.log2_lt zero).2 h
  have quotient : code.log2 / width ≤ code.log2 / 12 := Nat.div_le_div_left le (by decide)
  omega

theorem forcedRow_eq {code : Nat} (h : isShort code = true) :
    forcedRow code = Row.ofCode code := by
  have unpacked : digits 4096 (code.log2 / 12 + 1) code = forcedDigits 4096 512 code :=
    digits_log2 12 (by decide) (log2_div_le h (Nat.le_refl 12))
  unfold forcedRow Row.ofCode
  rewrite [unpacked]
  rcases forcedDigits 4096 512 code with _ | ⟨lexicon, _ | ⟨expectation, _ | ⟨gotos, groups⟩⟩⟩ <;>
    rfl

theorem forcedGotos_eq {code : Nat} (h : isShort code = true) :
    forcedGotos code = Gotos.ofCode code := by
  have unpacked : digits 2097152 (code.log2 / 21 + 1) code = forcedDigits 2097152 512 code :=
    digits_log2 21 (by decide) (log2_div_le h (by decide))
  unfold forcedGotos Gotos.ofCode
  rw [unpacked]

/-- The packed transitions of a number. -/
def packedGoto (number : Nat) : Nat := (packedGotos.getD (number / 64) []).getD (number % 64) 0

/-- The packed row of a state. -/
def packedRow (state : Nat) : Nat := (packedRows.getD (state / 64) []).getD (state % 64) 0

theorem ofNumber_eq (number : Nat) :
    Gotos.ofNumber number = Gotos.ofCode (packedGoto number) := by
  change ((packedGotos.map (List.map Gotos.ofCode)).getD (number / 64)
    (List.map Gotos.ofCode [])).getD (number % 64) (Gotos.ofCode 0) = _
  rw [List.getD_map, List.getD_map]
  rfl

theorem ofState_eq (state : Nat) : Row.ofState state = Row.ofCode (packedRow state) := by
  change ((packedRows.map (List.map Row.ofCode)).getD (state / 64)
    (List.map Row.ofCode [])).getD (state % 64) (Row.ofCode 0) = _
  rw [List.getD_map, List.getD_map]
  rfl

/-! ### Checking -/

/-- What is asked of a state: a condition on its row and its transitions on nonterminals. -/
abbrev Check := Nat → Row → List (Nat × Nat) → Bool

/-- The same for a row that is still packed. -/
def checkCode (check : Check) (state code : Nat) : Bool :=
  let row := forcedRow code
  let gotos := packedGoto row.gotos
  isShort code && isShort gotos && check state row (forcedGotos gotos)

/-- The rows of a block of 64 states pass a check. -/
def checkBlock (check : Check) (block : Nat) : Bool :=
  (packedRows.getD block []).zipIdx.all fun code => checkCode check (64 * block + code.2) code.1

/-- The rows of five blocks pass a check; all of them at once would be too much for the kernel. -/
def checkPart (check : Check) (part : Nat) : Bool :=
  (List.range 5).all fun i => checkBlock check (5 * part + i)

/-- There are nine parts. -/
theorem checkPart_beyond (check : Check) (n : Nat) : checkPart check (n + 9) = true := by
  refine List.all_eq_true.2 fun i _ => ?_
  have beyond : packedRows.length ≤ 5 * (n + 9) + i := by
    simp only [packedRows, List.length_cons, List.length_nil]
    omega
  rw [checkBlock, List.getD_eq_default _ _ beyond]
  rfl

/-- A check that all packed rows pass holds of every state. -/
theorem check_ofState {check : Check} (parts : ∀ part, checkPart check part = true)
    (empty : ∀ state, check state ⟨0, Expectation.everything, 0, []⟩ [] = true) (state : Nat) :
    check state (Row.ofState state) (Gotos.ofNumber (Row.ofState state).gotos) = true := by
  rw [ofNumber_eq, ofState_eq]
  unfold packedRow
  simp only [List.getD_eq_getElem?_getD]
  -- a state without a row has an empty one
  cases hb : packedRows[state / 64]? with
  | none =>
    rw [Option.getD_none, List.getElem?_nil]
    exact empty state
  | some block =>
    rw [Option.getD_some]
    cases hc : block[state % 64]? with
    | none => exact empty state
    | some code =>
      have part := List.all_eq_true.1 (parts (state / 64 / 5)) (state / 64 % 5)
        (List.mem_range.2 (Nat.mod_lt _ (by decide)))
      rw [Nat.div_add_mod, checkBlock, List.getD_eq_getElem?_getD, hb, Option.getD_some] at part
      have checked := List.all_eq_true.1 part (code, state % 64)
        (List.mk_mem_zipIdx_iff_getElem?.2 hc)
      dsimp only at checked
      rw [Nat.div_add_mod, checkCode] at checked
      simp only [Bool.and_eq_true] at checked
      obtain ⟨⟨shortRow, shortGotos⟩, agrees⟩ := checked
      rw [forcedRow_eq shortRow] at shortGotos agrees
      rwa [forcedGotos_eq shortGotos] at agrees

/-! ### What a row is asked for -/

theorem exists_group {state : Nat} {token : Symbol} {act : Act} (h : act ∈ acts state token) :
    ∃ group ∈ (Row.ofState state).groups, group.1.testBit token.code = true ∧ act ∈ group.2 := by
  unfold acts at h
  split at h
  · next set found hg =>
    split at h
    · have inside : set.testBit token.code = true := by simpa using List.find?_some hg
      exact ⟨_, List.mem_of_find?_eq_some hg, inside, h⟩
    · exact absurd h List.not_mem_nil
  · exact absurd h List.not_mem_nil

/-- Only terminals are looked up. -/
theorem terminal_of_act {state : Nat} {token : Symbol} {act : Act} (h : act ∈ acts state token) :
    token.code < Symbol.terminalCount := by
  unfold acts at h
  split at h
  · split at h
    · next terminal => exact terminal
    · exact absurd h List.not_mem_nil
  · exact absurd h List.not_mem_nil

theorem mem_gotos {state : Nat} {s : Symbol} (h : next state s ≠ 0)
    (nonterminal : Symbol.terminalCount ≤ s.code) :
    (s.code, next state s) ∈ Gotos.ofNumber (Row.ofState state).gotos := by
  unfold next at h ⊢
  rw [if_neg (Nat.not_lt.2 nonterminal)] at h ⊢
  cases found : (Gotos.ofNumber (Row.ofState state).gotos).lookup s.code with
  | none => rw [found] at h; exact absurd rfl h
  | some after =>
    obtain ⟨front, back, split, -⟩ := List.lookup_eq_some_iff.1 found
    rw [split]
    exact List.mem_append_right _ List.mem_cons_self

end Automaton

end CallContext
