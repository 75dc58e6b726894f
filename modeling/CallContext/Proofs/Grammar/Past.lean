import CallContext.Proofs.Grammar.Rows

/-!
# What lies below a state

A state of the automaton is only reached over certain symbols, so that it tells something about
the subtrees on top of a stack.  `Automaton.past` lists for each state the sets of symbols that the
topmost subtrees can have, as far as that matters, and `computed_past` checks the list against all
transitions: each of them leads from the past of one state to that of the next.

When a reduction takes subtrees off a stack, their symbols are therefore known.
`Reduction.sides` says what they can be for the subtrees that the analysis looks into: definitions
and their blocks, statements, imports, calls, attributes and strings.  `Reduction.admits_of_sees` is
the result: along a way that the automaton can go, every reduction finds one of its sides.
-/

namespace CallContext

/-! ### Sets of symbols -/

/-- A set of symbols, as a bit mask over their codes; `none` holds every symbol. -/
abbrev SymbolSet := Option Nat

namespace SymbolSet

/-- The symbols of some codes. -/
def only (codes : List Nat) : SymbolSet := some (codes.foldl (fun mask c => mask ||| 1 <<< c) 0)

def has : SymbolSet → Symbol → Bool
  | none, _ => true
  | some mask, s => mask.testBit s.code

theorem testBit_foldl (codes : List Nat) (mask i : Nat) :
    (codes.foldl (fun mask c => mask ||| 1 <<< c) mask).testBit i =
      (mask.testBit i || codes.contains i) := by
  induction codes generalizing mask with
  | nil => simp
  | cons c codes ih =>
    rw [List.foldl_cons, ih, Nat.testBit_or, Nat.one_shiftLeft, Nat.testBit_two_pow,
      List.contains_cons, Bool.or_assoc]
    congr 2
    rw [Bool.eq_iff_iff, decide_eq_true_eq, beq_iff_eq, eq_comm]

@[simp] theorem has_only (codes : List Nat) (s : Symbol) :
    (only codes).has s = codes.contains s.code := by
  rw [only, has, testBit_foldl, Nat.zero_testBit, Bool.false_or]

/-- Every symbol of the first set is in the second. -/
def within : SymbolSet → SymbolSet → Bool
  | _, none => true
  | none, some _ => false
  | some a, some b => a &&& b == a

theorem has_of_within {a b : SymbolSet} (h : a.within b = true) {s : Symbol}
    (hs : a.has s = true) : b.has s = true := by
  cases b with
  | none => rfl
  | some b =>
    cases a with
    | none => cases h
    | some a =>
      have inside : a &&& b = a := by simpa only [within, beq_iff_eq] using h
      have both : (a &&& b).testBit s.code = true := by rw [inside]; exact hs
      rw [Nat.testBit_and, Bool.and_eq_true] at both
      exact both.2

/-- The first symbols are in the sets, as far as there are sets. -/
def sees : List SymbolSet → List Symbol → Bool
  | set :: sets, s :: symbols => set.has s && sees sets symbols
  | _, _ => true

/-- What the first sets see the second ones see, too. -/
def narrows : List SymbolSet → List SymbolSet → Bool
  | _, [] => true
  | [], set :: sets => set.isNone && narrows [] sets
  | a :: as, b :: bs => a.within b && narrows as bs

/-- Nothing is asked by sets of all symbols. -/
theorem narrows_replicate (as : List SymbolSet) (n : Nat) :
    narrows as (List.replicate n none) = true := by
  induction n generalizing as with
  | zero => cases as <;> rfl
  | succ n ih =>
    cases as with
    | nil => exact ih []
    | cons a as =>
      rw [List.replicate_succ, narrows, Bool.and_eq_true]
      exact ⟨by cases a <;> rfl, ih as⟩

theorem sees_of_narrows {as bs : List SymbolSet} (h : narrows as bs = true)
    {symbols : List Symbol} (hs : sees as symbols = true) : sees bs symbols = true := by
  induction bs generalizing as symbols with
  | nil => cases symbols <;> rfl
  | cons b bs ih =>
    cases symbols with
    | nil => rfl
    | cons s symbols =>
      cases as with
      | nil =>
        simp only [narrows, Bool.and_eq_true, Option.isNone_iff_eq_none] at h
        obtain ⟨rfl, rest⟩ := h
        exact ih rest (by cases symbols <;> rfl)
      | cons a as =>
        simp only [narrows, Bool.and_eq_true] at h
        simp only [sees, Bool.and_eq_true] at hs ⊢
        exact ⟨has_of_within h.1 hs.1, ih h.2 hs.2⟩

/-- The symbols are in the sets, one by one. -/
def fits : List SymbolSet → List Symbol → Bool
  | [], [] => true
  | set :: sets, s :: symbols => set.has s && fits sets symbols
  | _, _ => false

theorem fits_concat {sets : List SymbolSet} {symbols : List Symbol}
    (h : fits sets symbols = true) {set : SymbolSet} {s : Symbol} (hs : set.has s = true) :
    fits (sets ++ [set]) (symbols ++ [s]) = true := by
  induction sets generalizing symbols with
  | nil =>
    cases symbols with
    | nil => rw [List.nil_append, List.nil_append, fits, hs]; rfl
    | cons t symbols => cases h
  | cons other sets ih =>
    cases symbols with
    | nil => cases h
    | cons t symbols =>
      rw [fits, Bool.and_eq_true] at h
      rw [List.cons_append, List.cons_append, fits, Bool.and_eq_true]
      exact ⟨h.1, ih h.2⟩

/-- What is seen, the last symbol first, fits in the order of the text. -/
theorem fits_reverse {sets : List SymbolSet} {symbols : List Symbol}
    (hs : sees sets symbols = true) (count : symbols.length = sets.length) :
    fits sets.reverse symbols.reverse = true := by
  induction sets generalizing symbols with
  | nil =>
    obtain rfl := List.length_eq_zero_iff.1 count
    rfl
  | cons set sets ih =>
    cases symbols with
    | nil => cases count
    | cons s symbols =>
      rw [sees, Bool.and_eq_true] at hs
      rw [List.reverse_cons, List.reverse_cons]
      exact fits_concat (ih hs.2 (Nat.succ.inj count)) hs.1

end SymbolSet

/-! ### The sides of reductions -/

/-- No terminal is an error. -/
theorem Symbol.ne_error {s : Symbol} (h : s.code < terminalCount) : s ≠ error := by
  rintro rfl
  exact absurd h (by decide)

/-- No terminal is skipped text. -/
theorem Symbol.ne_skipped {s : Symbol} (h : s.code < terminalCount) : s ≠ skipped := by
  rintro rfl
  exact absurd h (by decide)

namespace SymbolSet

/-- Keywords that are names where their own meaning does not fit. -/
def nameKeywords : SymbolSet := only [12, 26, 28, 42, 43, 95]

/-- Symbols that become nodes. -/
def shown : SymbolSet :=
  some 0x7c00000003dfd7ffffeffc7f0f7dfffffffffefef9d1ff3fffffffffffffffffffffe

/-- Symbols that become nodes which are more than punctuation or keywords. -/
def shownNamed : SymbolSet :=
  some 0x4c00000003dfd7ffffeffc7f0f7dfffffffffefef9d1f730000000000000000000002

/-- What a block starts with: a statement, or a hidden list of statements. -/
def statements : SymbolSet :=
  some 0x4c00000007dfd7ffffeffc7f0f7dfffffffffefeffd1f730000000000000000000002

/-- What an expression statement starts with. -/
def expressions : SymbolSet :=
  some 0x7c00000003dfd7ffffeffd7f0f7dfffffffffefef9d1ff3fffffffffffffffffffffe

/-- What stands in for a block on the line of its head. -/
def suite : SymbolSet := only [101, 110]

end SymbolSet

namespace Reduction

open SymbolSet

/-- The sets that the labels of a reduction ask for: what is displayed as an identifier is a
keyword, and what is displayed as a block are the statements behind a colon. -/
def labelledSide (r : Reduction) : List SymbolSet :=
  (List.range r.arity).map fun i =>
    if r.labels.kindAt i = some Symbol.identifier then nameKeywords
    else if r.labels.kindAt i = some Symbol.block then suite
    else none

/-- The sets for a definition: its name is an identifier, and its body is a block behind an
indentation or what is displayed as one. -/
def definitionSide (r : Reduction) : List SymbolSet :=
  (List.range r.arity).map fun i =>
    if r.labels.fieldAt i = some .name then only [1]
    else if (r.labels.kindAt i).isSome then none
    else if r.labels.fieldAt i = some .body then
      if r.labels.fieldAt (i + 1) = some .body then only [102] else only [161]
    else shown

/-- The labels of a definition give it a name and a body. -/
def labelsDefinition (r : Reduction) : Bool :=
  [Field.name, Field.body].all fun field => (List.range r.arity).any fun i =>
    r.labels.fieldAt i = some field && r.labels.fieldAt (i + 1) ≠ some field

/-- The sets of symbols of the children that a reduction takes, for each way to write them down.
Nothing is said about the children of other subtrees. -/
def sides (r : Reduction) : Option (List (List SymbolSet)) :=
  let labelled (labelling : Nat) (sides : List (List SymbolSet)) :=
    some (if r.labelling = labelling then sides else [])
  let others := List.replicate (r.arity - 1) none
  let names := only [117, 163]
  match r.result.code with
  -- a module, a single statement (which is never made by itself) and the statements of one line
  | 108 => if r.labelling = 0 then none else some []
  | 109 => some []
  | 110 => labelled 0 [shownNamed :: others]
  -- `import` with names, the dots before a name (4 is one, 240 are more), and a name behind dots
  | 111 => labelled 0 [[only [3], only [116]]]
  | 112 => labelled 0 [[only [4, 240]]]
  | 113 => labelled 0 [[only [112]], [only [112], only [163]]]
  -- `from` with `import` and names (116), perhaps in parentheses (7 and 8), or all names (118)
  | 114 => labelled 0 [[only [5], only [6], only [3], only [116]],
      [only [5], only [6], only [3], only [7], only [116], only [8]]]
  | 115 => labelled 51 [[only [5], only [113, 163], only [3], only [116]],
      [only [5], only [113, 163], only [3], only [118]],
      [only [5], only [113, 163], only [3], only [7], only [116], only [8]]]
  -- names with commas (9) between them, a name with another one behind `as`, and a star
  | 116 => labelled 46
      [[names], [names, only [9]], [names, only [241]], [names, only [241], only [9]]]
  | 117 => labelled 46 [[only [163], only [10], only [1]]]
  | 118 => labelled 0 [[only [11]]]
  -- an expression as a statement, functions, classes, and either behind decorators (160 and 254)
  | 122 => labelled 0 [expressions :: others]
  | 146 => some (if r.labelsDefinition then [definitionSide r] else [])
  | 155 => some (if r.labelsDefinition then [definitionSide r] else [])
  | 159 => labelled 16 [[only [160, 254], only [146, 155]]]
  -- a block, which its end (103) closes, and identifiers with dots between them
  | 161 => labelled 0 [[only [103]], [statements, none]]
  | 163 => labelled 0 [[only [1]], [only [1], only [255]]]
  -- expressions, primary expressions, attributes and calls
  | 188 => labelled 0 [[only [189]], [shown]]
  | 189 =>
    some (if r.labels.fields.isEmpty then [[if (r.labels.kindAt 0).isSome then none else shown]]
      else [])
  | 202 => labelled 7 [[only [189], only [4], only [1]]]
  | 205 => labelled 42 [[only [189], none]]
  -- a string between its start and its end
  | 230 => labelled 0 [[only [104], only [107]], [only [104], none, only [107]]]
  -- repetitions: of statements, dots, names, decorators, and identifiers behind dots
  | 238 => labelled 0 [[statements, none]]
  | 240 => labelled 0 [[only [4, 240], only [4, 240]]]
  | 241 =>
    if r.labelling = 49 then some [[only [9], names]] else labelled 0 [[only [241], only [241]]]
  | 254 => labelled 0 [[only [160, 254], only [160, 254]]]
  | 255 => labelled 0 [[only [4], only [1]], [only [255], only [255]]]
  | _ => none

/-- The reduction makes a nonterminal of some symbols, which are what its labels ask for and one of
its sides. -/
def admits (r : Reduction) (symbols : List Symbol) : Bool :=
  Symbol.terminalCount ≤ r.result.code && fits r.labelledSide symbols &&
    r.sides.all fun sides => sides.any (fits · symbols)

/-- Without special kinds the labels ask for nothing. -/
theorem labelledSide_of_kinds {r : Reduction} (h : r.labels.kinds = []) :
    r.labelledSide = List.replicate r.arity none := by
  have none (i : Nat) : r.labels.kindAt i = Option.none := by rw [Labels.kindAt, h]; rfl
  simp [labelledSide, none, List.map_const']

/-- A module has no labels. -/
theorem labels_of_module {r : Reduction} (h : r.result = ⟨108⟩) {symbols : List Symbol}
    (admitted : r.admits symbols = true) : r.labels = Labels.none := by
  simp only [admits, sides, h, Bool.and_eq_true] at admitted
  obtain ⟨-, sided⟩ := admitted
  split at sided
  · next none => rw [labels, none]; rfl
  · simp at sided

end Reduction

/-! ### The past of states -/

namespace Automaton

open SymbolSet

/-- The sets that the past is made of. -/
def pastSets : List SymbolSet := [
  none, only [], only [1], only [3], only [4], only [5], only [6], only [7], only [8], only [9],
  only [10], only [11], nameKeywords, only [102], only [103], only [108], suite, only [112],
  only [116], only [118], only [146, 155], only [161], only [163], only [113, 163], only [117, 163],
  only [189], only [4, 240], only [241], only [160, 254], only [255], shownNamed, statements, shown,
  expressions, only [104], only [107]]

/-- The different pasts of states, by the numbers of their sets, in blocks of 16. -/
def pastTable : List (List (List Nat)) := [
  [[], [1], [2], [3], [4], [5], [9], [11], [12], [14], [15], [16], [17], [22], [24], [25]],
  [[26], [28], [30], [31], [32], [33], [0, 12], [0, 16], [0, 25], [0, 30], [0, 31], [0, 33], [2, 4],
   [2, 32], [4, 25], [6, 5]],
  [[9, 24], [10, 22], [18, 3], [20, 28], [22, 9], [22, 17], [23, 5], [24, 9], [26, 26], [27, 22],
   [27, 24], [27, 27], [28, 28], [29, 2], [29, 29], [31, 31]],
  [[32, 12], [0, 0, 12], [0, 0, 16], [0, 0, 30], [0, 0, 33], [2, 4, 25], [2, 10, 22], [2, 32, 12],
   [3, 6, 5], [3, 23, 5], [9, 27, 22], [9, 27, 24], [30, 2, 32], [32, 2, 32], [0, 0, 0, 16],
   [0, 0, 0, 30]],
  [[7, 3, 6, 5], [7, 3, 23, 5], [13, 32, 2, 32], [16, 32, 2, 32], [18, 3, 6, 5], [18, 3, 23, 5],
   [19, 3, 23, 5], [30, 2, 32, 12], [30, 30, 2, 32], [32, 30, 2, 32], [13, 32, 30, 2, 32],
   [16, 32, 30, 2, 32], [18, 7, 3, 6, 5], [18, 7, 3, 23, 5], [21, 13, 32, 2, 32],
   [30, 30, 2, 32, 12]],
  [[30, 32, 30, 2, 32], [32, 30, 2, 32, 12], [32, 30, 30, 2, 32], [8, 18, 7, 3, 6, 5],
   [8, 18, 7, 3, 23, 5], [13, 32, 30, 2, 32, 12], [13, 32, 30, 30, 2, 32], [16, 32, 30, 2, 32, 12],
   [16, 32, 30, 30, 2, 32], [21, 13, 32, 30, 2, 32], [30, 32, 30, 2, 32, 12],
   [30, 32, 30, 30, 2, 32], [32, 30, 30, 2, 32, 12], [32, 30, 32, 30, 2, 32],
   [13, 32, 30, 30, 2, 32, 12], [13, 32, 30, 32, 30, 2, 32]],
  [[16, 32, 30, 30, 2, 32, 12], [16, 32, 30, 32, 30, 2, 32], [21, 13, 32, 30, 2, 32, 12],
   [21, 13, 32, 30, 30, 2, 32], [30, 32, 30, 30, 2, 32, 12], [32, 30, 32, 30, 2, 32, 12],
   [32, 30, 32, 30, 30, 2, 32], [13, 32, 30, 32, 30, 2, 32, 12], [13, 32, 30, 32, 30, 30, 2, 32],
   [16, 32, 30, 32, 30, 2, 32, 12], [16, 32, 30, 32, 30, 30, 2, 32],
   [21, 13, 32, 30, 30, 2, 32, 12], [21, 13, 32, 30, 32, 30, 2, 32],
   [32, 30, 32, 30, 30, 2, 32, 12], [13, 32, 30, 32, 30, 30, 2, 32, 12],
   [16, 32, 30, 32, 30, 30, 2, 32, 12]],
  [[21, 13, 32, 30, 32, 30, 2, 32, 12], [21, 13, 32, 30, 32, 30, 30, 2, 32],
   [21, 13, 32, 30, 32, 30, 30, 2, 32, 12], [34], [0, 34], [35, 34], [35, 0, 34]]]

/-- The numbers of the pasts of all states to base 128, 48 of them in each number. -/
def packedPastWords : List Nat := [
  0xac00000ab2a54a01080000000000000370001a3380017c000bc00056ac00000ab2a54a01080000000000,
  0x93264807a00000002040811b7365bbb7365ba20413264c993264d7935e4c00001bb467017c000bc00056,
  0x32cccb332ccc800000000b800052a400000a3264c900f400000000000000000000005c00029520000051,
  0x810204081020408102040810204081020408102040810204081020408102003332cccb332cccb3,
  0xa4028c900000000000000000000000000000000000000000000000000000000000000000000000000000,
  0xb94a8c90000000000000000000000000000000005c, 0x0,
  0x408000000000000000000000000000000000000000000000000000000001000000,
  0x408000040000000000000000000000000d0400000001b10000000000000000000000000000000000,
  0x1000000000000000200000000000102000000000000000000000000000000000000000,
  0x2e5c00000000000000000000000000000002c00b970000000000000000000000000000, 0x0,
  0x242040024484081000000005c58000000171608100000000000000000000000000000000000000000000,
  0x3269f8900cc019000008b000058b002cd09000008b000058b002dfb33200012240800000000000001a80,
  0xb002c000002c00b002d900002c000160058016c80001669f896664d3f12ccc9a7e2599934fc4b3,
  0xc78f080005f0620166c59b16403e1602b800000032972e74b000191716000002f0c59700000000001180,
  0xb166c5900f8580ae0000000ca5cb9d2c000645c5800000bc3165c000000002301cb8efe00356c01af497,
  0x72e3bf800d5b006bd25f1e3c200017c188059, 0x0, 0x0,
  0x48780004878000487f604204751e000121e000121e3c78f1e3c78f1e3c78f1e3c00024000000000000,
  0x1000000000001800204121e000120000000003c7801e3c78f1e3c78f6a3c78f1e3c78f1e3c78f1e3c780,
  0x1e3c78f1ed4108103c7821020408102078f1e3c78f1e3c78f000078f0448000000000000000000000108,
  0x108104878f1e3c78f1e3c78fec3c7f5edd478f1e3c78f1e3c78f1e3c1120400000000078f003c78f,
  0x1020002102040801d491224084080003b0225d4100000000000d410811d810810204750408408042040f,
  0xc0010201081048900000000000000000000000000000001d8c00,
  0xc00102001210200122448000243c908103c78f1e3c78f1e3c78001d878f244ba8f00000000001a8f,
  0x4891200000000000000000000000000000000c00102091200000000000000000000004204000000002,
  0x2420400000000000d40002448000000000000000000000000000000000d400000080000000c001020012,
  0x2400912ec48408ea00000000003500000000000000000000000000000000c00102010810204120000408,
  0x1a800000000000000000000000000000006000810204120000902102010810084080408900,
  0x2448912102000000000006a000122420412, 0x0,
  0x24480000000408102000024484082420408103c908100000000009081000000000000000009120000408,
  0x1200000000000000000000000000000000000000000000000001e3c78f1e3c78f1e000122448000,
  0x120000074e60000000000000000000000000000000000000a800000000000000000000000000000,
  0x90000b802d0408000e9cfa73e9cfa73e9cfa73e9cfa730000000000000024000000000000,
  0xe0000000000048000000000000000001600000000089500000000000000240000000000000048000,
  0x720000000140000000000000000016441000000000000001200001000000100,
  0x2e000000000016ac0008000000000000000005cb41005cb4100000002e00b400200000000000000,
  0x62000000000000,
  0x7400000340000000e000000000000001c0000000000000000000000070000000000000000000000000,
  0x74ece00000000000e1000, 0x0,
  0x10602b480000000dc00000a14aa36000003a0080e06000003a0000000000000000000, 0xe9da000340000000000,
  0x6e7400000000000000000000000000000000000000000000000000000000000000000000000000000000,
  0x12000000001b2700000000000000780000000000000000c80000000000000000000612,
  0x7e0000000ad20000cc00000000295464000000000e000000000000640002d80b40005000680000c00000,
  0x6400024000000000076ea0000000000000000000000000000000000c00000,
  0x320001200000000000000000000000000000064000240000000000000000000,
  0x640002400000000000000640002400000000000000640002400000000000000640002400000,
  0x23c700000468a1e2000001e3c0000000000002224000000000000c96ed500001e0000000000000000,
  0x364e000000000000160000b002c00b002c00b0000000a94c000000004f0000048,
  0x7800000000000000030000131f0028a000050047793e4477800000000000000000000069f896664000,
  0x78000000000000000000000000000000000026cc00024000000000000000000f000000000004a84208,
  0x800f000000000000000000000000000004007800000000000000000000000000000000001084,
  0x78000000000000000000000f000000000000000000002003c0000000000000000000,
  0x100181428000000000000012000000f00003c7800000000003c00000]

/-- The numbers of all pasts in one number. -/
def packedPast : Nat := packedPastWords.foldr (fun word rest => word + rest <<< 336) 0

/-- The number of the past of a state. -/
def pastNumber (state : Nat) : Nat := packedPast >>> (7 * state) % 128

/-- The sets of the symbols that lead to a state, the last first. -/
def past (state : Nat) : List SymbolSet :=
  let number := pastNumber state
  ((pastTable.getD (number / 16) []).getD (number % 16) []).map (pastSets.getD · none)

/-- The past of a state holds after a step from another one. -/
def stepsTo (set : SymbolSet) (before : List SymbolSet) (state : Nat) : Bool :=
  narrows (set :: before) (past state)

/-- The past of a state shows a side of a reduction. -/
def shows (before : List SymbolSet) (r : Reduction) : Bool :=
  Symbol.terminalCount ≤ r.result.code && !r.result.isFault &&
    (r.labels.kinds.isEmpty || narrows before r.labelledSide.reverse) &&
    r.sides.all fun sides => sides.any fun side =>
      side.length = r.arity && narrows before side.reverse

/-- What the acts for some tokens do agrees with the past of a state. -/
def checkActs (before : List SymbolSet) (set : Nat) (acts : List Act) : Bool :=
  acts.all fun
    | .shift state => stepsTo (some set) before state && !set.testBit 99 && !set.testBit 100
    | .shiftRepeated state =>
      stepsTo (some set) before state && !set.testBit 99 && !set.testBit 100
    | .shiftExtra => within (some set) (only [99, 100])
    | .reduce r => shows before r
    | .accept => within (some set) (only [0]) && narrows before [only [108]]
    | .recover => true

/-- A row agrees with the past of its state and those of the states that follow. -/
def checkRow (state : Nat) (row : Row) (gotos : List (Nat × Nat)) : Bool :=
  let before := past state
  (row.groups.all fun group => checkActs before group.1 group.2) &&
    gotos.all fun goto => stepsTo (only [goto.1]) before goto.2

/-- All rows agree with the past. -/
theorem computed_past (part : Nat) : checkPart checkRow part = true :=
  match part with
  | 0 => by decide +kernel
  | 1 => by decide +kernel
  | 2 => by decide +kernel
  | 3 => by decide +kernel
  | 4 => by decide +kernel
  | 5 => by decide +kernel
  | 6 => by decide +kernel
  | 7 => by decide +kernel
  | 8 => by decide +kernel
  | n + 9 => checkPart_beyond checkRow n

/-- Every row agrees with the past. -/
theorem checkRow_ofState (state : Nat) :
    checkRow state (Row.ofState state) (Gotos.ofNumber (Row.ofState state).gotos) = true :=
  check_ofState computed_past (fun _ => rfl) state

/-! ### Steps -/

/-- The automaton goes from one state to another over a symbol. -/
inductive Step (state : Nat) : Symbol → Nat → Prop
  | shift {token : Symbol} {after : Nat} (h : .shift after ∈ acts state token) :
      Step state token after
  | shiftRepeated {token : Symbol} {after : Nat} (h : .shiftRepeated after ∈ acts state token) :
      Step state token after
  | goto {symbol : Symbol} (h : next state symbol ≠ 0)
      (nonterminal : Symbol.terminalCount ≤ symbol.code) :
      Step state symbol (next state symbol)

/-- What the past of a state asks of an act for a token. -/
theorem checkActs_of_mem {state : Nat} {token : Symbol} {act : Act} (h : act ∈ acts state token) :
    ∃ set : Nat, set.testBit token.code = true ∧ checkActs (past state) set [act] = true := by
  obtain ⟨group, hg, inside, hact⟩ := exists_group h
  have checked := checkRow_ofState state
  rw [checkRow, Bool.and_eq_true, List.all_eq_true] at checked
  have agrees := checked.1 group hg
  rw [checkActs, List.all_eq_true] at agrees
  refine ⟨group.1, inside, ?_⟩
  rw [checkActs, List.all_cons, List.all_nil, Bool.and_true]
  exact agrees act hact

/-- The acts that take a token agree with the past. -/
theorem sees_of_act {state after : Nat} {token : Symbol} {act : Act}
    (h : act ∈ acts state token) (takes : act = .shift after ∨ act = .shiftRepeated after)
    {symbols : List Symbol} (hs : sees (past state) symbols = true) :
    sees (past after) (token :: symbols) = true := by
  obtain ⟨set, inside, checked⟩ := checkActs_of_mem h
  have checked : stepsTo (some set) (past state) after = true := by
    rcases takes with rfl | rfl <;>
      · simp only [checkActs, List.all_cons, List.all_nil, Bool.and_true, Bool.and_eq_true]
          at checked
        exact checked.1.1
  refine sees_of_narrows checked ?_
  rw [SymbolSet.sees, Bool.and_eq_true]
  exact ⟨inside, hs⟩

/-- A step keeps in view what the past of a state tells. -/
theorem Step.sees {state after : Nat} {s : Symbol} (h : Step state s after)
    {symbols : List Symbol} (hs : sees (past state) symbols = true) :
    sees (past after) (s :: symbols) = true := by
  cases h with
  | shift h => exact sees_of_act h (.inl rfl) hs
  | shiftRepeated h => exact sees_of_act h (.inr rfl) hs
  | goto h nonterminal =>
    have checked := checkRow_ofState state
    rw [checkRow, Bool.and_eq_true] at checked
    refine sees_of_narrows (List.all_eq_true.1 checked.2 _ (mem_gotos h nonterminal)) ?_
    rw [SymbolSet.sees, Bool.and_eq_true, has_only]
    exact ⟨by simp, hs⟩

/-- Comments and line continuations are no part of a reduction. -/
theorem symbol_of_act {state after : Nat} {token : Symbol} {act : Act}
    (h : act ∈ acts state token) (takes : act = .shift after ∨ act = .shiftRepeated after) :
    token ≠ Symbol.comment ∧ token ≠ Symbol.lineContinuation := by
  obtain ⟨set, inside, checked⟩ := checkActs_of_mem h
  have apart : set.testBit 99 = false ∧ set.testBit 100 = false := by
    rcases takes with rfl | rfl <;>
      · simp only [checkActs, List.all_cons, List.all_nil, Bool.and_true, Bool.and_eq_true,
          Bool.not_eq_true'] at checked
        exact ⟨checked.1.2, checked.2⟩
  constructor
  · rintro rfl
    exact absurd inside (by rw [Symbol.comment, apart.1]; simp)
  · rintro rfl
    exact absurd inside (by rw [Symbol.lineContinuation, apart.2]; simp)

/-- The automaton takes no step over them. -/
theorem Step.symbol_ne {state after : Nat} {s : Symbol} (h : Step state s after) :
    s ≠ Symbol.comment ∧ s ≠ Symbol.lineContinuation := by
  cases h with
  | shift h => exact symbol_of_act h (.inl rfl)
  | shiftRepeated h => exact symbol_of_act h (.inr rfl)
  | goto _ nonterminal => constructor <;> rintro rfl <;> exact absurd nonterminal (by decide)

/-- Only comments and line continuations may stand anywhere. -/
theorem symbol_of_shiftExtra {state : Nat} {token : Symbol}
    (h : Act.shiftExtra ∈ acts state token) :
    token = Symbol.comment ∨ token = Symbol.lineContinuation := by
  obtain ⟨set, inside, checked⟩ := checkActs_of_mem h
  simp only [checkActs, List.all_cons, List.all_nil, Bool.and_true] at checked
  have found := has_of_within checked (s := token) inside
  rw [has_only] at found
  rcases token with ⟨code⟩
  simpa [Symbol.comment, Symbol.lineContinuation] using found

/-- Reductions make nonterminals, and no faults. -/
theorem result_of_reduce {state : Nat} {token : Symbol} {r : Reduction}
    (h : Act.reduce r ∈ acts state token) :
    Symbol.terminalCount ≤ r.result.code ∧ r.result.isFault = false := by
  obtain ⟨set, -, checked⟩ := checkActs_of_mem h
  simp only [checkActs, List.all_cons, List.all_nil, Bool.and_true, shows, Bool.and_eq_true,
    decide_eq_true_eq, Bool.not_eq_true'] at checked
  exact checked.1.1

/-- What the past of a state shows is found in the order of the text. -/
theorem fits_of_narrows {before side : List SymbolSet} (h : narrows before side.reverse = true)
    {symbols : List Symbol} (hs : sees before symbols = true)
    (count : symbols.length = side.length) : fits side symbols.reverse = true := by
  have seen := fits_reverse (sees_of_narrows h hs) (by rw [count, List.length_reverse])
  rwa [List.reverse_reverse] at seen

/-- A reduction finds what its labels ask for and one of its sides on the way to a state. -/
theorem admits_of_sees {state : Nat} {token : Symbol} {r : Reduction}
    (h : Act.reduce r ∈ acts state token) {symbols : List Symbol}
    (hs : sees (past state) symbols = true) (count : symbols.length = r.arity) :
    r.admits symbols.reverse = true := by
  obtain ⟨set, -, checked⟩ := checkActs_of_mem h
  simp only [checkActs, List.all_cons, List.all_nil, Bool.and_true, shows, Bool.and_eq_true]
    at checked
  simp only [Reduction.admits, Bool.and_eq_true, decide_eq_true_eq]
  refine ⟨⟨(result_of_reduce h).1, ?_⟩, ?_⟩
  · refine fits_of_narrows ?_ hs (by simpa [Reduction.labelledSide] using count)
    have labelled := checked.1.2
    rw [Bool.or_eq_true, List.isEmpty_iff] at labelled
    rcases labelled with none | labelled
    · rw [Reduction.labelledSide_of_kinds none, List.reverse_replicate]
      exact narrows_replicate (past state) r.arity
    · exact labelled
  · cases known : r.sides with
    | none => rfl
    | some sides =>
      have shown := checked.2
      rw [known, Option.all_some, List.any_eq_true] at shown
      obtain ⟨side, member, fitting⟩ := shown
      rw [Bool.and_eq_true, decide_eq_true_eq] at fitting
      rw [Option.all_some, List.any_eq_true]
      exact ⟨side, member, fits_of_narrows fitting.2 hs (count.trans fitting.1.symm)⟩

/-- The text is accepted behind a module, at its end. -/
theorem symbols_of_accept {state : Nat} {token : Symbol} (h : Act.accept ∈ acts state token) :
    token = Symbol.endOfText ∧ ∀ {s : Symbol} {symbols : List Symbol},
      sees (past state) (s :: symbols) = true → s = ⟨108⟩ := by
  obtain ⟨set, inside, checked⟩ := checkActs_of_mem h
  simp only [checkActs, List.all_cons, List.all_nil, Bool.and_true, Bool.and_eq_true] at checked
  constructor
  · have found := has_of_within checked.1 (s := token) inside
    rw [has_only] at found
    rcases token with ⟨code⟩
    simpa [Symbol.endOfText] using found
  · intro s symbols hs
    have seen := sees_of_narrows checked.2 hs
    rw [SymbolSet.sees, Bool.and_eq_true, has_only] at seen
    rcases s with ⟨code⟩
    simpa using seen.1

/-- In the state of the error recovery nothing is done but to recover and to take extras. -/
theorem acts_zero {token : Symbol} {act : Act} (h : act ∈ acts 0 token) :
    act = .recover ∨ act = .shiftExtra := by
  have idle : (Row.ofState 0).groups.all (fun group => group.2.all fun
      | .recover => true
      | .shiftExtra => true
      | _ => false) = true := by decide +kernel
  obtain ⟨group, member, -, hact⟩ := exists_group h
  have allowed := List.all_eq_true.1 (List.all_eq_true.1 idle group member) act hact
  cases act <;> simp_all

/-- No step leads out of the state of the error recovery. -/
theorem Step.ne_zero {state after : Nat} {s : Symbol} (h : Step state s after) : state ≠ 0 := by
  rintro rfl
  cases h with
  | shift h => simpa using acts_zero h
  | shiftRepeated h => simpa using acts_zero h
  | goto h nonterminal =>
    have none : Gotos.ofNumber (Row.ofState 0).gotos = [] := by decide +kernel
    have member := mem_gotos h nonterminal
    rw [none] at member
    exact absurd member List.not_mem_nil

/-- The state behind a subtree, if there is one and the subtree changes the state, is reached by a
step. -/
theorem step_next {state : Nat} {s : Symbol} (h : next state s ≠ 0) (hs : next state s ≠ state) :
    Step state s (next state s) := by
  by_cases terminal : s.code < Symbol.terminalCount
  · revert h hs
    unfold next
    rw [if_pos terminal]
    split
    · next found => exact fun _ _ => .shift (List.mem_of_getLast? found)
    · next found => exact fun _ _ => .shiftRepeated (List.mem_of_getLast? found)
    · exact fun _ hs => absurd rfl hs
    · exact fun h _ => absurd rfl h
  · exact .goto h (Nat.not_lt.1 terminal)

end Automaton

end CallContext
