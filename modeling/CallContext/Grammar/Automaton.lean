import CallContext.Grammar.Automaton.GotosA
import CallContext.Grammar.Automaton.GotosB
import CallContext.Grammar.Automaton.RowsA
import CallContext.Grammar.Automaton.RowsB
import CallContext.Grammar.Automaton.RowsC
import CallContext.Grammar.Automaton.RowsD
import CallContext.Grammar.Automaton.RowsE
import CallContext.Grammar.Reduction

/-!
# The automaton

The automaton decides what the parser does next.  Its states have numbers, and the `Row` of a
state says which tokens are looked for in the text, which layout tokens are welcome, what to do
with each token, and which state follows a nonterminal.  State `0` is the one of the error
recovery and state `1` the initial one.

Rows are packed into numbers, which are compact and which the kernel compares and divides fast:

* `Row.ofCode` unpacks the row of a state from digits to base 4096,
* `Gotos.ofCode` unpacks the transitions on nonterminals from digits to base 2097152.
-/

namespace CallContext

/-- The `count` lowest digits of a number, the lowest first. -/
def digits (base : Nat) : Nat → Nat → List Nat
  | 0, _ => []
  | count + 1, n => if n = 0 then [] else n % base :: digits base count (n / base)

/-- The layout tokens that a state welcomes. -/
structure Expectation where
  newline : Bool
  indent : Bool
  dedent : Bool
  stringStart : Bool
  /-- The text of a string, its escapes and its end. -/
  stringBody : Bool
  /-- A closing bracket, before which line ends carry no meaning. -/
  closing : Bool

namespace Expectation

/-- Nothing is known about the place in the text, so that every token is welcome. -/
def everything : Expectation := ⟨true, true, true, true, true, true⟩

/-- The different expectations of the states. -/
def table : List Expectation := [
  everything,
  ⟨false, false, false, true, false, false⟩, ⟨false, false, true, true, false, false⟩,
  ⟨true, false, false, true, false, false⟩, ⟨true, true, false, true, false, false⟩,
  ⟨false, false, false, true, false, true⟩, ⟨false, false, false, true, false, true⟩,
  ⟨false, false, false, true, false, true⟩, ⟨true, false, false, false, false, false⟩,
  ⟨false, false, false, false, false, true⟩, ⟨false, false, false, false, false, true⟩,
  ⟨false, false, false, false, false, false⟩, ⟨false, false, false, false, false, true⟩,
  ⟨false, false, false, false, true, false⟩, ⟨false, false, true, false, false, false⟩,
  ⟨true, true, false, false, false, false⟩]

/-- Only the error recovery welcomes both the text of a string and indentation. -/
def isLost (e : Expectation) : Bool := e.stringBody && e.indent

end Expectation

/-- What to do with a token. -/
inductive Act where
  /-- Take the token and go on in a state. -/
  | shift (state : Nat)
  /-- A shift inside a repetition, which the reduction beside it makes superfluous. -/
  | shiftRepeated (state : Nat)
  /-- Take the token as one that may stand anywhere. -/
  | shiftExtra
  | reduce (reduction : Reduction)
  | accept
  /-- Look for a way out of an error. -/
  | recover

/-- The row of a state. -/
structure Row where
  /-- The number of the set of tokens that are looked for in the text. -/
  lexicon : Nat
  expectation : Expectation
  /-- The number of the table of transitions on nonterminals. -/
  gotos : Nat
  /-- Sets of tokens, as bit masks, with what to do for their members. -/
  groups : List (Nat × List Act)

namespace Automaton

def stateCount : Nat := 2819

def reductionCount : Nat := 328

/-- Sets of tokens as bit masks, in blocks of 16. -/
def tokenSets : List (List Nat) := [
  [0x18000000000000000000000000, 0x80, 0x400000000000, 0x100000000000000000000000000,
   0x10000000000000, 0x800, 0x2, 0x80000000000, 0x800000000000000000000000, 0x10042000000000000,
   0x7610000000000000000000000, 0x80000000000000, 0x40014001000, 0x2000000000000000000, 0x200,
   0x100],
  [0x400000, 0x8000000000, 0x8000000000000000000000, 0x800000, 0x400, 0x100000000000000,
   0x200000000000000, 0x800000000000, 0x10, 0x20, 0x20000000000000, 0x8, 0x1000, 0x4000, 0x10000,
   0x20000],
  [0x40000, 0x80000, 0x100000, 0x200000, 0x10000000000, 0x20000000000, 0x40000000000,
   0x7610000000000000000000002, 0x20000000, 0x10000000, 0x8000, 0x20000000000000000000000000,
   0x42000000000000, 0x8000000000000, 0x1c01000000000800, 0x600000000000000000000000],
  [0x2000000000, 0xfc4b408000002890, 0x1000000000000, 0x14000000, 0x1000000000, 0x200000000000,
   0x80000000000000000000000000, 0x4000000, 0x80000000, 0x100000000, 0x8000000800, 0x2000000000000,
   0x7000000000004000000000000, 0x107e180020100d36f31b47f58ab, 0x187e180020100d36f31b47f58aa,
   0x8000000000002000],
  [0x40000000000000000000000000, 0x20000000000000000000000004, 0x4000000000000000,
   0x2000000000000000, 0x300, 0x800000000200, 0x20000001feffcb508040c02eb4,
   0x100001feffeb508040c02e90, 0x1feffcb508042c02e90, 0x1feffcbc08070402e90, 0x1feffcb508040c02f90,
   0x1feffcbc08040c02e90, 0x2000000, 0x1feffcb408070402f90, 0x40000000, 0x1feffeb408070c02e90],
  [0x800200, 0x8000000c00600, 0x8000000000700, 0x8800000000600, 0xfe0000000040000000,
   0x1000000000000000000, 0x28000000000600, 0x100000000000, 0x600060000000000000000000000,
   0x100000000020100000800200, 0x7ffc000000100000800000, 0x800000000000000000000000000,
   0x400000000000000, 0x80000000000000000008000000, 0xfc09008000002010, 0x4],
  [0x20000001feffcb408040402c94, 0x800000000, 0x1feffcb408070402c90, 0x40004001000,
   0x8100000800310, 0x8800000800210, 0x20007ffc000000100000800204, 0x7ffc000000100000800200,
   0x107e180020100d36f3bb67f58ab, 0x187e180020100d36f3bb67f58aa, 0x1feffcb408040402f90,
   0x20000000000200, 0x7ffc000000100000000000, 0x30400100, 0x800030400000, 0x20000030400000],
  [0x200000000, 0x400000000, 0x1000000, 0x107e180020100d36f3db67f58ab,
   0x187e180020100d36f3db67f58aa, 0x20000000000008100000800014, 0x80000000030000000000000,
   0x800300, 0x100000000020100000800000, 0x1feffeb408040402e90, 0x30000000, 0x1feffcbc08040402e90,
   0xe00060000000010000000000000, 0x4000000000, 0x20000001fe0380100040c00624, 0x1fe0380100042c00600],
  [0x40000200, 0x20007ffdfeffcb508040c02e94, 0x100001feffeb508070c02e90,
   0x100001feffeb508040c02c90, 0x1feffcb408070c02f90, 0x8100000800210, 0x7ffc00fc4b508000802a90,
   0x30400300, 0x800030400200, 0xc00600, 0x320000030c00600, 0x100000000320100000c00600,
   0x300000030400700, 0x300800030400600, 0x1fe03a0000070c00600, 0x100001fe03a0100040c00600],
  [0x1fe0380000070400700, 0x1fe0380800070400600, 0x1fe0380100040c00700, 0x1fe0380800040c00600,
   0x20000030400200, 0x20000000000000000000000204, 0x700, 0x800000000600, 0x20000000000600,
   0xfc43408000002880, 0x107e180020100d36f39b77f58ab, 0x187e180020100d36f39b77f58aa,
   0x20000000000308100000c00634, 0x308100002c00610, 0x308100000c00710, 0x308800000c00610],
  [0x8000000800000, 0x8000000, 0xe00000000, 0x1, 0x10000000000000000,
   0x20007ffdfe0380100040c00604, 0x20007ffc000000100000800004, 0x20000000000000000000000024,
   0x20000001feffcb100040c02e24, 0x1feffeb000070c02e00, 0x100001feffeb100040c02e00,
   0x1feffcb000070402f00, 0x1feffcb100042c02e00, 0x30800000, 0x1feffcb800070402e00,
   0x1feffcb100040c02f00],
  [0x1feffcb800040c02e00, 0x1fe0380000040400400, 0x7ffc000000000000000000,
   0x7ffc000000100040800200, 0x8000000000780, 0x8800000000680, 0x28000000000680,
   0x100000000000000000000000, 0x4000000000002, 0x1feff89008060402710,
   0x107e180020100d36f31b77f58ab, 0x187e180020100d36f31b77f58aa, 0x20000000000008100000800234,
   0x8100002800210, 0x8000000c00688, 0x20000030800200],
  [0x30000300, 0x800030000200, 0x20000000000000000000000604, 0x100000000300,
   0x80000000000000000000000, 0x20000001feff09000040402414, 0x20000001feff09008040400414, 0x2000,
   0x20000001feff09008040402414, 0x20000001feff89008040402414, 0x20000001feff89108040c02634,
   0x100001feffa9108040c02610, 0x1feff89108042c02610, 0x1feffa9008060c02610, 0x1feff89108040c02710,
   0x1feff89008040402710],
  [0x1feff89008060402410, 0x1feff89808060402610, 0x1feff89808040c02610,
   0x107e180020100d36f39b67f58ab, 0x187e180020100d36f39b67f58aa, 0x8000000800010,
   0x107e180020100d36f39b47f58ab, 0x187e180020100d36f39b47f58aa, 0x120000001feffcb508040c02eb4,
   0x100000001feffeb408070c02e90, 0x100100001feffeb508040c02e90, 0x100000001feffcb408070402f90,
   0x100000001feffcb508042c02e90, 0x100000001feffcbc08070402e90, 0x100000001feffcb508040c02f90,
   0x100000001feffcbc08040c02e90],
  [0x800000000000010000000000000, 0x8100000800290, 0xa, 0x20000000000000000040000004,
   0x4000800000, 0xfe7f7ffffffffffffffffffffff, 0x100001feffa9108040c02410,
   0x100001fe03a0100060c00600, 0x1feffa9008040402610, 0x20800000, 0x1fe0380100060c00700,
   0x1feff89808040402610, 0x1fe0380800060c00600, 0x20000001feffcb008040402c94,
   0x107e180020100d36f31b67f58ab, 0x187e180020100d36f31b67f58aa],
  [0x20007ffdfe0380100040400604, 0x20000000000300100000c00624, 0x20000001fee388100040c02624,
   0x20000001fee3ca100040c02624, 0x20000001fe0388100040c00624, 0x20000001fe2388100040c00624,
   0x20000001fe6388100040c00624, 0x20000000000300000000c00604, 0x300100002c00600,
   0x1fee3a8000070c02600, 0x1fee3ea000070c02600, 0x1fe03a8000070c00600, 0x1fe23a8000070c00600,
   0x1fe63a8000070c00600, 0x100001fee3a8100040c02600, 0x100001fee3ea100040c02600],
  [0x100001fe03a8100040c00600, 0x100001fe23a8100040c00600, 0x100001fe63a8100040c00600,
   0x300100000c00700, 0x20000001feffcb108040c02c94, 0x1fee388000070402700, 0x1fee3ca000070402700,
   0x1fe0388000070400700, 0x1fe2388000070400700, 0x1fe6388000070400700, 0x1fee388100042c02600,
   0x1fee3ca100042c02600, 0x1fe0388100042c00600, 0x1fe2388100042c00600, 0x1fe6388100042c00600,
   0x1feffcb108040c02f90],
  [0x1fee388800070402600, 0x1fee3ca800070402600, 0x1fe0388800070400600, 0x1fe2388800070400600,
   0x1fe6388800070400600, 0x1fee388100040c02700, 0x1fee3ca100040c02700, 0x1fe0388100040c00700,
   0x1fe2388100040c00700, 0x1fe6388100040c00700, 0x300800000c00600, 0x1feffcb108040c02e90,
   0x1feffcb808040c02e90, 0x300000000400700, 0x300800000400600, 0x1fee388800040c02600],
  [0x1fee3ca800040c02600, 0x1fe0388800040c00600, 0x1fe2388800040c00600, 0x1fe6388800040c00600,
   0x320000000400600, 0x20000000000008100000c00234, 0x20000000000008100000c00634,
   0x20000000000208100000c00634, 0x8100002c00210, 0x8100002c00610, 0x208100002c00610,
   0x8100000c00310, 0x8100000c00710, 0x208100000c00710, 0x8000000c00680, 0x20000030c00200],
  [0x20000030c00600, 0x220000030c00600, 0x100000000020100000c00200, 0x100000000020100000c00600,
   0x100000000220100000c00600, 0x8800000c00210, 0x8800000c00610, 0x208800000c00610,
   0x20000000000000000000000224, 0x20000030000200, 0x30400700, 0x200000030400700, 0x8000000c00698,
   0x800030400600, 0x200800030400600, 0x40],
  [0x202010000000, 0x20000000000000100000000004, 0x8000000000790, 0x8800000000690,
   0x28000000000690, 0x20000000000000000000000614, 0x100000000200, 0xc00400, 0x28000000800600,
   0x1202010000000, 0xc00200, 0xc00000, 0x100000800200]]

/-- The set of tokens of a number. -/
def tokenSet (n : Nat) : Nat := (tokenSets.getD (n / 16) []).getD (n % 16) 0

/-- The sets of tokens that are looked for in the text, as bit masks. -/
def lexicons : List Nat := [
  0x18777ffcfffc7bd0c60080ab97, 0x18710000ff007bd00000800b87, 0x18617ffcfffc5b50800080aa96,
  0x18710000fffc7bd0800080ab96, 0x18617ffcfffc5b508000802a96, 0x18710000fffc7bd08000802b96,
  0x18617ffc010052500000800886, 0x18007ffcfefc6bd0800080ab96, 0x18610000010053400200000883,
  0x18610000010053400400000883, 0x18007ffcfefc4bd08000802b96, 0x18100000fefc6bd08000802b96,
  0x18100000fefc6bd0800080ab96, 0x18000000000000004600800002, 0x18080000000030000000000000]

/-- The rows of all states, packed, in blocks of 64. -/
def packedRows : List (List Nat) := [
  rows00, rows01, rows02, rows03, rows04, rows05, rows06, rows07, rows08, rows09, rows10, rows11,
  rows12, rows13, rows14, rows15, rows16, rows17, rows18, rows19, rows20, rows21, rows22, rows23,
  rows24, rows25, rows26, rows27, rows28, rows29, rows30, rows31, rows32, rows33, rows34, rows35,
  rows36, rows37, rows38, rows39, rows40, rows41, rows42, rows43, rows44]

/-- The transitions on nonterminals, packed, in blocks of 64. -/
def packedGotos : List (List Nat) := [
  gotos00, gotos01, gotos02, gotos03, gotos04, gotos05, gotos06, gotos07, gotos08, gotos09,
  gotos10, gotos11, gotos12, gotos13, gotos14]

end Automaton

/-- Reads `count` acts and gives the digits after them. -/
def Act.ofDigits : Nat → List Nat → List Act × List Nat
  | 0, ds => ([], ds)
  | _, [] => ([], [])
  | count + 1, d :: ds =>
    if d < Automaton.stateCount then
      let (acts, rest) := ofDigits count ds
      (.shift d :: acts, rest)
    else if d < Automaton.stateCount + Automaton.reductionCount then
      let (acts, rest) := ofDigits count ds
      (.reduce (Reduction.ofNumber (d - Automaton.stateCount)) :: acts, rest)
    else match d - (Automaton.stateCount + Automaton.reductionCount), ds with
      | 0, ds =>
        let (acts, rest) := ofDigits count ds
        (.shiftExtra :: acts, rest)
      | 1, ds =>
        let (acts, rest) := ofDigits count ds
        (.accept :: acts, rest)
      | 2, ds =>
        let (acts, rest) := ofDigits count ds
        (.recover :: acts, rest)
      | _, [] => ([], [])
      | _, state :: ds =>
        let (acts, rest) := ofDigits count ds
        (.shiftRepeated state :: acts, rest)

namespace Row

/-- Reads groups of tokens: the number of a token set times 4 plus the number of acts, then the
acts. -/
def groupsOfDigits : Nat → List Nat → List (Nat × List Act)
  | 0, _ => []
  | _, [] => []
  | fuel + 1, d :: ds =>
    let (acts, rest) := Act.ofDigits (d % 4) ds
    (Automaton.tokenSet (d / 4), acts) :: groupsOfDigits fuel rest

/-- Unpacks a row: lexicon, expectation, transitions on nonterminals, then groups of tokens. -/
def ofCode (code : Nat) : Row :=
  match digits 4096 (code.log2 / 12 + 1) code with
  | lexicon :: expectation :: gotos :: groups =>
    ⟨lexicon, Expectation.table.getD expectation Expectation.everything, gotos,
      groupsOfDigits groups.length groups⟩
  | _ => ⟨0, Expectation.everything, 0, []⟩

/-- The rows of all states, in blocks of 64. -/
def table : List (List Row) := Automaton.packedRows.map (·.map ofCode)

/-- The row of a state. -/
def ofState (state : Nat) : Row :=
  (table.getD (state / 64) []).getD (state % 64) ⟨0, Expectation.everything, 0, []⟩

end Row

namespace Gotos

/-- Unpacks transitions on nonterminals: the code of the symbol plus 512 times the state. -/
def ofCode (code : Nat) : List (Nat × Nat) :=
  (digits 2097152 (code.log2 / 21 + 1) code).map fun d => (d % 512, d / 512)

/-- All transitions on nonterminals, in blocks of 64. -/
def table : List (List (List (Nat × Nat))) := Automaton.packedGotos.map (·.map ofCode)

/-- The transitions of a number. -/
def ofNumber (n : Nat) : List (Nat × Nat) := (table.getD (n / 64) []).getD (n % 64) []

end Gotos

namespace Automaton

/-- What a state does with a token. -/
def acts (state : Nat) (token : Symbol) : List Act :=
  match (Row.ofState state).groups.find? (·.1.testBit token.code) with
  | some (_, acts) => if token.code < Symbol.terminalCount then acts else []
  | none => []

/-- The state that follows a subtree of a symbol; state `0` if there is none. -/
def next (state : Nat) (symbol : Symbol) : Nat :=
  if symbol.code < Symbol.terminalCount then
    match (acts state symbol).getLast? with
    | some (.shift s) => s
    | some (.shiftRepeated s) => s
    | some .shiftExtra => state
    | _ => 0
  else ((Gotos.ofNumber (Row.ofState state).gotos).lookup symbol.code).getD 0

end Automaton

end CallContext
