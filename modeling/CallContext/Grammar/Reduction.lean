import CallContext.Grammar.Symbol

/-!
# Reductions

A `Reduction` replaces the topmost subtrees of a parse stack by one subtree.  The `Labels` of the
new subtree say what becomes of its children: some of them are displayed under a kind that is not
their own symbol, and some play a `Field`, a part by which the analysis finds them.
-/

namespace CallContext

/-- A part that a child plays in its parent. -/
inductive Field where
  /-- The name of a definition, of an imported module or of an imported object. -/
  | name
  /-- The block of a compound statement. -/
  | body
  /-- The function or class that decorators stand before. -/
  | definition
  /-- What a call calls. -/
  | callee
  /-- What stands after the dot of an attribute access. -/
  | attribute
  /-- The module that names are imported from. -/
  | moduleName
deriving DecidableEq, Repr

/-- How the children of a subtree are displayed; children are counted without comments and other
extras. -/
structure Labels where
  /-- Kinds that replace the symbols of children. -/
  kinds : List (Nat × Symbol)
  fields : List (Nat × Field)

namespace Labels

/-- No child is displayed in a special way. -/
def none : Labels := ⟨[], []⟩

/-- The kind that replaces the symbol of the child at a position. -/
def kindAt (labels : Labels) (position : Nat) : Option Symbol :=
  labels.kinds.lookup position

/-- The field that the child at a position plays. -/
def fieldAt (labels : Labels) (position : Nat) : Option Field :=
  labels.fields.lookup position

/-- The different labels that occur. -/
def table : List Labels := [
  ⟨[], []⟩, ⟨[(0, ⟨1⟩)], []⟩, ⟨[(1, ⟨1⟩)], []⟩, ⟨[(2, ⟨161⟩)], [(2, .body)]⟩,
  ⟨[], [(2, .body), (3, .body)]⟩, ⟨[(3, ⟨161⟩)], []⟩, ⟨[(0, ⟨149⟩)], []⟩, ⟨[], [(2, .attribute)]⟩,
  ⟨[(2, ⟨161⟩)], []⟩, ⟨[(5, ⟨161⟩)], []⟩, ⟨[(3, ⟨161⟩)], [(3, .body)]⟩,
  ⟨[], [(3, .body), (4, .body)]⟩, ⟨[(5, ⟨161⟩)], [(5, .body)]⟩, ⟨[(6, ⟨161⟩)], [(6, .body)]⟩,
  ⟨[], [(5, .body), (6, .body)]⟩, ⟨[], [(6, .body), (7, .body)]⟩, ⟨[], [(1, .definition)]⟩,
  ⟨[], [(3, .body)]⟩, ⟨[(3, ⟨161⟩)], [(1, .name), (3, .body)]⟩, ⟨[], [(4, .body)]⟩,
  ⟨[(4, ⟨161⟩)], [(4, .body)]⟩, ⟨[(4, ⟨161⟩)], [(1, .name), (4, .body)]⟩,
  ⟨[], [(1, .name), (3, .body), (4, .body)]⟩, ⟨[], [(5, .body)]⟩, ⟨[], [(4, .body), (5, .body)]⟩,
  ⟨[(5, ⟨161⟩)], [(2, .name), (5, .body)]⟩, ⟨[], [(1, .name), (4, .body), (5, .body)]⟩,
  ⟨[(5, ⟨161⟩)], [(1, .name), (5, .body)]⟩, ⟨[], [(2, .name), (5, .body), (6, .body)]⟩,
  ⟨[(6, ⟨161⟩)], [(2, .name), (6, .body)]⟩, ⟨[(6, ⟨161⟩)], [(1, .name), (6, .body)]⟩,
  ⟨[], [(1, .name), (5, .body), (6, .body)]⟩, ⟨[(7, ⟨161⟩)], [(2, .name), (7, .body)]⟩,
  ⟨[], [(2, .name), (6, .body), (7, .body)]⟩, ⟨[], [(1, .name), (6, .body), (7, .body)]⟩,
  ⟨[(7, ⟨161⟩)], [(1, .name), (7, .body)]⟩, ⟨[], [(2, .name), (7, .body), (8, .body)]⟩,
  ⟨[(8, ⟨161⟩)], [(2, .name), (8, .body)]⟩, ⟨[], [(1, .name), (7, .body), (8, .body)]⟩,
  ⟨[], [(2, .name), (8, .body), (9, .body)]⟩, ⟨[(0, ⟨272⟩), (1, ⟨272⟩)], []⟩,
  ⟨[(0, ⟨273⟩), (1, ⟨273⟩)], []⟩, ⟨[], [(0, .callee)]⟩, ⟨[], [(1, .body)]⟩, ⟨[(1, ⟨224⟩)], []⟩,
  ⟨[], [(2, .body)]⟩, ⟨[], [(0, .name)]⟩, ⟨[(2, ⟨270⟩)], []⟩, ⟨[(0, ⟨1⟩)], [(0, .name)]⟩,
  ⟨[], [(1, .name)]⟩, ⟨[(0, ⟨271⟩)], []⟩, ⟨[], [(1, .moduleName)]⟩, ⟨[(4, ⟨161⟩)], []⟩,
  ⟨[(6, ⟨161⟩)], []⟩]

end Labels

/-- One step of the automaton that makes a subtree out of its children. -/
structure Reduction where
  result : Symbol
  /-- How many children are taken, comments and other extras not counted. -/
  arity : Nat
  /-- What the step adds to the preference for the new subtree among ambiguous ones. -/
  precedence : Int
  /-- The number of its labels in `Labels.table`. -/
  labelling : Nat

namespace Reduction

/-- The labels of the new subtree. -/
def labels (r : Reduction) : Labels := Labels.table.getD r.labelling Labels.none

/-- All reductions, in blocks of 16. -/
def table : List (List Reduction) := [
  [⟨⟨108⟩, 0, 0, 0⟩, ⟨⟨108⟩, 1, 0, 0⟩, ⟨⟨238⟩, 2, 0, 0⟩, ⟨⟨124⟩, 1, 0, 1⟩, ⟨⟨179⟩, 1, 0, 1⟩,
   ⟨⟨189⟩, 1, 0, 1⟩, ⟨⟨184⟩, 2, 0, 2⟩, ⟨⟨199⟩, 2, 0, 0⟩, ⟨⟨199⟩, 3, 0, 0⟩, ⟨⟨201⟩, 1, 0, 0⟩,
   ⟨⟨225⟩, 2, 0, 0⟩, ⟨⟨225⟩, 3, 0, 0⟩, ⟨⟨226⟩, 5, 0, 0⟩, ⟨⟨226⟩, 6, 0, 0⟩, ⟨⟨226⟩, 7, 0, 0⟩,
   ⟨⟨162⟩, 2, 0, 0⟩],
  [⟨⟨162⟩, 3, 0, 0⟩, ⟨⟨127⟩, 1, 0, 0⟩, ⟨⟨125⟩, 1, 0, 0⟩, ⟨⟨204⟩, 1, 0, 0⟩, ⟨⟨204⟩, 2, 0, 0⟩,
   ⟨⟨185⟩, 2, 0, 2⟩, ⟨⟨122⟩, 2, 0, 0⟩, ⟨⟨119⟩, 3, 0, 0⟩, ⟨⟨119⟩, 3, -1, 0⟩, ⟨⟨144⟩, 2, 0, 0⟩,
   ⟨⟨122⟩, 3, 0, 0⟩, ⟨⟨119⟩, 4, 0, 0⟩, ⟨⟨119⟩, 4, -1, 0⟩, ⟨⟨144⟩, 3, 0, 0⟩, ⟨⟨204⟩, 3, 0, 0⟩,
   ⟨⟨204⟩, 4, 0, 0⟩],
  [⟨⟨139⟩, 4, 0, 3⟩, ⟨⟨139⟩, 5, 0, 4⟩, ⟨⟨124⟩, 1, 0, 0⟩, ⟨⟨179⟩, 1, 0, 0⟩, ⟨⟨189⟩, 1, 0, 0⟩,
   ⟨⟨131⟩, 4, 0, 5⟩, ⟨⟨131⟩, 5, 0, 5⟩, ⟨⟨131⟩, 5, 0, 0⟩, ⟨⟨248⟩, 2, 0, 0⟩, ⟨⟨249⟩, 2, 0, 0⟩,
   ⟨⟨131⟩, 6, 0, 0⟩, ⟨⟨189⟩, 1, 0, 6⟩, ⟨⟨180⟩, 2, 0, 0⟩, ⟨⟨216⟩, 2, 0, 0⟩, ⟨⟨184⟩, 2, 0, 0⟩,
   ⟨⟨181⟩, 2, 0, 0⟩],
  [⟨⟨214⟩, 2, 0, 0⟩, ⟨⟨202⟩, 3, 0, 7⟩, ⟨⟨203⟩, 4, 0, 0⟩, ⟨⟨203⟩, 5, 0, 0⟩, ⟨⟨244⟩, 2, 0, 0⟩,
   ⟨⟨203⟩, 6, 0, 0⟩, ⟨⟨208⟩, 2, 0, 0⟩, ⟨⟨110⟩, 2, 0, 0⟩, ⟨⟨110⟩, 3, 0, 0⟩, ⟨⟨110⟩, 4, 0, 0⟩,
   ⟨⟨140⟩, 3, 0, 8⟩, ⟨⟨140⟩, 4, 0, 0⟩, ⟨⟨140⟩, 4, 0, 5⟩, ⟨⟨141⟩, 4, 0, 5⟩, ⟨⟨140⟩, 5, 0, 0⟩,
   ⟨⟨141⟩, 5, 0, 0⟩],
  [⟨⟨140⟩, 6, 0, 9⟩, ⟨⟨141⟩, 6, 0, 9⟩, ⟨⟨140⟩, 7, 0, 0⟩, ⟨⟨141⟩, 7, 0, 0⟩, ⟨⟨161⟩, 1, 0, 0⟩,
   ⟨⟨161⟩, 2, 0, 0⟩, ⟨⟨138⟩, 4, 0, 10⟩, ⟨⟨244⟩, 1, 0, 0⟩, ⟨⟨138⟩, 5, 0, 11⟩, ⟨⟨139⟩, 5, 0, 3⟩,
   ⟨⟨137⟩, 6, 0, 12⟩, ⟨⟨139⟩, 6, 0, 4⟩, ⟨⟨137⟩, 7, 0, 13⟩, ⟨⟨137⟩, 7, 0, 14⟩, ⟨⟨132⟩, 4, 0, 5⟩,
   ⟨⟨137⟩, 8, 0, 15⟩],
  [⟨⟨132⟩, 5, 0, 0⟩, ⟨⟨133⟩, 3, 0, 3⟩, ⟨⟨133⟩, 4, 0, 4⟩, ⟨⟨159⟩, 2, 0, 16⟩, ⟨⟨177⟩, 2, 0, 0⟩,
   ⟨⟨177⟩, 3, 0, 0⟩, ⟨⟨135⟩, 1, 0, 0⟩, ⟨⟨134⟩, 4, 0, 17⟩, ⟨⟨143⟩, 4, 0, 10⟩, ⟨⟨155⟩, 4, 0, 18⟩,
   ⟨⟨134⟩, 5, 0, 19⟩, ⟨⟨135⟩, 2, 0, 0⟩, ⟨⟨143⟩, 5, 0, 20⟩, ⟨⟨138⟩, 5, 0, 10⟩, ⟨⟨143⟩, 5, 0, 11⟩,
   ⟨⟨146⟩, 5, 0, 21⟩],
  [⟨⟨155⟩, 5, 0, 22⟩, ⟨⟨155⟩, 5, 0, 21⟩, ⟨⟨131⟩, 6, 0, 5⟩, ⟨⟨135⟩, 3, 0, 0⟩, ⟨⟨134⟩, 6, 0, 23⟩,
   ⟨⟨143⟩, 6, 0, 24⟩, ⟨⟨146⟩, 6, 0, 25⟩, ⟨⟨138⟩, 6, 0, 11⟩, ⟨⟨142⟩, 3, 0, 8⟩, ⟨⟨139⟩, 6, 0, 3⟩,
   ⟨⟨146⟩, 6, 0, 26⟩, ⟨⟨146⟩, 6, 0, 27⟩, ⟨⟨155⟩, 6, 0, 26⟩, ⟨⟨155⟩, 6, 0, 27⟩, ⟨⟨131⟩, 7, 0, 0⟩,
   ⟨⟨146⟩, 7, 0, 28⟩],
  [⟨⟨146⟩, 7, 0, 29⟩, ⟨⟨137⟩, 7, 0, 12⟩, ⟨⟨142⟩, 4, 0, 0⟩, ⟨⟨139⟩, 7, 0, 4⟩, ⟨⟨146⟩, 7, 0, 30⟩,
   ⟨⟨146⟩, 7, 0, 31⟩, ⟨⟨155⟩, 7, 0, 31⟩, ⟨⟨137⟩, 8, 0, 13⟩, ⟨⟨146⟩, 8, 0, 32⟩, ⟨⟨146⟩, 8, 0, 33⟩,
   ⟨⟨137⟩, 8, 0, 14⟩, ⟨⟨146⟩, 8, 0, 34⟩, ⟨⟨146⟩, 8, 0, 35⟩, ⟨⟨137⟩, 9, 0, 15⟩, ⟨⟨146⟩, 9, 0, 36⟩,
   ⟨⟨146⟩, 9, 0, 37⟩],
  [⟨⟨146⟩, 9, 0, 38⟩, ⟨⟨146⟩, 10, 0, 39⟩, ⟨⟨237⟩, 1, 0, 0⟩, ⟨⟨229⟩, 2, 0, 0⟩, ⟨⟨266⟩, 2, 0, 0⟩,
   ⟨⟨188⟩, 1, 0, 0⟩, ⟨⟨193⟩, 2, 0, 0⟩, ⟨⟨235⟩, 2, 0, 0⟩, ⟨⟨192⟩, 3, 0, 0⟩, ⟨⟨260⟩, 2, 0, 0⟩,
   ⟨⟨260⟩, 3, 0, 40⟩, ⟨⟨260⟩, 3, 0, 41⟩, ⟨⟨230⟩, 2, 0, 0⟩, ⟨⟨230⟩, 3, 0, 0⟩, ⟨⟨217⟩, 2, 0, 0⟩,
   ⟨⟨205⟩, 2, 0, 42⟩],
  [⟨⟨224⟩, 3, 0, 0⟩, ⟨⟨216⟩, 3, 0, 0⟩, ⟨⟨214⟩, 3, 0, 0⟩, ⟨⟨217⟩, 3, 0, 0⟩, ⟨⟨215⟩, 3, 0, 0⟩,
   ⟨⟨158⟩, 2, 0, 0⟩, ⟨⟨222⟩, 4, 0, 43⟩, ⟨⟨219⟩, 4, 0, 43⟩, ⟨⟨217⟩, 4, 0, 0⟩, ⟨⟨221⟩, 4, 0, 43⟩,
   ⟨⟨220⟩, 4, 0, 43⟩, ⟨⟨158⟩, 3, 0, 0⟩, ⟨⟨158⟩, 3, 0, 44⟩, ⟨⟨217⟩, 5, 0, 0⟩, ⟨⟨158⟩, 4, 0, 0⟩,
   ⟨⟨158⟩, 4, 0, 44⟩],
  [⟨⟨158⟩, 5, 0, 0⟩, ⟨⟨158⟩, 5, 0, 44⟩, ⟨⟨194⟩, 2, 0, 0⟩, ⟨⟨185⟩, 2, 0, 0⟩, ⟨⟨259⟩, 2, 0, 0⟩,
   ⟨⟨180⟩, 3, 0, 0⟩, ⟨⟨181⟩, 3, 0, 0⟩, ⟨⟨200⟩, 1, 0, 0⟩, ⟨⟨176⟩, 2, 0, 0⟩, ⟨⟨176⟩, 3, 0, 0⟩,
   ⟨⟨225⟩, 1, 0, 0⟩, ⟨⟨190⟩, 2, 0, 0⟩, ⟨⟨195⟩, 3, 0, 45⟩, ⟨⟨123⟩, 3, 0, 46⟩, ⟨⟨186⟩, 3, 0, 47⟩,
   ⟨⟨191⟩, 3, 0, 0⟩],
  [⟨⟨195⟩, 4, 0, 17⟩, ⟨⟨228⟩, 5, 0, 0⟩, ⟨⟨145⟩, 1, 1, 0⟩, ⟨⟨122⟩, 1, 0, 0⟩, ⟨⟨207⟩, 1, 0, 0⟩,
   ⟨⟨233⟩, 1, 0, 0⟩, ⟨⟨267⟩, 2, 0, 0⟩, ⟨⟨201⟩, 2, 0, 0⟩, ⟨⟨127⟩, 2, 0, 0⟩, ⟨⟨163⟩, 1, 0, 0⟩,
   ⟨⟨163⟩, 2, 0, 0⟩, ⟨⟨243⟩, 2, 0, 0⟩, ⟨⟨255⟩, 2, 0, 0⟩, ⟨⟨201⟩, 3, 0, 0⟩, ⟨⟨119⟩, 2, -1, 0⟩,
   ⟨⟨121⟩, 2, 0, 0⟩],
  [⟨⟨125⟩, 2, 0, 0⟩, ⟨⟨126⟩, 2, 0, 0⟩, ⟨⟨153⟩, 4, 0, 0⟩, ⟨⟨218⟩, 3, 0, 0⟩, ⟨⟨187⟩, 1, 0, 0⟩,
   ⟨⟨165⟩, 1, 0, 0⟩, ⟨⟨231⟩, 1, 0, 0⟩, ⟨⟨268⟩, 2, 0, 0⟩, ⟨⟨223⟩, 1, 0, 0⟩, ⟨⟨120⟩, 2, 0, 0⟩,
   ⟨⟨223⟩, 2, 0, 0⟩, ⟨⟨242⟩, 2, 0, 0⟩, ⟨⟨227⟩, 2, 0, 0⟩, ⟨⟨263⟩, 2, 0, 0⟩, ⟨⟨261⟩, 2, 0, 0⟩,
   ⟨⟨165⟩, 2, 0, 0⟩],
  [⟨⟨254⟩, 2, 0, 0⟩, ⟨⟨149⟩, 2, 0, 0⟩, ⟨⟨127⟩, 3, 0, 0⟩, ⟨⟨150⟩, 2, 0, 0⟩, ⟨⟨197⟩, 3, 0, 0⟩,
   ⟨⟨232⟩, 3, 0, 0⟩, ⟨⟨264⟩, 2, 0, 0⟩, ⟨⟨127⟩, 4, 0, 0⟩, ⟨⟨245⟩, 2, 0, 0⟩, ⟨⟨182⟩, 3, 0, 46⟩,
   ⟨⟨232⟩, 4, 0, 0⟩, ⟨⟨156⟩, 3, 0, 0⟩, ⟨⟨213⟩, 3, 0, 48⟩, ⟨⟨213⟩, 3, 0, 46⟩, ⟨⟨253⟩, 2, 0, 0⟩,
   ⟨⟨232⟩, 5, 0, 0⟩],
  [⟨⟨226⟩, 4, 0, 0⟩, ⟨⟨164⟩, 1, 0, 0⟩, ⟨⟨156⟩, 4, 0, 0⟩, ⟨⟨183⟩, 5, 0, 46⟩, ⟨⟨232⟩, 6, 0, 0⟩,
   ⟨⟨167⟩, 2, 0, 0⟩, ⟨⟨204⟩, 5, 0, 0⟩, ⟨⟨265⟩, 2, 0, 0⟩, ⟨⟨172⟩, 3, 0, 0⟩, ⟨⟨256⟩, 2, 0, 0⟩,
   ⟨⟨209⟩, 2, 0, 0⟩, ⟨⟨212⟩, 3, 0, 0⟩, ⟨⟨211⟩, 3, 0, 0⟩, ⟨⟨210⟩, 3, 0, 0⟩, ⟨⟨206⟩, 3, 0, 0⟩,
   ⟨⟨116⟩, 1, 0, 46⟩],
  [⟨⟨116⟩, 2, 0, 46⟩, ⟨⟨234⟩, 1, 0, 0⟩, ⟨⟨116⟩, 3, 0, 46⟩, ⟨⟨154⟩, 4, 1, 0⟩, ⟨⟨234⟩, 2, 0, 0⟩,
   ⟨⟨269⟩, 2, 0, 0⟩, ⟨⟨252⟩, 2, 0, 0⟩, ⟨⟨169⟩, 2, 0, 0⟩, ⟨⟨173⟩, 2, 0, 0⟩, ⟨⟨168⟩, 2, 0, 0⟩,
   ⟨⟨170⟩, 2, 0, 0⟩, ⟨⟨196⟩, 3, 0, 45⟩, ⟨⟨169⟩, 3, 0, 0⟩, ⟨⟨168⟩, 3, 0, 0⟩, ⟨⟨170⟩, 3, 0, 0⟩,
   ⟨⟨175⟩, 3, 0, 0⟩],
  [⟨⟨174⟩, 3, 0, 0⟩, ⟨⟨196⟩, 4, 0, 17⟩, ⟨⟨169⟩, 4, 0, 0⟩, ⟨⟨168⟩, 4, 0, 0⟩, ⟨⟨175⟩, 4, 0, 0⟩,
   ⟨⟨170⟩, 4, 0, 0⟩, ⟨⟨174⟩, 4, 0, 0⟩, ⟨⟨169⟩, 5, 0, 0⟩, ⟨⟨168⟩, 5, 0, 0⟩, ⟨⟨170⟩, 5, 0, 0⟩,
   ⟨⟨174⟩, 5, 0, 0⟩, ⟨⟨174⟩, 6, 0, 0⟩, ⟨⟨112⟩, 1, 0, 0⟩, ⟨⟨119⟩, 2, 0, 0⟩, ⟨⟨151⟩, 2, 0, 0⟩,
   ⟨⟨152⟩, 2, 0, 0⟩],
  [⟨⟨240⟩, 2, 0, 0⟩, ⟨⟨121⟩, 3, 0, 0⟩, ⟨⟨151⟩, 3, 0, 0⟩, ⟨⟨152⟩, 3, 0, 0⟩, ⟨⟨160⟩, 3, 0, 0⟩,
   ⟨⟨241⟩, 2, 0, 49⟩, ⟨⟨241⟩, 2, 0, 0⟩, ⟨⟨251⟩, 2, 0, 0⟩, ⟨⟨153⟩, 5, 0, 0⟩, ⟨⟨246⟩, 2, 0, 0⟩,
   ⟨⟨247⟩, 2, 0, 0⟩, ⟨⟨166⟩, 3, 0, 0⟩, ⟨⟨257⟩, 2, 0, 0⟩, ⟨⟨178⟩, 1, 0, 0⟩, ⟨⟨113⟩, 1, 0, 0⟩,
   ⟨⟨177⟩, 1, 0, 0⟩],
  [⟨⟨144⟩, 1, 0, 0⟩, ⟨⟨153⟩, 2, 0, 0⟩, ⟨⟨176⟩, 1, 0, 0⟩, ⟨⟨239⟩, 2, 0, 0⟩, ⟨⟨117⟩, 3, 0, 46⟩,
   ⟨⟨250⟩, 2, 0, 0⟩, ⟨⟨262⟩, 2, 0, 0⟩, ⟨⟨258⟩, 2, 0, 0⟩, ⟨⟨269⟩, 1, 0, 50⟩, ⟨⟨171⟩, 3, 0, 0⟩,
   ⟨⟨128⟩, 1, 0, 0⟩, ⟨⟨129⟩, 1, 0, 0⟩, ⟨⟨130⟩, 1, 0, 0⟩, ⟨⟨111⟩, 2, 0, 0⟩, ⟨⟨236⟩, 1, 0, 0⟩,
   ⟨⟨198⟩, 3, 0, 0⟩],
  [⟨⟨114⟩, 4, 0, 0⟩, ⟨⟨118⟩, 1, 0, 0⟩, ⟨⟨115⟩, 4, 0, 51⟩, ⟨⟨157⟩, 3, 0, 0⟩, ⟨⟨157⟩, 3, 0, 44⟩,
   ⟨⟨147⟩, 2, 0, 0⟩, ⟨⟨246⟩, 1, 0, 0⟩, ⟨⟨147⟩, 3, 0, 0⟩, ⟨⟨197⟩, 5, 0, 0⟩, ⟨⟨253⟩, 2, 0, 44⟩,
   ⟨⟨114⟩, 6, 0, 0⟩, ⟨⟨115⟩, 6, 0, 51⟩, ⟨⟨136⟩, 4, 0, 5⟩, ⟨⟨136⟩, 5, 0, 52⟩, ⟨⟨136⟩, 5, 0, 0⟩,
   ⟨⟨136⟩, 6, 0, 0⟩],
  [⟨⟨136⟩, 6, 0, 9⟩, ⟨⟨136⟩, 7, 0, 0⟩, ⟨⟨136⟩, 7, 0, 53⟩, ⟨⟨136⟩, 8, 0, 0⟩, ⟨⟨148⟩, 1, 0, 0⟩,
   ⟨⟨113⟩, 2, 0, 0⟩, ⟨⟨144⟩, 4, 0, 0⟩, ⟨⟨144⟩, 5, 0, 0⟩]]

/-- The reduction of a number. -/
def ofNumber (n : Nat) : Reduction :=
  (table.getD (n / 16) []).getD (n % 16) ⟨Symbol.error, 0, 0, 0⟩

end Reduction

end CallContext
