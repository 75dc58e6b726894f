/-!
# TOML items

What a TOML document consists of.  Values of which only the kind matters, floating-point numbers
and dates, carry no value.  Tables remember how they came about, since that decides whether they
may be extended.
-/

namespace CallContext.Toml

/-- A part of a document. -/
inductive Item where
  | string (s : String)
  | integer (n : Int)
  | boolean (b : Bool)
  | float
  | datetime
  | array (items : List Item)
  /-- A table in braces; a `dotted` one was made by a dotted key. -/
  | inline (dotted : Bool) (members : List (String × Item))
  /-- A table with a header, or an `implicit` one that was made by the header of a table inside it
  or by a `dotted` key. -/
  | table (implicit dotted : Bool) (members : List (String × Item))
  /-- The tables of a header in double brackets. -/
  | tables (items : List (List (String × Item)))

/-- Keys with their items. -/
abbrev Members := List (String × Item)

namespace Members

/-- Puts an item under a key, which it may have already. -/
def set (key : String) (item : Item) : Members → Members
  | [] => [(key, item)]
  | (k, old) :: more => if k = key then (k, item) :: more else (k, old) :: set key item more

/-- Adds an item under a new key. -/
def add? (ms : Members) (key : String) (item : Item) : Option Members :=
  if (ms.lookup key).isSome then none else some (ms ++ [(key, item)])

/-- Changes the last of some tables. -/
def changeLast? (f : Members → Option Members) : List Members → Option (List Members)
  | [] => none
  | [ms] => (f ms).map ([·])
  | ms :: more => (changeLast? f more).map (ms :: ·)

/-- Adds an item under a key in the table at the end of a dotted way of keys.  Tables on the way
are made; of those that are there, tables with a header cannot be entered, and the last one must
have been made by a dotted key. -/
def addDotted? (key : String) (item : Item) : List String → Members → Option Members
  | [], ms => ms.add? key item
  | k :: way, ms =>
    match ms.lookup k with
    | none =>
      (addDotted? key item way []).map fun inner => ms ++ [(k, .table true true inner)]
    | some (.table implicit dotted inner) =>
      if implicit && (dotted || !way.isEmpty) then
        (addDotted? key item way inner).map fun inner => ms.set k (.table implicit dotted inner)
      else none
    | some (.tables items) =>
      if way.isEmpty then none
      else (changeLast? (addDotted? key item way) items).map fun items => ms.set k (.tables items)
    | some _ => none

/-- Adds an item under a key in the table at the end of a dotted way of keys inside braces. -/
def addInline? (key : String) (item : Item) : List String → Members → Option Members
  | [], ms => ms.add? key item
  | k :: way, ms =>
    match ms.lookup k with
    | none => (addInline? key item way []).map fun inner => ms ++ [(k, .inline true inner)]
    | some (.inline true inner) =>
      (addInline? key item way inner).map fun inner => ms.set k (.inline true inner)
    | some _ => none

/-- Changes the table at the end of a way of keys; tables on the way are made. -/
def changeAt? (f : Members → Option Members) : List String → Members → Option Members
  | [], ms => f ms
  | k :: way, ms =>
    match ms.lookup k with
    | none => (changeAt? f way []).map fun inner => ms ++ [(k, .table true false inner)]
    | some (.table implicit dotted inner) =>
      (changeAt? f way inner).map fun inner => ms.set k (.table implicit dotted inner)
    | some (.tables items) =>
      (changeLast? (changeAt? f way) items).map fun items => ms.set k (.tables items)
    | some _ => none

/-- Opens the table of a header, which may have been made by the header of a table inside it. -/
def openTable? (key : String) (ms : Members) : Option Members :=
  match ms.lookup key with
  | none => some (ms ++ [(key, .table false false [])])
  | some (.table true false inner) => some (ms.set key (.table false false inner))
  | some _ => none

/-- Opens one more table of a header in double brackets. -/
def openArray? (key : String) (ms : Members) : Option Members :=
  match ms.lookup key with
  | none => some (ms ++ [(key, .tables [[]])])
  | some (.tables items) => some (ms.set key (.tables (items ++ [[]])))
  | some _ => none

end Members

end CallContext.Toml
