/-!
# The grammar of JSON

What texts are JSON, and which values they have, for the whole of JSON and not only for what reports
make use of.  Characters and numbers are read by functions, and `Value.Reads` puts values together.
Blank space and numbers reach as far as they can: no value starts with blank space, and nothing that
can stand behind a number goes on with it.

* `Value.IsText` : the text of a value,
* `Value.IsText.unique` : a text has one value at most.
-/

namespace CallContext

/-- A JSON value. -/
inductive Value where
  | null
  | bool (b : Bool)
  | num (q : Rat)
  | str (s : String)
  | arr (items : List Value)
  /-- The members are in the order of the text, and a key can be there more than once. -/
  | obj (members : List (String × Value))

namespace Value

/-! ### Characters -/

/-- The value of a hexadecimal digit. -/
def hex? (c : Char) : Option Nat :=
  if '0' ≤ c ∧ c ≤ '9' then some (c.toNat - 48)
  else if 'a' ≤ c ∧ c ≤ 'f' then some (c.toNat - 87)
  else if 'A' ≤ c ∧ c ≤ 'F' then some (c.toNat - 55)
  else none

/-- Reads four hexadecimal digits. -/
def readUnit? : List Char → Option (Nat × List Char)
  | a :: b :: c :: d :: rest => do
    let a ← hex? a
    let b ← hex? b
    let c ← hex? c
    let d ← hex? d
    some (((a * 16 + b) * 16 + c) * 16 + d, rest)
  | _ => none

/-- The character of a code point; half of a surrogate pair is none. -/
def char? (n : Nat) : Option Char := if n.isValidChar then some (Char.ofNat n) else none

/-- Reads the second half of a surrogate pair. -/
def readLowHalf? (high : Nat) : List Char → Option (Char × List Char)
  | '\\' :: 'u' :: rest => do
    let (low, rest) ← readUnit? rest
    if 0xdc00 ≤ low ∧ low < 0xe000 then
      let c ← char? (0x10000 + (high - 0xd800) * 0x400 + (low - 0xdc00))
      some (c, rest)
    else none
  | _ => none

/-- The character that a letter stands for behind a backslash. -/
def escape? (c : Char) : Option Char :=
  if c = '"' ∨ c = '\\' ∨ c = '/' then some c
  else if c = 'b' then some (Char.ofNat 8)
  else if c = 'f' then some (Char.ofNat 12)
  else if c = 'n' then some '\n'
  else if c = 'r' then some '\r'
  else if c = 't' then some '\t'
  else none

/-- Reads what stands behind a backslash. -/
def readEscape? : List Char → Option (Char × List Char)
  | [] => none
  | c :: rest =>
    if c = 'u' then do
      let (n, rest) ← readUnit? rest
      if 0xd800 ≤ n ∧ n < 0xdc00 then readLowHalf? n rest
      else
        let c ← char? n
        some (c, rest)
    else (escape? c).map (·, rest)

/-- Reads a character of a string, but not the quote at its end. -/
def readChar? : List Char → Option (Char × List Char)
  | [] => none
  | c :: rest =>
    if c = '"' then none
    else if c = '\\' then readEscape? rest
    else if c.toNat < 32 then none
    else some (c, rest)

/-- The characters stand in a text as a string, behind the first quote; `rest` is what comes behind
the last quote. -/
inductive Spells : (cs text rest : List Char) → Prop
  | stop {rest : List Char} : Spells [] ('"' :: rest) rest
  | char {c : Char} {cs text more rest : List Char} (first : readChar? text = some (c, more))
      (others : Spells cs more rest) : Spells (c :: cs) text rest

theorem Spells.unique {cs cs' text rest rest' : List Char} (h : Spells cs text rest)
    (h' : Spells cs' text rest') : cs = cs' ∧ rest = rest' := by
  induction h generalizing cs' with
  | stop =>
    cases h' with
    | stop => exact ⟨rfl, rfl⟩
    | char first => cases first
  | char first _ ih =>
    cases h' with
    | stop => cases first
    | char first' others' =>
      cases first.symm.trans first'
      obtain ⟨rfl, rfl⟩ := ih others'
      exact ⟨rfl, rfl⟩

/-! ### Numbers -/

/-- The number that some digits make. -/
def digits? (cs : List Char) : Option Nat :=
  if cs ≠ [] ∧ cs.all Char.isDigit then some (Nat.ofDigitChars 10 cs 0) else none

/-- The number that some digits make, of which the first is no zero unless it is the only one. -/
def whole? (cs : List Char) : Option Nat :=
  if cs.head? = some '0' ∧ cs ≠ ['0'] then none else digits? cs

/-- The digits behind a point, and how many there are. -/
def fraction? : Option (List Char) → Option (Nat × Nat)
  | none => some (0, 0)
  | some cs => (digits? cs).map (·, cs.length)

/-- What stands behind the letter of an exponent, with a sign or without. -/
def exponent? : Option (List Char) → Option Int
  | none => some 0
  | some ('-' :: cs) => (digits? cs).map fun n => -n
  | some ('+' :: cs) => (digits? cs).map (↑·)
  | some cs => (digits? cs).map (↑·)

/-- What stands before the first character of a kind and, if there is one, behind it. -/
def cut (mark : Char → Bool) (cs : List Char) : List Char × Option (List Char) :=
  (cs.takeWhile (!mark ·), (cs.dropWhile (!mark ·)).tail?)

/-- The number that is written without a sign. -/
def unsigned? (cs : List Char) : Option Rat := do
  let (mantissa, exponent) := cut (fun c => c = 'e' || c = 'E') cs
  let (whole, fraction) := cut (· = '.') mantissa
  let n ← whole? whole
  let (f, places) ← fraction? fraction
  let e ← exponent? exponent
  -- the digits of both parts make one number, and then the point is shifted
  let digits := n * Nat.pow 10 places + f
  let shift := e - places
  some (mkRat (digits * Nat.pow 10 shift.toNat : Nat) (Nat.pow 10 (-shift).toNat))

/-- The number that is written. -/
def number? : List Char → Option Rat
  | '-' :: cs => (unsigned? cs).map (-·)
  | cs => unsigned? cs

/-- The characters that numbers are written with. -/
def isNumeric (c : Char) : Bool :=
  c.isDigit || c = '-' || c = '+' || c = '.' || c = 'e' || c = 'E'

/-- Reads a number. -/
def readNumber? (text : List Char) : Option (Rat × List Char) :=
  (number? (text.takeWhile isNumeric)).map (·, text.dropWhile isNumeric)

/-! ### Values -/

/-- Blank space. -/
def isSpace (c : Char) : Bool := c = ' ' || c = '\t' || c = '\n' || c = '\r'

/-- Goes over blank space. -/
def skip (text : List Char) : List Char := text.dropWhile isSpace

/-- A key with its colon stands in a text. -/
def ReadsKey (key : String) (text rest : List Char) : Prop :=
  ∃ inner more, skip text = '"' :: inner ∧ Spells key.toList inner more ∧ skip more = ':' :: rest

/-- What can be read: a value, or what stands behind the first item of an array or the first member
of an object, with the bracket at the end. -/
inductive Part where
  | value (v : Value)
  | items (vs : List Value)
  | members (ms : List (String × Value))

/-- A part stands in a text, and `rest` comes behind it. -/
inductive Reads : Part → (text rest : List Char) → Prop
  | null {rest : List Char} : Reads (.value .null) ('n' :: 'u' :: 'l' :: 'l' :: rest) rest
  | isTrue {rest : List Char} : Reads (.value (.bool true)) ('t' :: 'r' :: 'u' :: 'e' :: rest) rest
  | isFalse {rest : List Char} :
      Reads (.value (.bool false)) ('f' :: 'a' :: 'l' :: 's' :: 'e' :: rest) rest
  | num {q : Rat} {text rest : List Char} (h : readNumber? text = some (q, rest)) :
      Reads (.value (.num q)) text rest
  | str {s : String} {text rest : List Char} (h : Spells s.toList text rest) :
      Reads (.value (.str s)) ('"' :: text) rest
  | emptyArr {text rest : List Char} (h : skip text = ']' :: rest) :
      Reads (.value (.arr [])) ('[' :: text) rest
  | arr {v : Value} {vs : List Value} {text more rest : List Char}
      (first : Reads (.value v) (skip text) more) (others : Reads (.items vs) more rest) :
      Reads (.value (.arr (v :: vs))) ('[' :: text) rest
  | endItems {text rest : List Char} (h : skip text = ']' :: rest) : Reads (.items []) text rest
  | item {v : Value} {vs : List Value} {text next more rest : List Char}
      (comma : skip text = ',' :: next) (first : Reads (.value v) (skip next) more)
      (others : Reads (.items vs) more rest) : Reads (.items (v :: vs)) text rest
  | emptyObj {text rest : List Char} (h : skip text = '\x7d' :: rest) :
      Reads (.value (.obj [])) ('\x7b' :: text) rest
  | obj {key : String} {v : Value} {ms : List (String × Value)} {text next more rest : List Char}
      (named : ReadsKey key text next) (first : Reads (.value v) (skip next) more)
      (others : Reads (.members ms) more rest) :
      Reads (.value (.obj ((key, v) :: ms))) ('\x7b' :: text) rest
  | endMembers {text rest : List Char} (h : skip text = '\x7d' :: rest) :
      Reads (.members []) text rest
  | member {key : String} {v : Value} {ms : List (String × Value)}
      {text next behind more rest : List Char} (comma : skip text = ',' :: next)
      (named : ReadsKey key next behind) (first : Reads (.value v) (skip behind) more)
      (others : Reads (.members ms) more rest) : Reads (.members ((key, v) :: ms)) text rest

/-- The text is JSON and has the value. -/
def IsText (v : Value) (text : String) : Prop :=
  ∃ rest, Reads (.value v) (skip text.toList) rest ∧ skip rest = []

/-! ### One value -/

theorem ReadsKey.unique {key key' : String} {text rest rest' : List Char}
    (h : ReadsKey key text rest) (h' : ReadsKey key' text rest') : key = key' ∧ rest = rest' := by
  obtain ⟨inner, more, quote, spelled, colon⟩ := h
  obtain ⟨inner', more', quote', spelled', colon'⟩ := h'
  obtain rfl := (List.cons.inj (quote.symm.trans quote')).2
  obtain ⟨same, rfl⟩ := spelled.unique spelled'
  exact ⟨String.toList_inj.1 same, (List.cons.inj (colon.symm.trans colon')).2⟩

theorem isDigit_head_of_whole? {cs : List Char} {n : Nat} (h : whole? cs = some n) :
    cs.head?.any Char.isDigit = true := by
  unfold whole? digits? at h
  split at h
  · cases h
  · split at h
    · next digits =>
      obtain ⟨c, rest, rfl⟩ := List.exists_cons_of_ne_nil digits.1
      exact (Bool.and_eq_true_iff.1 digits.2).1
    · cases h

/-- The whole part of a number starts with a digit, so the number does. -/
theorem isDigit_of_unsigned? {c : Char} {cs : List Char} {q : Rat}
    (h : unsigned? (c :: cs) = some q) : c.isDigit = true := by
  obtain ⟨n, whole, -⟩ := Option.bind_eq_some_iff.1 h
  have digit := isDigit_head_of_whole? whole
  rw [List.head?_takeWhile, List.head?_takeWhile, List.head?_cons] at digit
  obtain ⟨d, kept, digit⟩ := (Option.any_eq_true _ _).1 digit
  have first := (Option.filter_eq_some_iff.1 (Option.filter_eq_some_iff.1 kept).1).1
  rwa [Option.some.inj first]

/-- A number starts with a sign or a digit. -/
theorem readNumber?_eq_none {c : Char} (text : List Char) (sign : c ≠ '-')
    (digit : c.isDigit = false) : readNumber? (c :: text) = none := by
  have unread (cs : List Char) : unsigned? (c :: cs) = none := by
    rw [Option.eq_none_iff_forall_ne_some]
    intro q h
    rw [isDigit_of_unsigned? h] at digit
    cases digit
  unfold readNumber?
  rw [Option.map_eq_none_iff, List.takeWhile_cons]
  split
  · rw [number?]
    · exact unread _
    · rintro cs same
      exact sign (List.cons.inj same).1
  · rfl

/-- A value starts with no closing bracket. -/
theorem Reads.head_ne {v : Value} {text rest more : List Char} (h : Reads (.value v) text rest) :
    text ≠ ']' :: more := by
  rintro rfl
  cases h with
  | num h =>
    rw [readNumber?_eq_none more (by decide) (by decide)] at h
    cases h

/-- A value starts with no blank space. -/
theorem Reads.skip_eq {v : Value} {text rest : List Char} (h : Reads (.value v) text rest) :
    skip text = text := by
  cases h with
  | @num q text rest h =>
    cases text with
    | nil => rfl
    | cons c text =>
      refine List.dropWhile_cons_of_neg fun space => ?_
      have blank : c = ' ' ∨ c = '\t' ∨ c = '\n' ∨ c = '\r' := by
        simpa [isSpace, or_assoc] using space
      have start : c ≠ '-' ∧ c.isDigit = false := by
        rcases blank with rfl | rfl | rfl | rfl <;> decide
      rw [readNumber?_eq_none text start.1 start.2] at h
      cases h
  | _ => rfl

theorem Reads.skipped {v : Value} {text rest : List Char} (h : Reads (.value v) text rest) :
    Reads (.value v) (skip text) rest := by
  rwa [h.skip_eq]

/-- Both are values, or items, or members. -/
def Part.alike : Part → Part → Bool
  | .value _, .value _ => true
  | .items _, .items _ => true
  | .members _, .members _ => true
  | _, _ => false

/-- What a text starts with is determined, and so is where it ends. -/
theorem Reads.unique {part part' : Part} {text rest rest' : List Char} (h : Reads part text rest)
    (h' : Reads part' text rest') (alike : part.alike part' = true) :
    part = part' ∧ rest = rest' := by
  have noNumber (c : Char) (text : List Char) (q : Rat) (rest : List Char)
      (start : c ≠ '-' ∧ c.isDigit = false) : readNumber? (c :: text) ≠ some (q, rest) := by
    simp [readNumber?_eq_none text start.1 start.2]
  -- By induction on the first reading.  The first character of the text, or the first behind blank
  -- space, rules out all ways to read it again but one; numbers are the only values that do not
  -- show their first character.
  induction h generalizing part' rest' with
  | null =>
    cases h' with
    | null => exact ⟨rfl, rfl⟩
    | num h => exact absurd h (noNumber _ _ _ _ (by decide))
    | _ => cases alike
  | isTrue =>
    cases h' with
    | isTrue => exact ⟨rfl, rfl⟩
    | num h => exact absurd h (noNumber _ _ _ _ (by decide))
    | _ => cases alike
  | isFalse =>
    cases h' with
    | isFalse => exact ⟨rfl, rfl⟩
    | num h => exact absurd h (noNumber _ _ _ _ (by decide))
    | _ => cases alike
  | num h =>
    cases h' with
    | num h' =>
      cases h.symm.trans h'
      exact ⟨rfl, rfl⟩
    | endItems | item | endMembers | member => cases alike
    | _ => exact absurd h (noNumber _ _ _ _ (by decide))
  | str h =>
    cases h' with
    | str h' =>
      obtain ⟨same, rfl⟩ := h.unique h'
      rw [String.toList_inj.1 same]
      exact ⟨rfl, rfl⟩
    | num h => exact absurd h (noNumber _ _ _ _ (by decide))
    | _ => cases alike
  | emptyArr h =>
    cases h' with
    | emptyArr h' => exact ⟨rfl, (List.cons.inj (h.symm.trans h')).2⟩
    | arr first => exact absurd h first.head_ne
    | num h => exact absurd h (noNumber _ _ _ _ (by decide))
    | _ => cases alike
  | arr first _ ih ihs =>
    cases h' with
    | emptyArr h' => exact absurd h' first.head_ne
    | arr first' others' =>
      obtain ⟨same, rfl⟩ := ih first' rfl
      obtain ⟨same', rfl⟩ := ihs others' rfl
      cases same
      cases same'
      exact ⟨rfl, rfl⟩
    | num h => exact absurd h (noNumber _ _ _ _ (by decide))
    | _ => cases alike
  | endItems h =>
    cases h' with
    | endItems h' => exact ⟨rfl, (List.cons.inj (h.symm.trans h')).2⟩
    | item comma => cases h.symm.trans comma
    | _ => cases alike
  | item comma _ _ ih ihs =>
    cases h' with
    | endItems h' => cases comma.symm.trans h'
    | item comma' first' others' =>
      obtain rfl := (List.cons.inj (comma.symm.trans comma')).2
      obtain ⟨same, rfl⟩ := ih first' rfl
      obtain ⟨same', rfl⟩ := ihs others' rfl
      cases same
      cases same'
      exact ⟨rfl, rfl⟩
    | _ => cases alike
  | emptyObj h =>
    cases h' with
    | emptyObj h' => exact ⟨rfl, (List.cons.inj (h.symm.trans h')).2⟩
    | obj named =>
      obtain ⟨_, _, quote, -⟩ := named
      cases h.symm.trans quote
    | num h => exact absurd h (noNumber _ _ _ _ (by decide))
    | _ => cases alike
  | obj named _ _ ih ihs =>
    cases h' with
    | emptyObj h' =>
      obtain ⟨_, _, quote, -⟩ := named
      cases h'.symm.trans quote
    | obj named' first' others' =>
      obtain ⟨rfl, rfl⟩ := named.unique named'
      obtain ⟨same, rfl⟩ := ih first' rfl
      obtain ⟨same', rfl⟩ := ihs others' rfl
      cases same
      cases same'
      exact ⟨rfl, rfl⟩
    | num h => exact absurd h (noNumber _ _ _ _ (by decide))
    | _ => cases alike
  | endMembers h =>
    cases h' with
    | endMembers h' => exact ⟨rfl, (List.cons.inj (h.symm.trans h')).2⟩
    | member comma => cases h.symm.trans comma
    | _ => cases alike
  | member comma named _ _ ih ihs =>
    cases h' with
    | endMembers h' => cases comma.symm.trans h'
    | member comma' named' first' others' =>
      obtain rfl := (List.cons.inj (comma.symm.trans comma')).2
      obtain ⟨rfl, rfl⟩ := named.unique named'
      obtain ⟨same, rfl⟩ := ih first' rfl
      obtain ⟨same', rfl⟩ := ihs others' rfl
      cases same
      cases same'
      exact ⟨rfl, rfl⟩
    | _ => cases alike

/-- A text has one value at most. -/
theorem IsText.unique {v w : Value} {text : String} (h : v.IsText text) (h' : w.IsText text) :
    v = w := by
  obtain ⟨rest, reads, -⟩ := h
  obtain ⟨rest', reads', -⟩ := h'
  exact Part.value.inj (reads.unique reads' rfl).1

end Value

end CallContext
