import CallContext.Proofs.Toml.Document
import CallContext.Proofs.Toml.Members

/-!
# Ways to write a table

A table in the root table of a document may be written below a header, in braces, or by dotted
keys.  The three documents are read with the same members in the table.

* `reads_document` : what a document with a table that is written in one of these ways is read as,
* `rel_parse?_document` : so the three documents differ in nothing but the kind of the table.
-/

namespace CallContext.Toml

/-! ### Values -/

theorem isValue_of_items? {value : List Char → Option (Item × List Char)} {fuel : Nat}
    {taken : List Item} {cs rest : List Char} {item : Item}
    (h : items? value fuel taken cs = some (item, rest)) : item.isValue = true := by
  induction fuel generalizing taken cs with
  | zero => cases h
  | succ fuel ih =>
    rcases items?_eq_some.1 h with ⟨-, rfl⟩ | ⟨-, x, behind, -, ⟨more, -, inner⟩ | ⟨-, rfl⟩⟩
    · rfl
    · exact ih inner
    · rfl

theorem isValue_of_members? {value : List Char → Option (Item × List Char)} {fuel : Nat}
    {ms : Members} {cs rest : List Char} {item : Item}
    (h : members? value fuel ms cs = some (item, rest)) : item.isValue = true := by
  induction fuel generalizing ms cs with
  | zero => cases h
  | succ fuel ih =>
    obtain ⟨way, key, behind, x, after, ms', -, -, -, ⟨more, -, inner⟩ | ⟨-, rfl⟩⟩ :=
      members?_eq_some.1 h
    · exact ih inner
    · rfl

theorem isValue_of_based? {base : Nat} {cs rest : List Char} {item : Item}
    (h : based? base cs = some (item, rest)) : item.isValue = true := by
  unfold based? at h
  split at h
  · cases h
  · dsimp only at h
    split at h <;> cases h
    rfl

theorem isValue_of_decimalOf? {negative : Bool} {digits : List Char}
    {fraction : Option (List Char)} {power : Option Int} {item : Item}
    (h : decimalOf? negative digits fraction power = some item) : item.isValue = true := by
  unfold decimalOf? at h
  split at h
  · dsimp only at h
    split at h <;> split at h <;> cases h <;> rfl
  · dsimp only at h
    split at h <;> cases h
    rfl

theorem isValue_of_special? {cs rest : List Char} {item : Item}
    (h : special? cs = some (item, rest)) : item.isValue = true := by
  obtain ⟨read, -, same⟩ := Option.map_eq_some_iff.1 h
  cases same
  rfl

theorem isValue_of_decimal? {negative : Bool} {cs rest : List Char} {item : Item}
    (h : decimal? negative cs = some (item, rest)) : item.isValue = true := by
  simp only [decimal?, Option.bind_eq_bind, Option.bind_eq_some_iff] at h
  obtain ⟨digits, -, fraction, -, power, -, read, made, same⟩ := h
  cases same
  exact isValue_of_decimalOf? made

theorem isValue_of_number? {cs rest : List Char} {item : Item}
    (h : number? cs = some (item, rest)) : item.isValue = true := by
  have signed {negative : Bool} {cs : List Char}
      (h : (special? cs).or (decimal? negative cs) = some (item, rest)) : item.isValue = true := by
    rcases Option.or_eq_some_iff.1 h with h | ⟨-, h⟩
    · exact isValue_of_special? h
    · exact isValue_of_decimal? h
  unfold number? at h
  split at h
  · exact isValue_of_based? h
  · exact isValue_of_based? h
  · exact isValue_of_based? h
  · exact signed h
  · exact signed h
  · exact isValue_of_decimal? h

theorem isValue_of_scalar? {cs rest : List Char} {item : Item}
    (h : scalar? cs = some (item, rest)) : item.isValue = true := by
  have mapped {α : Type} {f : α → Item × List Char} {x : Option α}
      (value : ∀ a, (f a).1.isValue = true) (h : x.map f = some (item, rest)) :
      item.isValue = true := by
    obtain ⟨a, -, same⟩ := Option.map_eq_some_iff.1 h
    have := value a
    rwa [same] at this
  cases cs with
  | nil => cases h
  | cons c cs =>
    rw [scalar?] at h
    split at h
    · exact mapped (fun _ => rfl) h
    split at h
    · exact mapped (fun _ => rfl) h
    split at h
    · exact mapped (fun _ => rfl) h
    rcases Option.or_eq_some_iff.1 h with h | ⟨-, h⟩
    · exact isValue_of_special? h
    · unfold numeric? at h
      split at h
      · cases h
        rfl
      · exact isValue_of_number? h

theorem isValue_of_value? {depth : Nat} {cs rest : List Char} {item : Item}
    (h : value? depth cs = some (item, rest)) : item.isValue = true := by
  cases depth with
  | zero => exact isValue_of_scalar? h
  | succ depth =>
    unfold value? at h
    split at h
    · exact isValue_of_items? h
    · rcases inlineTable?_eq_some.1 h with ⟨-, rfl⟩ | ⟨-, inner⟩
      · rfl
      · exact isValue_of_members? inner
    · exact isValue_of_scalar? h

/-! ### Keys without quotes -/

/-- A key that needs no quotes. -/
structure IsBare (label : List Char) : Prop where
  some : label ≠ []
  plain : ∀ c ∈ label, isKeyChar c = true

section

variable {label : List Char} {depth : Nat}

theorem simpleKey?_bare (bare : IsBare label) {t : List Char}
    (ht : ∀ c ∈ t.head?, isKeyChar c = false) :
    simpleKey? (label ++ t) = some (String.ofList label, t) := by
  have taken : t.takeWhile isKeyChar = [] ∧ t.dropWhile isKeyChar = t := by
    cases t with
    | nil => exact ⟨rfl, rfl⟩
    | cons c t => simp [ht c rfl]
  have first {c : Char} (hc : isKeyChar c = false) (rest : List Char) : label ++ t ≠ c :: rest := by
    obtain ⟨d, more, rfl⟩ := List.exists_cons_of_ne_nil bare.some
    intro same
    rw [← (List.cons.inj same).1, bare.plain d List.mem_cons_self] at hc
    cases hc
  rw [simpleKey?, List.takeWhile_append_of_pos bare.plain, List.dropWhile_append_of_pos bare.plain,
    taken.1, taken.2, List.append_nil]
  · exact if_neg (by simpa using bare.some)
  · exact first (by decide)
  · exact first (by decide)

theorem skipSpaces_bare (bare : IsBare label) (t : List Char) :
    skipSpaces (label ++ t) = label ++ t := by
  obtain ⟨c, more, rfl⟩ := List.exists_cons_of_ne_nil bare.some
  have noSpace : ¬ isSpace c = true := fun space => by
    have plain := bare.plain c List.mem_cons_self
    rcases (by simpa [isSpace] using space : c = ' ' ∨ c = '\t') with rfl | rfl <;>
      exact absurd plain (by decide)
  rw [List.cons_append, skipSpaces, List.dropWhile_cons_of_neg noSpace]

theorem key?_bare (bare : IsBare label) (depth : Nat) :
    key? (depth + 1) label = some ([], String.ofList label, []) := by
  have read := simpleKey?_bare bare (t := []) nofun
  have spaced := skipSpaces_bare bare []
  rw [List.append_nil] at read spaced
  rw [key?, spaced, read]
  rfl

theorem key?_bare_dot (bare : IsBare label) {cs : List Char} {way : List String} {name : String}
    (h : key? depth cs = some (way, name, [])) :
    key? (depth + 1) (label ++ '.' :: cs) = some (String.ofList label :: way, name, []) := by
  have read := simpleKey?_bare bare (t := '.' :: cs) (by simpa using by decide)
  rw [key?, skipSpaces_bare bare, read]
  dsimp only
  rw [skipSpaces, List.dropWhile_cons_of_neg (by decide)]
  show (key? depth cs).map _ = _
  rw [h, Option.map_some]

end

/-! ### Entries of the table -/

namespace Entry

variable {depth : Nat} {label : List Char}

/-- The entry where there is more room. -/
def lift (e : Entry depth) : Entry (depth + 1) where
  key := e.key
  value := e.value
  way := e.way
  name := e.name
  item := e.item
  key_read := by simpa using key?_append (t := []) nofun (Nat.le_succ depth) e.key_read
  value_read := by
    obtain ⟨rest, read, spaces⟩ := e.value_read
    refine ⟨rest, ?_, spaces⟩
    simpa using value?_append (t := []) nofun (Nat.le_succ depth) read

/-- The entry with the name of its table in front of the key. -/
def dotted (bare : IsBare label) (e : Entry depth) : Entry (depth + 1) where
  key := label ++ '.' :: e.key
  value := e.value
  way := String.ofList label :: e.way
  name := e.name
  item := e.item
  key_read := key?_bare_dot bare e.key_read
  value_read := e.lift.value_read

theorem isValue_item (e : Entry depth) : e.item.isValue = true := by
  obtain ⟨rest, read, -⟩ := e.value_read
  exact isValue_of_value? read

end Entry

/-- Entries in braces. -/
def bracedText {depth : Nat} : List (Entry depth) → List Char
  | [] => ['\x7b', '\x7d']
  | e :: es => '\x7b' :: (e.text ++ (es.flatMap (fun e => ',' :: e.text) ++ ['\x7d']))

/-- Enters entries into a table. -/
def enter? {depth : Nat} (es : List (Entry depth)) (ms : Members) : Option Members :=
  es.foldlM (fun ms e => Members.addDotted? e.name e.item e.way ms) ms

theorem enter?_cons {depth : Nat} (e : Entry depth) (es : List (Entry depth)) (ms : Members) :
    enter? (e :: es) ms = (Members.addDotted? e.name e.item e.way ms).bind (enter? es) :=
  List.foldlM_cons

/-- Enters entries into a table in braces. -/
def enterInline? {depth : Nat} (es : List (Entry depth)) (ms : Members) : Option Members :=
  es.foldlM (fun ms e => Members.addInline? e.name e.item e.way ms) ms

theorem enterInline?_cons {depth : Nat} (e : Entry depth) (es : List (Entry depth)) (ms : Members) :
    enterInline? (e :: es) ms =
      (Members.addInline? e.name e.item e.way ms).bind (enterInline? es) :=
  List.foldlM_cons

section

variable {depth : Nat} {fuel : Nat} {ms : Members}

theorem members?_text (e : Entry depth) (le : depth ≤ maxDepth) {t rest : List Char} {item : Item}
    (ht : Delimited t) : members? (value? depth) (fuel + 1) ms (e.text ++ t) = some (item, rest) ↔
      ∃ ms', ms.addInline? e.name e.item e.way = some ms' ∧
        ((∃ more, t = ',' :: more ∧ members? (value? depth) fuel ms' more = some (item, rest)) ∨
          t = '\x7d' :: rest ∧ item = .inline false ms') := by
  obtain ⟨after, read, spaces⟩ := e.exists_value?_text ht (Nat.le_refl depth)
  rw [members?_eq_some]
  constructor
  · rintro ⟨way, key, behind, x, after', ms', found, read', added, next⟩
    rw [e.key?_text le] at found
    cases found
    cases read.symm.trans read'
    rw [spaces] at next
    exact ⟨ms', added, next⟩
  · rintro ⟨ms', added, next⟩
    rw [← spaces] at next
    exact ⟨e.way, e.name, e.value ++ t, e.item, after, ms', e.key?_text le t, read, added, next⟩

theorem members?_close (e : Entry depth) (le : depth ≤ maxDepth) (more : List Char) :
    members? (value? depth) (fuel + 1) ms (e.text ++ '\x7d' :: more) =
      (ms.addInline? e.name e.item e.way).map fun ms => (.inline false ms, more) := by
  refine Option.ext fun read => ?_
  obtain ⟨item, rest⟩ := read
  rw [members?_text e le (delimited_cons.2 rfl), Option.map_eq_some_iff]
  constructor
  · rintro ⟨ms', added, ⟨more', comma, -⟩ | ⟨same, rfl⟩⟩
    · cases comma
    · cases same
      exact ⟨ms', added, rfl⟩
  · rintro ⟨ms', added, same⟩
    cases same
    exact ⟨ms', added, .inr ⟨rfl, rfl⟩⟩

theorem members?_comma (e : Entry depth) (le : depth ≤ maxDepth) (more : List Char) :
    members? (value? depth) (fuel + 1) ms (e.text ++ ',' :: more) =
      (ms.addInline? e.name e.item e.way).bind fun ms => members? (value? depth) fuel ms more := by
  refine Option.ext fun read => ?_
  obtain ⟨item, rest⟩ := read
  rw [members?_text e le (delimited_cons.2 rfl), Option.bind_eq_some_iff]
  constructor
  · rintro ⟨ms', added, ⟨more', same, inner⟩ | ⟨closed, -⟩⟩
    · cases same
      exact ⟨ms', added, inner⟩
    · cases closed
  · rintro ⟨ms', added, inner⟩
    exact ⟨ms', added, .inl ⟨more, rfl, inner⟩⟩

/-- Members in braces are entered one after the other. -/
theorem members?_entries (e : Entry depth) (es : List (Entry depth)) (le : depth ≤ maxDepth)
    (enough : es.length < fuel) (more : List Char) :
    members? (value? depth) fuel ms
        (e.text ++ (es.flatMap (fun e => ',' :: e.text) ++ '\x7d' :: more)) =
      (enterInline? (e :: es) ms).map fun ms => (.inline false ms, more) := by
  induction es generalizing e fuel ms with
  | nil =>
    obtain ⟨fuel, rfl⟩ := Nat.exists_eq_succ_of_ne_zero (by omega : fuel ≠ 0)
    rw [List.flatMap_nil, List.nil_append, members?_close e le, enterInline?_cons]
    exact congrArg _ (Option.bind_fun_some _).symm
  | cons next es ih =>
    obtain ⟨fuel, rfl⟩ := Nat.exists_eq_succ_of_ne_zero (by omega : fuel ≠ 0)
    rw [List.flatMap_cons, List.cons_append, List.cons_append, List.append_assoc,
      members?_comma e le, enterInline?_cons, Option.map_bind]
    exact congrArg _ (funext fun ms => ih next (by simpa using enough))

theorem members?_skipSpaces (value : List Char → Option (Item × List Char)) (cs : List Char) :
    members? value fuel ms (skipSpaces cs) = members? value fuel ms cs := by
  cases fuel with
  | zero => rfl
  | succ fuel => rw [members?, key?_skipSpaces, members?]

theorem length_lt_skipSpaces_text (e : Entry depth) (t : List Char) :
    t.length < (skipSpaces (e.text ++ t)).length := by
  rw [Entry.text, List.append_assoc, List.cons_append, skipSpaces_append (delimited_cons.2 rfl)]
  simp
  omega

theorem length_le_flatMap_text (es : List (Entry depth)) :
    es.length ≤ (es.flatMap fun e => ',' :: e.text).length := by
  induction es with
  | nil => exact Nat.le_refl 0
  | cons e es ih =>
    rw [List.flatMap_cons, List.length_append, List.length_cons, List.length_cons]
    omega

/-- A table in braces has the members that its entries make. -/
theorem value?_bracedText (es : List (Entry depth)) (le : depth ≤ maxDepth) (more : List Char) :
    value? (depth + 1) (bracedText es ++ more) =
      (enterInline? es []).map fun ms => (.inline false ms, more) := by
  cases es with
  | nil => rfl
  | cons e es =>
    have written : bracedText (e :: es) ++ more =
        '\x7b' :: (e.text ++ (es.flatMap (fun e => ',' :: e.text) ++ '\x7d' :: more)) := by
      simp [bracedText]
    have enough : es.length < (skipSpaces (e.text ++
        (es.flatMap (fun e => ',' :: e.text) ++ '\x7d' :: more))).length + 1 := by
      have := length_lt_skipSpaces_text e (es.flatMap (fun e => ',' :: e.text) ++ '\x7d' :: more)
      have := length_le_flatMap_text es
      rw [List.length_append] at *
      omega
    obtain ⟨c, behind, key, spaced, first⟩ := exists_simpleKey?_of_key?
      (e.key?_text le (es.flatMap (fun e => ',' :: e.text) ++ '\x7d' :: more))
    rw [written, value?, inlineTable?]
    split
    · next closed =>
      rw [spaced] at closed
      exact absurd (List.cons.inj closed).1
        (ne_of_simpleKey? first (by decide) (by decide) (by decide))
    · rw [members?_skipSpaces, members?_entries e es le enough]

/-- The same entries are accepted inside braces, and make the same table. -/
theorem enterInline?_bracedAll (es : List (Entry depth)) {ms : Members}
    (written : areWritten ms = true) :
    enterInline? es (bracedAll ms) = (enter? es ms).map bracedAll := by
  induction es generalizing ms with
  | nil => rfl
  | cons e es ih =>
    rw [enterInline?_cons, enter?_cons, addInline?_bracedAll e.isValue_item e.way written]
    cases added : ms.addDotted? e.name e.item e.way with
    | none => rfl
    | some ms' => exact ih (areWritten_of_addDotted? e.isValue_item written added)

end

/-! ### The table in a document -/

/-- Entries that fit into a table in the root table. -/
abbrev TableEntry := Entry (maxDepth - 1)

namespace TableEntry

variable {label : List Char} (e : TableEntry) (here : List String) (root : Members)

/-- The entry as a line below the header of the table. -/
def line : Line := .entry (Entry.lift e)

/-- The entry as a line with the name of the table in front of the key. -/
def dottedLine (bare : IsBare label) : Line := .entry (Entry.dotted bare e)

theorem enter?_line :
    (line e).enter? here root = root.changeAt? (Members.addDotted? e.name e.item e.way) here :=
  rfl

theorem enter?_dottedLine (bare : IsBare label) : (dottedLine e bare).enter? [] root =
    Members.addDotted? e.name e.item (String.ofList label :: e.way) root :=
  rfl

end TableEntry

section

variable {label : List Char}

theorem changeAt?_set (f : Members → Option Members) (implicit dotted : Bool)
    (root ms : Members) (name : String) :
    (root.set name (.table implicit dotted ms)).changeAt? f [name] =
      (f ms).map fun ms => root.set name (.table implicit dotted ms) := by
  simp only [Members.changeAt?, Members.lookup_set, if_true, Members.set_set]

theorem enterLines?_line (es : List TableEntry) (root ms : Members) (name : String) :
    enterLines? [name] (es.map TableEntry.line) (root.set name (.table false false ms)) =
      (enter? es ms).map fun ms => root.set name (.table false false ms) := by
  induction es generalizing ms with
  | nil => rfl
  | cons e es ih =>
    rw [List.map_cons, enterLines?_cons, enter?_cons, TableEntry.enter?_line, changeAt?_set,
      Option.bind_map, Option.map_bind]
    exact congrArg _ (funext fun ms => ih ms)

theorem addDotted?_set (key : String) (item : Item) (way : List String) (root ms : Members)
    (name : String) :
    (root.set name (.table true true ms)).addDotted? key item (name :: way) =
      (ms.addDotted? key item way).map fun ms => root.set name (.table true true ms) := by
  simp [Members.addDotted?, Members.lookup_set, Members.set_set]

theorem enterLines?_dottedLine (bare : IsBare label) (es : List TableEntry) (root ms : Members) :
    enterLines? [] (es.map (TableEntry.dottedLine · bare))
        (root.set (String.ofList label) (.table true true ms)) =
      (enter? es ms).map fun ms => root.set (String.ofList label) (.table true true ms) := by
  induction es generalizing ms with
  | nil => rfl
  | cons e es ih =>
    rw [List.map_cons, enterLines?_cons, enter?_cons, TableEntry.enter?_dottedLine, addDotted?_set,
      Option.bind_map, Option.map_bind]
    exact congrArg _ (funext fun ms => ih ms)

/-- The first of the entries makes the table. -/
theorem enterLines?_dottedLine_cons (bare : IsBare label) (e : TableEntry) (es : List TableEntry)
    {root : Members} (absent : root.lookup (String.ofList label) = none) :
    enterLines? [] ((e :: es).map (TableEntry.dottedLine · bare)) root =
      (enter? (e :: es) []).map fun ms => root.set (String.ofList label) (.table true true ms) := by
  rw [List.map_cons, enterLines?_cons, enter?_cons, TableEntry.enter?_dottedLine]
  simp only [Members.addDotted?, absent, ← Members.set_of_lookup_eq_none absent]
  rw [Option.bind_map, Option.map_bind]
  exact congrArg _ (funext fun ms => enterLines?_dottedLine bare es root ms)

/-- The header of the table. -/
def headingOf (bare : IsBare label) : Heading :=
  ⟨false, label, [], String.ofList label, key?_bare bare (maxDepth - 1)⟩

theorem enter?_section (bare : IsBare label) (es : List TableEntry) {root : Members}
    (absent : root.lookup (String.ofList label) = none) :
    (Section.mk (headingOf bare) (es.map TableEntry.line)).enter? root =
      (enter? es []).map fun ms => root.set (String.ofList label) (.table false false ms) := by
  have opened : (headingOf bare).open? root =
      some (root.set (String.ofList label) (.table false false [])) := by
    rw [Members.set_of_lookup_eq_none absent]
    show Members.openTable? (String.ofList label) root = _
    rw [Members.openTable?, absent]
  rw [Section.enter?, opened, Option.bind_some]
  exact enterLines?_line es root [] _

end

/-! ### Lines that concern other keys -/

/-- The line has nothing to do with a key of the root table. -/
def Line.IsOutside (name : String) : Line → Prop
  | .blank .. => True
  | .entry e => topKey e.way e.name ≠ name

/-- The section has nothing to do with a key of the root table. -/
def Section.IsOutside (name : String) (s : Section) : Prop :=
  topKey s.heading.way s.heading.name ≠ name

section

variable {name : String}

theorem avoids_changeAt? (f : Members → Option Members) {way : List String} {k : String}
    (ne : topKey way k ≠ name) : Avoids name (Members.changeAt? f (way ++ [k])) := by
  cases way with
  | nil => exact (local_changeAt? f k []).avoids ne
  | cons first way => exact (local_changeAt? f first (way ++ [k])).avoids ne

theorem Line.IsOutside.avoids {l : Line} (h : l.IsOutside name) :
    Avoids name fun root => l.enter? [] root := by
  cases l with
  | blank => exact avoids_some name
  | entry e => exact (local_addDotted? e.name e.item e.way).avoids h

theorem avoids_open? {h : Heading} (ne : topKey h.way h.name ≠ name) : Avoids name h.open? := by
  have opens {f : Members → Option Members} (hf : Local h.name f) :
      Avoids name (Members.changeAt? f h.way) := by
    cases way : h.way with
    | nil =>
      rw [way] at ne
      exact hf.avoids ne
    | cons first rest =>
      rw [way] at ne
      exact (local_changeAt? f first rest).avoids ne
  intro item item' ms ms' alike
  rw [Heading.open?, Heading.open?]
  split
  · exact opens (local_openArray? h.name) alike
  · exact opens (local_openTable? h.name) alike

theorem Section.IsOutside.avoids {s : Section} (h : s.IsOutside name) : Avoids name s.enter? := by
  have line (l : Line) : Avoids name fun root => l.enter? s.heading.here root := by
    cases l with
    | blank => exact avoids_some name
    | entry e => exact avoids_changeAt? _ h
  exact (avoids_open? h).bind (avoids_foldlM fun l _ => line l)

/-- Lines that concern other keys do not make a member. -/
theorem lookup_enterLines? {ls : List Line} (h : ∀ l ∈ ls, l.IsOutside name) {root : Members}
    (entered : enterLines? [] ls [] = some root) : root.lookup name = none := by
  have alike : AlikeBut name none none [] [] := ⟨fun _ _ => rfl, rfl, rfl⟩
  have outside : Avoids name (enterLines? [] ls) := avoids_foldlM fun l hl => (h l hl).avoids
  have := outside alike
  rw [entered] at this
  cases this with
  | some same => exact same.left

end

/-! ### Documents with the table -/

/-- The ways to write a table. -/
inductive TableStyle where
  | header
  | inline
  | dotted

/-- The item that a table of entries is read as, if there is any. -/
def TableStyle.item? : TableStyle → List TableEntry → Members → Option Item
  | .header, _, ms => some (.table false false ms)
  | .inline, _, ms => some (.inline false (bracedAll ms))
  | .dotted, [], _ => none
  | .dotted, _ :: _, ms => some (.table true true ms)

/-- The text of a document with a table between other lines and sections. -/
def TableStyle.document {label : List Char} (bare : IsBare label) (front : List Line)
    (es : List TableEntry) (back : List Section) : TableStyle → List Char
  | .header => linesText front ++
      (⟨headingOf bare, es.map TableEntry.line⟩ :: back).flatMap Section.text
  | .inline => linesText front ++
      ((label ++ '=' :: bracedText es) ++ '\n' :: back.flatMap Section.text)
  | .dotted => linesText front ++ (linesText (es.map (TableEntry.dottedLine · bare)) ++
      back.flatMap Section.text)

section

variable {label : List Char}

/-- The members of a root table with the table put into it. -/
def withTable (label : List Char) (item : Option Item) (root : Members) : Members :=
  item.elim root (root.set (String.ofList label))

/-- A line with the table in braces is read if its entries fit together. -/
theorem pair?_inline (bare : IsBare label) (es : List TableEntry) (more : List Char) :
    pair? ((label ++ '=' :: bracedText es) ++ '\n' :: more) = (enter? es []).map fun ms =>
      ([], String.ofList label, .inline false (bracedAll ms), more) := by
  have key : key? maxDepth ((label ++ '=' :: bracedText es) ++ '\n' :: more) =
      some ([], String.ofList label, '=' :: (bracedText es ++ '\n' :: more)) := by
    rw [List.append_assoc, List.cons_append]
    exact key?_append (delimited_cons.2 rfl) (Nat.le_refl _) (key?_bare bare (maxDepth - 1))
  have value : value? maxDepth (bracedText es ++ '\n' :: more) =
      (enter? es []).map fun ms => (.inline false (bracedAll ms), '\n' :: more) := by
    have entered : enterInline? es [] = (enter? es []).map bracedAll :=
      @enterInline?_bracedAll _ es [] rfl
    have := value?_bracedText es (by decide) ('\n' :: more)
    rw [entered, Option.map_map] at this
    exact this
  have spaced : skipSpaces (bracedText es ++ '\n' :: more) = bracedText es ++ '\n' :: more := by
    cases es <;> exact List.dropWhile_cons_of_neg (by decide)
  rw [pair?, key]
  simp only [spaced, value]
  cases enter? es [] <;> rfl

theorem reads_inline (bare : IsBare label) (es : List TableEntry) {root : Members}
    (absent : root.lookup (String.ofList label) = none) {more : List Char}
    {f : Members → Option Members} (next : ∀ root, Reads [] root more (f root)) :
    Reads [] root ((label ++ '=' :: bracedText es) ++ '\n' :: more)
      ((enter? es []).bind fun ms => f (withTable label (TableStyle.inline.item? es ms) root)) := by
  have read := pair?_inline bare es more
  cases entered : enter? es [] with
  | none =>
    -- the value cannot be read, though the key can
    rw [entered, Option.map_none] at read
    intro fuel enough
    obtain ⟨fuel, rfl⟩ := Nat.exists_eq_succ_of_ne_zero (by omega : fuel ≠ 0)
    have key := key?_append (t := '=' :: bracedText es ++ '\n' :: more) (delimited_cons.2 rfl)
      (Nat.le_refl _) (key?_bare bare (maxDepth - 1))
    rw [← List.append_assoc] at key
    rw [lines?_of_key? key, read]
    rfl
  | some ms =>
    rw [entered, Option.map_some] at read
    have added : root.changeAt? (Members.addDotted? (String.ofList label)
        (.inline false (bracedAll ms)) []) [] =
        some (withTable label (TableStyle.inline.item? es ms) root) := by
      show root.add? _ _ = some (root.set _ _)
      rw [Members.add?, absent, Members.set_of_lookup_eq_none absent]
      rfl
    have : Reads [] root ((label ++ '=' :: bracedText es) ++ '\n' :: more)
        ((root.changeAt? (Members.addDotted? (String.ofList label)
          (.inline false (bracedAll ms)) []) []).bind f) :=
      reads_of_pair? read (by simp; omega) fun root' _ => next root'
    rwa [added] at this

/-- The three documents are read alike, but for the kind of the table. -/
theorem reads_document (bare : IsBare label) {front : List Line} (es : List TableEntry)
    (back : List Section) (outside : ∀ l ∈ front, l.IsOutside (String.ofList label))
    (s : TableStyle) :
    Reads [] [] (s.document bare front es back)
      ((enterLines? [] front []).bind fun root => (enter? es []).bind fun ms =>
        enterSections? back (withTable label (s.item? es ms) root)) := by
  cases s with
  | header =>
    refine reads_lines front fun root entered => ?_
    have absent := lookup_enterLines? outside entered
    have written := enterSections?_cons ⟨headingOf bare, es.map TableEntry.line⟩ back root
    rw [enter?_section bare es absent, Option.bind_map] at written
    exact written ▸ reads_sections _
  | inline =>
    exact reads_lines front fun root entered => reads_inline bare es
      (lookup_enterLines? outside entered) fun root => reads_sections back
  | dotted =>
    refine reads_lines front fun root entered => ?_
    have absent := lookup_enterLines? outside entered
    have entered : Reads [] root
        (linesText (es.map (TableEntry.dottedLine · bare)) ++ back.flatMap Section.text)
        ((enterLines? [] (es.map (TableEntry.dottedLine · bare)) root).bind
          (enterSections? back)) := reads_lines _ fun root' _ => reads_sections back
    cases es with
    | nil => exact entered
    | cons e es =>
      rw [enterLines?_dottedLine_cons bare e es absent, Option.bind_map] at entered
      exact entered

theorem head?_document (bare : IsBare label) (front : List Line) (es : List TableEntry)
    (back : List Section) (s : TableStyle) :
    (s.document bare front es back).head? ≠ some '\ufeff' := by
  cases s with
  | header => exact head?_lines_text (head?_sections_text _)
  | inline =>
    refine head?_lines_text fun marked => ?_
    obtain ⟨c, more, rfl⟩ := List.exists_cons_of_ne_nil bare.some
    obtain rfl : c = '\ufeff' := by simpa using marked
    exact absurd (bare.plain _ List.mem_cons_self) (by decide)
  | dotted => exact head?_lines_text (head?_lines_text (head?_sections_text back))

theorem lookup_withTable {root : Members} (absent : root.lookup (String.ofList label) = none)
    (item : Option Item) (k : String) :
    (withTable label item root).lookup k =
      if k = String.ofList label then item else root.lookup k := by
  cases item with
  | none =>
    show root.lookup k = _
    split
    · next same => rw [same, absent]
    · rfl
  | some item => exact Members.lookup_set root (String.ofList label) item k

theorem alikeBut_withTable {root : Members} (absent : root.lookup (String.ofList label) = none)
    (item item' : Option Item) : AlikeBut (String.ofList label) item item'
      (withTable label item root) (withTable label item' root) where
  others k hk := by rw [lookup_withTable absent, lookup_withTable absent, if_neg hk, if_neg hk]
  left := by rw [lookup_withTable absent, if_pos rfl]
  right := by rw [lookup_withTable absent, if_pos rfl]

/-- The three documents are accepted or not alike, and are read with the same members in the table
and beside it. -/
theorem rel_parse?_document (bare : IsBare label) {front : List Line} (es : List TableEntry)
    {back : List Section} (before : ∀ l ∈ front, l.IsOutside (String.ofList label))
    (behind : ∀ s ∈ back, s.IsOutside (String.ofList label)) (s s' : TableStyle) :
    ∃ ms, (es = [] → ms = []) ∧
      Option.Rel (AlikeBut (String.ofList label) (s.item? es ms) (s'.item? es ms))
      (parse? (String.ofList (s.document bare front es back)))
      (parse? (String.ofList (s'.document bare front es back))) := by
  rw [parse?_of_reads (head?_document bare front es back s) (reads_document bare es back before s),
    parse?_of_reads (head?_document bare front es back s') (reads_document bare es back before s')]
  cases entered : enterLines? [] front [] with
  | none => exact ⟨[], fun _ => rfl, .none⟩
  | some root =>
    have absent := lookup_enterLines? before entered
    cases made : enter? es [] with
    | none => exact ⟨[], fun _ => rfl, .none⟩
    | some ms =>
      have outside : Avoids (String.ofList label) (enterSections? back) :=
        avoids_foldlM fun s hs => (behind s hs).avoids
      refine ⟨ms, ?_, outside (alikeBut_withTable absent _ _)⟩
      rintro rfl
      exact (Option.some.inj made).symm

end

end CallContext.Toml
