import CallContext.Proofs.Toml.Reading
import Mathlib.Data.List.DropRight

/-!
# Documents as they are written

A document consists of lines, and of sections of lines under headers.  Reading it enters its
lines and opens the tables of its headers one after the other.

* `reads_lines`, `reads_sections` : what reading the lines and sections gives,
* `parse?_of_reads` : reading them gives the document.
-/

namespace CallContext.Toml

/-! ### Keys -/

/-- Keys do not begin with these characters. -/
theorem simpleKey?_eq_none {c : Char} (hq : c ≠ '"') (hq' : c ≠ '\'') (hc : isKeyChar c = false)
    (cs : List Char) : simpleKey? (c :: cs) = none := by
  rw [simpleKey?]
  · simp [hc]
  · simpa using hq
  · simpa using hq'

theorem skipSpaces_skipSpaces (cs : List Char) : skipSpaces (skipSpaces cs) = skipSpaces cs :=
  List.dropWhile_idempotent ..

theorem key?_skipSpaces (fuel : Nat) (cs : List Char) :
    key? fuel (skipSpaces cs) = key? fuel cs := by
  cases fuel with
  | zero => rfl
  | succ fuel => rw [key?, skipSpaces_skipSpaces, key?]

theorem exists_simpleKey?_of_key? {fuel : Nat} {cs : List Char}
    {read : List String × String × List Char} (h : key? fuel cs = some read) :
    ∃ c more key, skipSpaces cs = c :: more ∧ simpleKey? (c :: more) = some key := by
  cases fuel with
  | zero => cases h
  | succ fuel =>
    rw [key?] at h
    cases first : simpleKey? (skipSpaces cs) with
    | none =>
      rw [first] at h
      cases h
    | some key =>
      cases spaced : skipSpaces cs with
      | nil =>
        rw [spaced] at first
        cases first
      | cons c more => exact ⟨c, more, key, rfl, spaced ▸ first⟩

theorem ne_of_simpleKey? {c d : Char} {cs : List Char} {key : String × List Char}
    (h : simpleKey? (c :: cs) = some key) (hq : d ≠ '"') (hq' : d ≠ '\'')
    (hd : isKeyChar d = false) : c ≠ d := by
  rintro rfl
  rw [simpleKey?_eq_none hq hq' hd] at h
  cases h

/-! ### Entries -/

/-- A key with its value as they are written, with room for `depth` parts of the key and values
nested as deeply. -/
structure Entry (depth : Nat) where
  key : List Char
  value : List Char
  way : List String
  name : String
  item : Item
  key_read : key? depth key = some (way, name, [])
  value_read : ∃ rest, value? depth (skipSpaces value) = some (item, rest) ∧ skipSpaces rest = []

namespace Entry

variable {depth depth' : Nat} (e : Entry depth) {t : List Char}

def text : List Char := e.key ++ '=' :: e.value

theorem key?_text (le : depth ≤ depth') (t : List Char) :
    key? depth' (e.text ++ t) = some (e.way, e.name, '=' :: (e.value ++ t)) := by
  rw [text, List.append_assoc, List.cons_append]
  exact key?_append (delimited_cons.2 rfl) le e.key_read

theorem exists_value?_text (ht : Delimited t) (le : depth ≤ depth') :
    ∃ rest, value? depth' (skipSpaces (e.value ++ t)) = some (e.item, rest) ∧
      skipSpaces rest = t := by
  obtain ⟨rest, read, spaces⟩ := e.value_read
  refine ⟨rest ++ t, ?_, ?_⟩
  · rw [skipSpaces_append ht]
    exact value?_append ht le read
  · rw [skipSpaces_append ht, spaces, List.nil_append]

theorem pair?_text (e : Entry maxDepth) (more : List Char) :
    pair? (e.text ++ '\n' :: more) = some (e.way, e.name, e.item, more) := by
  obtain ⟨rest, read, spaces⟩ := e.exists_value?_text (t := '\n' :: more) (delimited_cons.2 rfl)
    (Nat.le_refl _)
  rw [pair?, e.key?_text (Nat.le_refl _)]
  simp only [read, endLine?, spaces]
  rfl

end Entry

/-! ### Lines and sections -/

/-- A line: an entry, or nothing but a comment. -/
inductive Line where
  | blank (text : List Char) (empty : skipComment (skipSpaces text) = [])
  | entry (e : Entry maxDepth)

namespace Line

def text : Line → List Char
  | blank text _ => text
  | entry e => e.text

/-- Enters the line into the table at a way. -/
def enter? (here : List String) (root : Members) : Line → Option Members
  | blank .. => some root
  | entry e => root.changeAt? (Members.addDotted? e.name e.item e.way) here

end Line

/-- Lines below each other. -/
def linesText (ls : List Line) : List Char := ls.flatMap fun l => l.text ++ ['\n']

/-- A header as it is written. -/
structure Heading where
  isArray : Bool
  key : List Char
  way : List String
  name : String
  key_read : key? maxDepth key = some (way, name, [])

namespace Heading

def text (h : Heading) : List Char :=
  if h.isArray then '[' :: '[' :: (h.key ++ [']', ']']) else '[' :: (h.key ++ [']'])

/-- The way to the table of the header. -/
def here (h : Heading) : List String := h.way ++ [h.name]

def open? (h : Heading) (root : Members) : Option Members :=
  if h.isArray then root.changeAt? (Members.openArray? h.name) h.way
  else root.changeAt? (Members.openTable? h.name) h.way

theorem header?_text (h : Heading) (more : List Char) :
    header? (h.text ++ '\n' :: more) = some (h.isArray, h.way, h.name, more) := by
  have read (t : List Char) : key? maxDepth (h.key ++ ']' :: t) = some (h.way, h.name, ']' :: t) :=
    key?_append (delimited_cons.2 rfl) (Nat.le_refl _) h.key_read
  cases array : h.isArray with
  | true =>
    have written :
        h.text ++ '\n' :: more = '[' :: '[' :: (h.key ++ ']' :: ']' :: '\n' :: more) := by
      simp [text, array]
    rw [written, header?, read]
    rfl
  | false =>
    have written : h.text ++ '\n' :: more = '[' :: (h.key ++ ']' :: '\n' :: more) := by
      simp [text, array]
    rw [written, header?, read]
    · rfl
    · -- the key would begin with a bracket
      intro rest same
      obtain ⟨c, behind, key, spaced, first⟩ := exists_simpleKey?_of_key? (read ('\n' :: more))
      rw [same, skipSpaces, List.dropWhile_cons_of_neg (by decide)] at spaced
      obtain ⟨rfl, -⟩ := List.cons.inj spaced
      exact ne_of_simpleKey? first (by decide) (by decide) (by decide) rfl

end Heading

/-- A header with the lines below it. -/
structure Section where
  heading : Heading
  lines : List Line

def Section.text (s : Section) : List Char := s.heading.text ++ '\n' :: linesText s.lines

/-- Enters lines into the table at a way. -/
def enterLines? (here : List String) (ls : List Line) (root : Members) : Option Members :=
  ls.foldlM (fun root l => l.enter? here root) root

theorem enterLines?_cons (here : List String) (l : Line) (ls : List Line) (root : Members) :
    enterLines? here (l :: ls) root = (l.enter? here root).bind (enterLines? here ls) :=
  List.foldlM_cons

/-- Opens the table of the header and enters the lines into it. -/
def Section.enter? (s : Section) (root : Members) : Option Members :=
  (s.heading.open? root).bind (enterLines? s.heading.here s.lines)

/-! ### Reading -/

/-- The rest of a document is read with this result. -/
def Reads (here : List String) (root : Members) (cs : List Char) (result : Option Members) : Prop :=
  ∀ fuel, cs.length < fuel → lines? fuel here root cs = result

variable {here : List String} {root : Members} {more : List Char}
  {f : Members → Option Members}

theorem reads_nil : Reads here root [] (some root) := by
  intro fuel enough
  obtain ⟨fuel, rfl⟩ := Nat.exists_eq_succ_of_ne_zero (by omega : fuel ≠ 0)
  rfl

/-- A line that begins with a key is read as an entry. -/
theorem lines?_of_key? {cs : List Char} {found : List String × String × List Char}
    (read : key? maxDepth cs = some found) (fuel : Nat) :
    lines? (fuel + 1) here root cs = (pair? cs).bind fun e =>
      (root.changeAt? (Members.addDotted? e.2.1 e.2.2.1 e.1) here).bind fun root =>
        lines? fuel here root e.2.2.2 := by
  have same : pair? (skipSpaces cs) = pair? cs := by rw [pair?, key?_skipSpaces, pair?]
  obtain ⟨c, behind, first, spaced, begins⟩ := exists_simpleKey?_of_key? read
  have noKey {d : Char} (hq : d ≠ '"') (hq' : d ≠ '\'') (hd : isKeyChar d = false) : c ≠ d :=
    ne_of_simpleKey? begins hq hq' hd
  have noMark : ¬ (c = '#' || c = '\n' || c = '\r') = true := by
    simp [noKey (d := '#') (by decide) (by decide) (by decide),
      noKey (d := '\n') (by decide) (by decide) (by decide),
      noKey (d := '\r') (by decide) (by decide) (by decide)]
  rw [spaced] at same
  rw [lines?, spaced]
  split
  · next found => cases found
  · next found => exact absurd (List.cons.inj found).1 (noKey (by decide) (by decide) (by decide))
  · next found =>
    obtain ⟨rfl, rfl⟩ := List.cons.inj found
    rw [if_neg noMark, same]
    cases pair? cs with
    | none => rfl
    | some e =>
      dsimp only [Option.bind_some]
      cases root.changeAt? (Members.addDotted? e.2.1 e.2.2.1 e.1) here <;> rfl

theorem reads_of_pair? {cs : List Char} {e : List String × String × Item × List Char}
    (read : pair? cs = some e) (shorter : e.2.2.2.length < cs.length)
    (next : ∀ root', root.changeAt? (Members.addDotted? e.2.1 e.2.2.1 e.1) here = some root' →
      Reads here root' e.2.2.2 (f root')) :
    Reads here root cs ((root.changeAt? (Members.addDotted? e.2.1 e.2.2.1 e.1) here).bind f) := by
  intro fuel enough
  obtain ⟨fuel, rfl⟩ := Nat.exists_eq_succ_of_ne_zero (by omega : fuel ≠ 0)
  cases key : key? maxDepth cs with
  | none =>
    rw [pair?, key] at read
    cases read
  | some found =>
    rw [lines?_of_key? key, read, Option.bind_some]
    cases entered : root.changeAt? (Members.addDotted? e.2.1 e.2.2.1 e.1) here with
    | none => rfl
    | some root' => exact next root' entered fuel (by omega)

/-- A line that is empty but for a comment. -/
theorem exists_endLine?_of_blank {text : List Char} (empty : skipComment (skipSpaces text) = [])
    (more : List Char) : ∃ c cs, skipSpaces (text ++ '\n' :: more) = c :: cs ∧
      (c = '#' ∨ c = '\n') ∧ endLine? (c :: cs) = some more := by
  rw [skipSpaces_append (delimited_cons.2 rfl)]
  cases spaced : skipSpaces text with
  | nil => exact ⟨'\n', more, rfl, .inr rfl, rfl⟩
  | cons c cs =>
    rw [spaced] at empty
    by_cases mark : c = '#'
    · subst mark
      rw [skipComment] at empty
      have ended : (cs ++ '\n' :: more).dropWhile isPlain = '\n' :: more := by
        rw [List.dropWhile_append, if_pos (by rw [empty]; rfl),
          List.dropWhile_cons_of_neg (by decide)]
      refine ⟨'#', cs ++ '\n' :: more, rfl, .inl rfl, ?_⟩
      rw [endLine?, skipSpaces, List.dropWhile_cons_of_neg (by decide), skipComment, ended]
      rfl
    · rw [skipComment] at empty
      · cases empty
      · simpa using mark

theorem reads_line (l : Line)
    (next : ∀ root', l.enter? here root = some root' → Reads here root' more (f root')) :
    Reads here root (l.text ++ '\n' :: more) ((l.enter? here root).bind f) := by
  cases l with
  | entry e => exact reads_of_pair? (e.pair?_text more) (by simp; omega) next
  | blank text empty =>
    intro fuel enough
    obtain ⟨fuel, rfl⟩ := Nat.exists_eq_succ_of_ne_zero (by omega : fuel ≠ 0)
    obtain ⟨c, cs, spaced, begins, ended⟩ := exists_endLine?_of_blank empty more
    have enough' : more.length < fuel := by
      simp [Line.text] at enough
      omega
    rw [Line.text, lines?, spaced]
    split
    · next found => cases found
    · next found =>
      rw [(List.cons.inj found).1] at begins
      simp at begins
    · next found =>
      obtain ⟨rfl, rfl⟩ := List.cons.inj found
      have mark : (c = '#' || c = '\n' || c = '\r') = true := by simp [begins]
      rw [if_pos mark, ended]
      exact next root rfl fuel enough'

theorem reads_lines (ls : List Line)
    (next : ∀ root', enterLines? here ls root = some root' → Reads here root' more (f root')) :
    Reads here root (linesText ls ++ more) ((enterLines? here ls root).bind f) := by
  induction ls generalizing root with
  | nil => exact next root rfl
  | cons l ls ih =>
    rw [linesText, List.flatMap_cons, List.append_assoc, List.append_assoc, List.singleton_append,
      enterLines?_cons, Option.bind_assoc]
    refine reads_line l fun root' entered => ih fun root'' entered' => next root'' ?_
    rw [enterLines?_cons, entered, Option.bind_some, entered']

theorem reads_heading (h : Heading) (next : ∀ root', Reads h.here root' more (f root')) :
    Reads here root (h.text ++ '\n' :: more) ((h.open? root).bind f) := by
  intro fuel enough
  obtain ⟨fuel, rfl⟩ := Nat.exists_eq_succ_of_ne_zero (by omega : fuel ≠ 0)
  have read := h.header?_text more
  obtain ⟨rest, begins⟩ : ∃ rest, h.text ++ '\n' :: more = '[' :: rest := by
    rw [Heading.text]
    split <;> exact ⟨_, rfl⟩
  have enough' : more.length < fuel := by
    simp at enough
    omega
  rw [begins] at read ⊢
  rw [lines?, skipSpaces, List.dropWhile_cons_of_neg (by decide)]
  split
  · next found => cases found
  · next found =>
    rw [← found, read]
    dsimp only
    rw [← Heading.open?]
    cases h.open? root with
    | none => rfl
    | some root => exact next root fuel enough'
  · next noBracket found => exact (noBracket (List.cons.inj found).1.symm).elim

/-- Enters sections one after the other. -/
def enterSections? (ss : List Section) (root : Members) : Option Members :=
  ss.foldlM (fun root s => s.enter? root) root

theorem enterSections?_cons (s : Section) (ss : List Section) (root : Members) :
    enterSections? (s :: ss) root = (s.enter? root).bind (enterSections? ss) :=
  List.foldlM_cons

theorem reads_sections (ss : List Section) :
    Reads here root (ss.flatMap Section.text) (enterSections? ss root) := by
  induction ss generalizing here root with
  | nil => exact reads_nil
  | cons s ss ih =>
    rw [List.flatMap_cons, Section.text, List.append_assoc, List.cons_append, enterSections?_cons,
      Section.enter?, Option.bind_assoc]
    exact reads_heading s.heading fun root => reads_lines s.lines fun root' _ => ih

/-! ### The beginning of a document -/

/-- No line begins with a byte order mark. -/
theorem head?_entry_text {depth : Nat} (e : Entry depth) (t : List Char) :
    (e.text ++ t).head? ≠ some '\ufeff' := by
  intro marked
  obtain ⟨rest, begins⟩ := List.head?_eq_some_iff.1 marked
  obtain ⟨c, behind, key, spaced, first⟩ :=
    exists_simpleKey?_of_key? (e.key?_text (Nat.le_refl _) t)
  rw [begins, skipSpaces, List.dropWhile_cons_of_neg (by decide)] at spaced
  obtain ⟨rfl, -⟩ := List.cons.inj spaced
  exact ne_of_simpleKey? first (by decide) (by decide) (by decide) rfl

theorem head?_line_text (l : Line) (t : List Char) :
    (l.text ++ '\n' :: t).head? ≠ some '\ufeff' := by
  cases l with
  | entry e => exact head?_entry_text e _
  | blank text empty =>
    cases text with
    | nil => simp [Line.text]
    | cons c text =>
      intro marked
      obtain rfl : c = '\ufeff' := by simpa [Line.text] using marked
      rw [skipSpaces, List.dropWhile_cons_of_neg (by decide), skipComment] at empty
      · cases empty
      · intro rest same
        exact absurd (List.cons.inj same).1 (by decide)

theorem head?_lines_text {ls : List Line} {t : List Char} (ht : t.head? ≠ some '\ufeff') :
    (linesText ls ++ t).head? ≠ some '\ufeff' := by
  cases ls with
  | nil => exact ht
  | cons l ls =>
    rw [linesText, List.flatMap_cons, List.append_assoc, List.append_assoc]
    exact head?_line_text l _

theorem head?_sections_text (ss : List Section) :
    (ss.flatMap Section.text).head? ≠ some '\ufeff' := by
  cases ss with
  | nil => exact nofun
  | cons s ss =>
    rw [List.flatMap_cons, Section.text, Heading.text]
    split <;> simp

theorem parse?_of_reads {cs : List Char} {result : Option Members}
    (begins : cs.head? ≠ some '\ufeff') (h : Reads [] [] cs result) :
    parse? (String.ofList cs) = result := by
  rw [parse?, String.toList_ofList]
  split
  · exact absurd rfl begins
  · exact h _ (Nat.lt_succ_self _)

end CallContext.Toml
