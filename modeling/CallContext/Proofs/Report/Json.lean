import CallContext.Proofs.Report.Grammar
import CallContext.Report.Json
import Mathlib.Data.List.Basic
import Mathlib.Data.List.TakeWhile
import Mathlib.Tactic.SplitIfs

/-!
# What is written is JSON

The text of a value can be read as the value again, whether it is written on one line or on several
(`Json.isText_compact`, `Json.isText_pretty`).  Every character of a string is read as it was
written, and nothing stands behind a number that could belong to it.
-/

namespace CallContext

open Value

namespace Json

mutual

/-- The value that is written. -/
def value : Json → Value
  | bool b => .bool b
  | num n => .num n
  | str s => .str s
  | arr items => .arr (values items)
  | obj members => .obj (namedValues members)

def values : List Json → List Value
  | [] => []
  | v :: vs => value v :: values vs

def namedValues : List (String × Json) → List (String × Value)
  | [] => []
  | (key, v) :: more => (key, value v) :: namedValues more

end

@[simp] theorem value_str (s : String) : (str s).value = .str s := by rw [value]

@[simp] theorem value_bool (b : Bool) : (bool b).value = .bool b := by rw [value]

@[simp] theorem value_num (n : Nat) : (num n).value = .num n := by rw [value]

theorem values_eq_map (vs : List Json) : values vs = vs.map value := by
  induction vs with
  | nil => rfl
  | cons v vs ih => rw [values, ih, List.map_cons]

theorem namedValues_eq_map (members : List (String × Json)) :
    namedValues members = members.map fun m => (m.1, m.2.value) := by
  induction members with
  | nil => rfl
  | cons m more ih =>
    obtain ⟨key, v⟩ := m
    rw [namedValues, ih, List.map_cons]

/-! ### Characters and strings -/

theorem hex?_hexDigit {n : Nat} (h : n < 16) : hex? (hexDigit n) = some n := by
  have all : ∀ n < 16, hex? (hexDigit n) = some n := by decide
  exact all n h

theorem char?_toNat (c : Char) : char? c.toNat = some c := by
  have valid : c.toNat.isValidChar := c.valid
  rw [char?, if_pos valid, Char.ofNat_toNat]

theorem readUnit?_control {n : Nat} (h : n < 32) (rest : List Char) :
    readUnit? ('0' :: '0' :: hexDigit (n / 16) :: hexDigit (n % 16) :: rest) = some (n, rest) := by
  have zero : hex? '0' = some 0 := rfl
  have sum : ((0 * 16 + 0) * 16 + n / 16) * 16 + n % 16 = n := by omega
  rw [readUnit?, zero, hex?_hexDigit (by omega), hex?_hexDigit (by omega)]
  exact congrArg (fun n => some (n, rest)) sum

/-- A control character is read from its code. -/
theorem readEscape?_control {c : Char} (h : c.toNat < 32) (rest : List Char) :
    readEscape? ('u' :: '0' :: '0' :: hexDigit (c.toNat / 16) :: hexDigit (c.toNat % 16) :: rest) =
      some (c, rest) := by
  rw [readEscape?, if_pos rfl, readUnit?_control h, Option.bind_eq_bind, Option.bind_some]
  dsimp only
  rw [if_neg (by omega), char?_toNat]
  rfl

/-- A character is read as it was written. -/
theorem readChar?_writeChar (c : Char) (rest : List Char) :
    readChar? (writeChar c rest) = some (c, rest) := by
  have code {n : Nat} (h : c.toNat = n) : c = Char.ofNat n := by rw [← h, Char.ofNat_toNat]
  unfold writeChar
  split_ifs with quote backslash control feed tab carriage eight twelve
  · rw [quote]; rfl
  · rw [backslash]; rfl
  · rw [feed]; rfl
  · rw [tab]; rfl
  · rw [carriage]; rfl
  · rw [code eight]; rfl
  · rw [code twelve]; rfl
  · -- a control character without a letter of its own
    rw [readChar?, if_neg (by decide), if_pos rfl, readEscape?_control control]
  · rw [readChar?, if_neg quote, if_neg backslash, if_neg control]

theorem spells_writeChars (cs rest : List Char) :
    Spells cs (cs.foldr writeChar ('"' :: rest)) rest := by
  induction cs with
  | nil => exact .stop
  | cons c cs ih => exact .char (readChar?_writeChar c _) ih

/-! ### Numbers -/

/-- Nothing that could belong to a number before it stands at the start of a text. -/
def Bounds (rest : List Char) : Prop := rest.head?.any isNumeric = false

theorem bounds_nil : Bounds [] := rfl

theorem isNumeric_of_mem_toDigits {n : Nat} {c : Char} (h : c ∈ Nat.toDigits 10 n) :
    isNumeric c = true := by
  simp [isNumeric, Nat.isDigit_of_mem_toDigits (by decide) (by decide) h]

/-- Only the number zero starts with a zero. -/
theorem toDigits_of_head?_eq_zero {n : Nat} (h : (Nat.toDigits 10 n).head? = some '0') :
    Nat.toDigits 10 n = ['0'] := by
  induction n using Nat.strongRecOn with
  | ind n ih =>
    by_cases small : n < 10
    · rw [Nat.toDigits_of_lt_base small] at h ⊢
      rw [Option.some.inj h]
    · -- the digits before the last one would make zero
      rw [Nat.toDigits_of_base_le (by decide) (Nat.not_lt.1 small),
        List.head?_append_of_ne_nil _ Nat.toDigits_ne_nil] at h
      have zero : Nat.ofDigitChars 10 (Nat.toDigits 10 (n / 10)) 0 = 0 := by
        rw [ih (n / 10) (by omega) h]
        rfl
      rw [Nat.ofDigitChars_toDigits (by decide) (by decide)] at zero
      omega

theorem whole?_toDigits (n : Nat) : whole? (Nat.toDigits 10 n) = some n := by
  have digits : (Nat.toDigits 10 n).all Char.isDigit = true := by
    rw [List.all_eq_true]
    exact fun c hc => Nat.isDigit_of_mem_toDigits (by decide) (by decide) hc
  rw [whole?, if_neg (fun h => h.2 (toDigits_of_head?_eq_zero h.1)), digits?,
    if_pos ⟨Nat.toDigits_ne_nil, digits⟩, Nat.ofDigitChars_toDigits (by decide) (by decide)]

theorem cut_toDigits (mark : Char → Bool) (n : Nat)
    (h : ∀ c, c.isDigit = true → mark c = false) :
    cut mark (Nat.toDigits 10 n) = (Nat.toDigits 10 n, none) := by
  have unmarked : ∀ c ∈ Nat.toDigits 10 n, (!mark c) = true := by
    intro c hc
    rw [h c (Nat.isDigit_of_mem_toDigits (by decide) (by decide) hc)]
    rfl
  rw [cut, List.takeWhile_eq_self_iff.2 unmarked, List.dropWhile_eq_nil_iff.2 unmarked]
  rfl

theorem number?_toDigits (n : Nat) : number? (Nat.toDigits 10 n) = some (n : Rat) := by
  have other {c : Char} (h : c.isDigit = true) {mark : Char} (hm : mark.isDigit = false) :
      c ≠ mark := by
    rintro rfl
    simp [h] at hm
  have letterless := cut_toDigits (fun c => c = 'e' || c = 'E') n fun c hc => by simp [other hc]
  have pointless := cut_toDigits (· = '.') n fun c hc => by simp [other hc]
  have unsigned : unsigned? (Nat.toDigits 10 n) = some (mkRat n 1) := by
    simp [unsigned?, letterless, pointless, whole?_toDigits, fraction?, exponent?]
  rw [number?, unsigned, Rat.mkRat_one]
  · rfl
  · intro cs text
    have digit : Char.isDigit '-' = true := by
      refine Nat.isDigit_of_mem_toDigits (by decide : 0 < 10) (by decide) (n := n) ?_
      rw [text]
      exact List.mem_cons_self
    cases digit

theorem readNumber?_writeNumber (n : Nat) {rest : List Char} (h : Bounds rest) :
    readNumber? (writeNumber n rest) = some ((n : Rat), rest) := by
  have numeric : ∀ c ∈ Nat.toDigits 10 n, isNumeric c = true :=
    fun c hc => isNumeric_of_mem_toDigits hc
  have stop : rest.takeWhile isNumeric = [] ∧ rest.dropWhile isNumeric = rest := by
    cases rest with
    | nil => exact ⟨rfl, rfl⟩
    | cons c rest =>
      have other : ¬ isNumeric c = true := Bool.eq_false_iff.1 h
      exact ⟨List.takeWhile_cons_of_neg other, List.dropWhile_cons_of_neg other⟩
  rw [readNumber?, writeNumber, List.takeWhile_append_of_pos numeric,
    List.dropWhile_append_of_pos numeric, stop.1, stop.2, List.append_nil, number?_toDigits,
    Option.map_some]

/-! ### On one line -/

theorem readsKey_writeString (key : String) (rest : List Char) :
    ReadsKey key (writeString key (':' :: rest)) rest :=
  ⟨_, _, rfl, spells_writeChars key.toList _, rfl⟩

mutual

theorem reads_write : ∀ (v : Json) {rest : List Char}, Bounds rest →
    Reads (.value v.value) (v.write rest) rest
  | bool true, _, _ => .isTrue
  | bool false, _, _ => .isFalse
  | num n, _, h => .num (readNumber?_writeNumber n h)
  | str s, _, _ => .str (spells_writeChars s.toList _)
  | arr [], _, _ => .emptyArr rfl
  | arr (v :: vs), rest, _ => by
    obtain ⟨more, text, bounds, others⟩ := reads_writeItems v vs rest
    have first := reads_write v bounds
    rw [write, text]
    exact .arr first.skipped others
  | obj [], _, _ => .emptyObj rfl
  | obj ((key, v) :: ms), rest, _ => by
    obtain ⟨more, text, bounds, others⟩ := reads_writeMembers key v ms rest
    have first := reads_write v bounds
    rw [write, text]
    exact .obj (readsKey_writeString key _) first.skipped others

theorem reads_writeItems : ∀ (v : Json) (vs : List Json) (rest : List Char),
    ∃ more, writeItems (v :: vs) (']' :: rest) = v.write more ∧ Bounds more ∧
      Reads (.items (values vs)) more rest
  | _, [], rest => ⟨']' :: rest, rfl, rfl, .endItems rfl⟩
  | v, w :: vs, rest => by
    obtain ⟨more, text, bounds, others⟩ := reads_writeItems w vs rest
    have first := reads_write w bounds
    refine ⟨',' :: writeItems (w :: vs) (']' :: rest), rfl, rfl, ?_⟩
    rw [text]
    exact .item rfl first.skipped others

theorem reads_writeMembers : ∀ (key : String) (v : Json) (ms : List (String × Json))
    (rest : List Char),
    ∃ more, writeMembers ((key, v) :: ms) ('\x7d' :: rest) = writeString key (':' :: v.write more) ∧
      Bounds more ∧ Reads (.members (namedValues ms)) more rest
  | _, _, [], rest => ⟨'\x7d' :: rest, rfl, rfl, .endMembers rfl⟩
  | key, v, (key', w) :: ms, rest => by
    obtain ⟨more, text, bounds, others⟩ := reads_writeMembers key' w ms rest
    have first := reads_write w bounds
    refine ⟨',' :: writeMembers ((key', w) :: ms) ('\x7d' :: rest), rfl, rfl, ?_⟩
    rw [text]
    exact .member rfl (readsKey_writeString key' _) first.skipped others

end

/-! ### On several lines -/

theorem skip_newLine (depth : Nat) (rest : List Char) : skip (newLine depth rest) = skip rest := by
  have blank : ∀ c ∈ List.replicate (2 * depth) ' ', isSpace c = true := by
    intro c hc
    rw [List.eq_of_mem_replicate hc]
    rfl
  rw [newLine, skip, List.dropWhile_cons_of_pos rfl, List.dropWhile_append_of_pos blank]
  rfl

theorem bounds_writePrettyItems (depth : Nat) (vs : List Json) {text : List Char}
    (h : Bounds text) : Bounds (writePrettyItems depth vs text) := by
  cases vs with
  | nil => exact h
  | cons v vs => rfl

theorem bounds_writePrettyMembers (depth : Nat) (ms : List (String × Json)) {text : List Char}
    (h : Bounds text) : Bounds (writePrettyMembers depth ms text) := by
  cases ms with
  | nil => exact h
  | cons m ms => rfl

theorem bounds_newLine (depth : Nat) (rest : List Char) : Bounds (newLine depth rest) := rfl

/-- A value on a line of its own. -/
theorem reads_newLine {v : Value} {text rest : List Char} (h : Reads (.value v) text rest)
    (depth : Nat) : Reads (.value v) (skip (newLine depth text)) rest := by
  rw [skip_newLine]
  exact h.skipped

/-- A key on a line of its own. -/
theorem readsKey_newLine (depth : Nat) (key : String) (rest : List Char) :
    ReadsKey key (newLine depth (writeString key (':' :: rest))) rest := by
  obtain ⟨inner, more, quote, spelled, colon⟩ := readsKey_writeString key rest
  exact ⟨inner, more, (skip_newLine depth _).trans quote, spelled, colon⟩

mutual

theorem reads_writePretty : ∀ (depth : Nat) (v : Json) {rest : List Char}, Bounds rest →
    Reads (.value v.value) (v.writePretty depth rest) rest
  | _, bool true, _, _ => .isTrue
  | _, bool false, _, _ => .isFalse
  | _, num n, _, h => .num (readNumber?_writeNumber n h)
  | _, str s, _, _ => .str (spells_writeChars s.toList _)
  | _, arr [], _, _ => .emptyArr rfl
  | depth, arr (v :: vs), rest, _ => by
    have first := reads_writePretty (depth + 1) v
      (bounds_writePrettyItems (depth + 1) vs (bounds_newLine depth (']' :: rest)))
    exact .arr (reads_newLine first (depth + 1))
      (reads_writePrettyItems (depth + 1) vs (bounds_newLine depth (']' :: rest))
        (skip_newLine depth (']' :: rest)))
  | _, obj [], _, _ => .emptyObj rfl
  | depth, obj ((key, v) :: ms), rest, _ => by
    have first := reads_writePretty (depth + 1) v
      (bounds_writePrettyMembers (depth + 1) ms (bounds_newLine depth ('\x7d' :: rest)))
    exact .obj (readsKey_newLine (depth + 1) key _) first.skipped
      (reads_writePrettyMembers (depth + 1) ms (bounds_newLine depth ('\x7d' :: rest))
        (skip_newLine depth ('\x7d' :: rest)))

theorem reads_writePrettyItems : ∀ (depth : Nat) (vs : List Json) {text rest : List Char},
    Bounds text → skip text = ']' :: rest →
      Reads (.items (values vs)) (writePrettyItems depth vs text) rest
  | _, [], _, _, _, h => .endItems h
  | depth, v :: vs, _, _, bounds, h => by
    have first := reads_writePretty depth v (bounds_writePrettyItems depth vs bounds)
    exact .item rfl (reads_newLine first depth) (reads_writePrettyItems depth vs bounds h)

theorem reads_writePrettyMembers : ∀ (depth : Nat) (ms : List (String × Json))
    {text rest : List Char}, Bounds text → skip text = '\x7d' :: rest →
      Reads (.members (namedValues ms)) (writePrettyMembers depth ms text) rest
  | _, [], _, _, _, h => .endMembers h
  | depth, (key, v) :: ms, _, _, bounds, h => by
    have first := reads_writePretty depth v (bounds_writePrettyMembers depth ms bounds)
    exact .member rfl (readsKey_newLine depth key _) first.skipped
      (reads_writePrettyMembers depth ms bounds h)

end

/-- The text on one line is JSON. -/
theorem isText_compact (v : Json) : v.value.IsText v.compact := by
  refine ⟨[], ?_, rfl⟩
  rw [compact, String.toList_ofList]
  exact (reads_write v bounds_nil).skipped

/-- The text on several lines is JSON, and has the same value. -/
theorem isText_pretty (v : Json) : v.value.IsText v.pretty := by
  refine ⟨[], ?_, rfl⟩
  rw [pretty, String.toList_ofList]
  exact (reads_writePretty 0 v bounds_nil).skipped

end Json

end CallContext
