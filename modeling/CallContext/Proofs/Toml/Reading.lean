import CallContext.Toml.Reader
import Mathlib.Data.List.TakeWhile
import Mathlib.Tactic.Common

/-!
# Reading up to a delimiter

What a reader of a part of a TOML document takes off does not depend on what stands behind a
delimiter.
-/

namespace CallContext.Toml

/-- Characters that end keys and values. -/
def isDelimiter (c : Char) : Bool :=
  c = '\n' || c = ',' || c = '=' || c = ']' || c = '\x7d'

/-- The text is empty or begins with a delimiter. -/
def Delimited (t : List Char) : Prop := ∀ c ∈ t.head?, isDelimiter c = true

theorem delimited_cons {c : Char} {cs : List Char} :
    Delimited (c :: cs) ↔ isDelimiter c = true := by
  simp [Delimited]

theorem isDelimiter_iff {c : Char} :
    isDelimiter c = true ↔ c = '\n' ∨ c = ',' ∨ c = '=' ∨ c = ']' ∨ c = '\x7d' := by
  simp [isDelimiter, or_assoc]

/-- What a reader gives with more text behind. -/
def followedBy {α : Type} (t : List Char) (read : α × List Char) : α × List Char :=
  (read.1, read.2 ++ t)

section

variable {t : List Char}

/-! ### Runs of characters -/

/-- A run of characters ends at a delimiter that is none of them. -/
theorem dropWhile_append_delimited {p : Char → Bool} (ht : Delimited t)
    (hp : ∀ c, isDelimiter c = true → p c = false) (cs : List Char) :
    (cs ++ t).dropWhile p = cs.dropWhile p ++ t := by
  induction cs with
  | nil =>
    cases t with
    | nil => rfl
    | cons c t => simp [hp c (delimited_cons.1 ht)]
  | cons c cs ih => by_cases hc : p c = true <;> simp [hc, ih]

theorem takeWhile_append_delimited {p : Char → Bool} (ht : Delimited t)
    (hp : ∀ c, isDelimiter c = true → p c = false) (cs : List Char) :
    (cs ++ t).takeWhile p = cs.takeWhile p := by
  induction cs with
  | nil =>
    cases t with
    | nil => rfl
    | cons c t => simp [hp c (delimited_cons.1 ht)]
  | cons c cs ih => by_cases hc : p c = true <;> simp [hc, ih]

/-- A character that is no delimiter stands in front of the delimiter. -/
theorem exists_of_append_eq_cons {c : Char} {cs more : List Char} (ht : Delimited t)
    (hc : isDelimiter c = false) (h : cs ++ t = c :: more) :
    ∃ rest, cs = c :: rest ∧ more = rest ++ t := by
  cases cs with
  | nil =>
    rw [List.nil_append] at h
    rw [h, delimited_cons, hc] at ht
    cases ht
  | cons d cs =>
    obtain ⟨rfl, rfl⟩ := List.cons.inj h
    exact ⟨cs, rfl, rfl⟩

theorem isSpace_of_isDelimiter (c : Char) (h : isDelimiter c = true) : isSpace c = false := by
  rcases isDelimiter_iff.1 h with rfl | rfl | rfl | rfl | rfl <;> rfl

theorem isKeyChar_of_isDelimiter (c : Char) (h : isDelimiter c = true) : isKeyChar c = false := by
  rcases isDelimiter_iff.1 h with rfl | rfl | rfl | rfl | rfl <;> decide

theorem isDigit_of_isDelimiter (c : Char) (h : isDelimiter c = true) : c.isDigit = false := by
  rcases isDelimiter_iff.1 h with rfl | rfl | rfl | rfl | rfl <;> decide

theorem skipSpaces_append (ht : Delimited t) (cs : List Char) :
    skipSpaces (cs ++ t) = skipSpaces cs ++ t :=
  dropWhile_append_delimited ht isSpace_of_isDelimiter cs

/-! ### Dates -/

theorem digits?_append (ht : Delimited t) (size low high : Nat) (cs : List Char) :
    digits? size low high (cs ++ t) = (digits? size low high cs).map (followedBy t) := by
  by_cases enough : size ≤ cs.length
  · have taken : (cs ++ t).take size = cs.take size := List.take_append_of_le_length enough
    unfold digits?
    simp only [taken, List.drop_append_of_le_length enough]
    split <;> rfl
  · have short : digits? size low high cs = none := by
      have : min size cs.length ≠ size := by omega
      simp [digits?, this]
    rw [short]
    cases t with
    | nil => rw [List.append_nil, short]; rfl
    | cons d more =>
      -- the delimiter would have to be one of the digits
      have among : d ∈ (cs ++ d :: more).take size := by
        rw [List.take_append, List.mem_append]
        obtain ⟨n, hn⟩ : ∃ n, size - cs.length = n + 1 := ⟨size - cs.length - 1, by omega⟩
        right
        rw [hn, List.take_succ_cons]
        exact List.mem_cons_self
      have : ((cs ++ d :: more).take size).all Char.isDigit = false := by
        rw [List.all_eq_false]
        exact ⟨d, among, by simp [isDigit_of_isDelimiter d (delimited_cons.1 ht)]⟩
      simp [digits?, this]

theorem char?_append {c : Char} (ht : Delimited t) (hc : isDelimiter c = false) (cs : List Char) :
    char? c (cs ++ t) = (char? c cs).map (· ++ t) := by
  cases cs with
  | nil =>
    cases t with
    | nil => rfl
    | cons d t =>
      have : d ≠ c := fun same => by
        rw [← same, delimited_cons.1 ht] at hc
        cases hc
      simp [char?, this]
  | cons d cs => by_cases same : d = c <;> simp [char?, same]

/-- What is read behind a number of some digits. -/
theorem digits?_bind_append (ht : Delimited t) {size low high : Nat}
    {next : Nat × List Char → Option (List Char)}
    (h : ∀ n cs, next (n, cs ++ t) = (next (n, cs)).map (· ++ t)) (cs : List Char) :
    (digits? size low high (cs ++ t) >>= next) =
      (digits? size low high cs >>= next).map (· ++ t) := by
  rw [digits?_append ht]
  cases digits? size low high cs with
  | none => rfl
  | some read => exact h read.1 read.2

/-- What is read behind a character. -/
theorem char?_bind_append {c : Char} (ht : Delimited t) (hc : isDelimiter c = false)
    {next : List Char → Option (List Char)}
    (h : ∀ cs, next (cs ++ t) = (next cs).map (· ++ t)) (cs : List Char) :
    (char? c (cs ++ t) >>= next) = (char? c cs >>= next).map (· ++ t) := by
  rw [char?_append ht hc]
  cases char? c cs with
  | none => rfl
  | some rest => exact h rest

theorem date?_append (ht : Delimited t) (cs : List Char) :
    date? (cs ++ t) = (date? cs).map (· ++ t) := by
  refine digits?_bind_append ht (fun _ cs => ?_) cs
  refine char?_bind_append ht rfl (fun cs => ?_) cs
  refine digits?_bind_append ht (fun _ cs => ?_) cs
  refine char?_bind_append ht rfl (fun cs => ?_) cs
  exact digits?_bind_append ht (fun _ _ => rfl) cs

theorem skipFraction_of_ne {c : Char} (h : c ≠ '.') (cs : List Char) :
    skipFraction (c :: cs) = c :: cs := by
  simp [skipFraction, h]

theorem skipFraction_append (ht : Delimited t) (cs : List Char) :
    skipFraction (cs ++ t) = skipFraction cs ++ t := by
  cases cs with
  | nil =>
    cases t with
    | nil => rfl
    | cons d t =>
      refine skipFraction_of_ne (fun same => ?_) t
      rw [same] at ht
      cases delimited_cons.1 ht
  | cons c cs =>
    by_cases point : c = '.'
    · subst point
      cases cs with
      | nil =>
        cases t with
        | nil => rfl
        | cons d t =>
          have noDigit := isDigit_of_isDelimiter d (delimited_cons.1 ht)
          simp [skipFraction, noDigit]
      | cons d cs =>
        rw [List.cons_append, List.cons_append, skipFraction, skipFraction]
        split
        · exact dropWhile_append_delimited ht isDigit_of_isDelimiter cs
        · rfl
    · rw [List.cons_append, skipFraction_of_ne point, skipFraction_of_ne point, List.cons_append]

theorem time?_append (ht : Delimited t) (cs : List Char) :
    time? (cs ++ t) = (time? cs).map (· ++ t) := by
  refine digits?_bind_append ht (fun _ cs => ?_) cs
  refine char?_bind_append ht rfl (fun cs => ?_) cs
  refine digits?_bind_append ht (fun _ cs => ?_) cs
  refine char?_bind_append ht rfl (fun cs => ?_) cs
  refine digits?_bind_append ht (fun _ cs => ?_) cs
  exact congrArg some (skipFraction_append ht cs)

theorem offset?_append (ht : Delimited t) (cs : List Char) :
    offset? (cs ++ t) = (offset? cs).map (· ++ t) := by
  cases cs with
  | nil =>
    cases t with
    | nil => rfl
    | cons d t =>
      rcases isDelimiter_iff.1 (delimited_cons.1 ht) with rfl | rfl | rfl | rfl | rfl <;> rfl
  | cons c cs =>
    rw [List.cons_append, offset?, offset?]
    by_cases universal : (c = 'Z' || c = 'z') = true
    · rw [if_pos universal, if_pos universal, Option.map_some]
    · rw [if_neg universal, if_neg universal]
      split
      · refine digits?_bind_append ht (fun _ cs => ?_) cs
        refine char?_bind_append ht rfl (fun cs => ?_) cs
        exact digits?_bind_append ht (fun _ _ => rfl) cs
      · rfl

theorem datetime?_append (ht : Delimited t) (cs : List Char) :
    datetime? (cs ++ t) = (datetime? cs).map (· ++ t) := by
  rw [datetime?, datetime?, date?_append ht]
  cases date? cs with
  | none => exact time?_append ht cs
  | some rest =>
    cases rest with
    | nil =>
      cases t with
      | nil => rfl
      | cons d t =>
        rcases isDelimiter_iff.1 (delimited_cons.1 ht) with rfl | rfl | rfl | rfl | rfl <;> rfl
    | cons c more =>
      simp only [Option.map_some, List.cons_append, time?_append ht]
      split
      · cases time? more with
        | none => rfl
        | some after => exact offset?_append ht after
      · rfl

/-! ### Numbers -/

/-- Digits end at a delimiter. -/
theorem run?_of_delimited {isDigit : Char → Bool} (ht : Delimited t)
    (hd : ∀ c, isDelimiter c = true → isDigit c = false) (taken : List Char) :
    run? isDigit taken t = if taken.isEmpty then none else some (taken.reverse, t) := by
  cases t with
  | nil => rw [run?]
  | cons d t =>
    have delimiter := delimited_cons.1 ht
    have other : d ≠ '_' := fun same => by
      rw [same] at delimiter
      cases delimiter
    simp [run?, hd d delimiter]

theorem run?_append {isDigit : Char → Bool} (ht : Delimited t)
    (hd : ∀ c, isDelimiter c = true → isDigit c = false) (taken cs : List Char) :
    run? isDigit taken (cs ++ t) = (run? isDigit taken cs).map (followedBy t) := by
  fun_induction run? isDigit taken cs with
  | case1 _ _ d cs digit ih => simpa [run?, digit] using ih
  | case2 _ _ d cs noDigit => simp [run?, noDigit]
  | case3 taken cs none =>
    -- an underscore at the end, which a delimiter does not continue
    cases taken with
    | nil => simp [run?]
    | cons c taken =>
      cases cs with
      | cons d cs => exact (none c taken d cs rfl rfl).elim
      | nil =>
        cases t with
        | nil => rfl
        | cons d t => simp [run?, hd d (delimited_cons.1 ht)]
  | case4 taken c cs other digit ih => simpa [run?, digit, other] using ih
  | case5 taken c cs other noDigit empty => simp [run?, noDigit, empty]
  | case6 taken c cs other noDigit some => simp [run?, noDigit, some, followedBy]
  | case7 taken empty =>
    rw [List.nil_append, run?_of_delimited ht hd, if_pos empty, Option.map_none]
  | case8 taken some => rw [List.nil_append, run?_of_delimited ht hd, if_neg some]; rfl

theorem based?_append (ht : Delimited t) (base : Nat) (cs : List Char) :
    based? base (cs ++ t) = (based? base cs).map (followedBy t) := by
  have hd (c : Char) (h : isDelimiter c = true) : (hexValue? c).any (· < base) = false := by
    rcases isDelimiter_iff.1 h with rfl | rfl | rfl | rfl | rfl <;> rfl
  rw [based?, based?, run?_append ht hd]
  cases run? (fun c => (hexValue? c).any (· < base)) [] cs with
  | none => rfl
  | some read =>
    simp only [Option.map_some, followedBy]
    split <;> rfl

theorem whole?_append (ht : Delimited t) (cs : List Char) :
    whole? (cs ++ t) = (whole? cs).map (followedBy t) := by
  have runs := run?_append ht isDigit_of_isDelimiter [] cs
  cases cs with
  | nil =>
    cases t with
    | nil => rfl
    | cons d t =>
      have other : d ≠ '0' := fun same => by
        rw [same] at ht
        cases delimited_cons.1 ht
      simpa [whole?, other] using runs
  | cons c cs =>
    by_cases zero : c = '0'
    · simp [whole?, zero, followedBy]
    · simpa [whole?, zero] using runs

theorem head?_ne_of_delimited {c : Char} (ht : Delimited t) (hc : isDelimiter c = false) :
    t.head? ≠ some c := fun h => by
  rw [ht c h] at hc
  cases hc

theorem exponent?_append (ht : Delimited t) (cs : List Char) :
    exponent? (cs ++ t) = (exponent? cs).map (followedBy t) := by
  cases cs with
  | nil =>
    cases t with
    | nil => rfl
    | cons d t =>
      rcases isDelimiter_iff.1 (delimited_cons.1 ht) with rfl | rfl | rfl | rfl | rfl <;> rfl
  | cons e cs =>
    rw [List.cons_append, exponent?, exponent?]
    by_cases mark : (e = 'e' || e = 'E') = true
    · have signless :
          (if cs.head? = some '-' ∨ cs.head? = some '+' then (cs ++ t).tail else cs ++ t) =
            (if cs.head? = some '-' ∨ cs.head? = some '+' then cs.tail else cs) ++ t := by
        cases cs with
        | nil => rfl
        | cons c cs => split <;> rfl
      simp [mark, head?_ne_of_delimited ht (c := '-') rfl, head?_ne_of_delimited ht (c := '+') rfl,
        signless, run?_append ht isDigit_of_isDelimiter, Function.comp_def, followedBy]
    · rw [if_neg mark, if_neg mark]
      rfl

theorem fraction?_append (ht : Delimited t) (cs : List Char) :
    fraction? (cs ++ t) = (fraction? cs).map (followedBy t) := by
  cases cs with
  | nil =>
    cases t with
    | nil => rfl
    | cons d t =>
      rcases isDelimiter_iff.1 (delimited_cons.1 ht) with rfl | rfl | rfl | rfl | rfl <;> rfl
  | cons c cs =>
    by_cases point : c = '.'
    · simp [fraction?, point, run?_append ht isDigit_of_isDelimiter, Function.comp_def, followedBy]
    · simp [fraction?, point, followedBy]

theorem decimal?_append (ht : Delimited t) (negative : Bool) (cs : List Char) :
    decimal? negative (cs ++ t) = (decimal? negative cs).map (followedBy t) := by
  simp [decimal?, whole?_append ht, fraction?_append ht, exponent?_append ht, followedBy,
    Option.map_bind, Option.bind_map, Function.comp_def]

theorem isPrefixOf_append_delimited {word : List Char} (ht : Delimited t)
    (hw : ∀ c ∈ word, isDelimiter c = false) (cs : List Char) :
    word.isPrefixOf (cs ++ t) = word.isPrefixOf cs := by
  induction word generalizing cs with
  | nil => simp
  | cons w word ih =>
    rw [List.forall_mem_cons] at hw
    cases cs with
    | cons c cs => rw [List.cons_append, List.isPrefixOf, List.isPrefixOf, ih hw.2]
    | nil =>
      cases t with
      | nil => rfl
      | cons d t =>
        have : w ≠ d := fun same => by
          rw [same, delimited_cons.1 ht] at hw
          cases hw.1
        simp [List.isPrefixOf, this]

theorem word?_append {word : List Char} (ht : Delimited t)
    (hw : ∀ c ∈ word, isDelimiter c = false) (cs : List Char) :
    word? word (cs ++ t) = (word? word cs).map (· ++ t) := by
  rw [word?, word?, isPrefixOf_append_delimited ht hw]
  by_cases begins : word.isPrefixOf cs = true
  · have := (List.isPrefixOf_iff_prefix.1 begins).length_le
    rw [if_pos begins, if_pos begins, List.drop_append_of_le_length this, Option.map_some]
  · rw [if_neg begins, if_neg begins, Option.map_none]

theorem special?_append (ht : Delimited t) (cs : List Char) :
    special? (cs ++ t) = (special? cs).map (followedBy t) := by
  rw [special?, special?, word?_append ht (by simp [isDelimiter]),
    word?_append ht (by simp [isDelimiter]), ← Option.map_or, Option.map_map, Option.map_map]
  rfl

theorem signed?_append (ht : Delimited t) (negative : Bool) (cs : List Char) :
    (special? (cs ++ t)).or (decimal? negative (cs ++ t)) =
      ((special? cs).or (decimal? negative cs)).map (followedBy t) := by
  rw [special?_append ht, decimal?_append ht, Option.map_or]

theorem number?_append (ht : Delimited t) (cs : List Char) :
    number? (cs ++ t) = (number? cs).map (followedBy t) := by
  fun_cases number? cs with
  | case1 cs => exact based?_append ht 16 cs
  | case2 cs => exact based?_append ht 8 cs
  | case3 cs => exact based?_append ht 2 cs
  | case4 cs => exact signed?_append ht false cs
  | case5 cs => exact signed?_append ht true cs
  | case6 cs hex octal binary plus minus =>
    -- a delimiter does not complete a mark
    rw [← decimal?_append ht]
    have first {c : Char} {more : List Char} (hc : isDelimiter c = false)
        (h : cs ++ t = c :: more) : ∃ rest, cs = c :: rest ∧ more = rest ++ t :=
      exists_of_append_eq_cons ht hc h
    have second {c d : Char} {more : List Char} (hc : isDelimiter c = false)
        (hd : isDelimiter d = false) (h : cs ++ t = c :: d :: more) :
        ∃ rest, cs = c :: d :: rest := by
      obtain ⟨rest, rfl, same⟩ := first hc h
      obtain ⟨rest, rfl, -⟩ := exists_of_append_eq_cons ht hd same.symm
      exact ⟨rest, rfl⟩
    unfold number?
    split
    · next h => exact absurd (second rfl rfl h) (not_exists.2 hex)
    · next h => exact absurd (second rfl rfl h) (not_exists.2 octal)
    · next h => exact absurd (second rfl rfl h) (not_exists.2 binary)
    · next h =>
      obtain ⟨rest, same, -⟩ := first rfl h
      exact (plus rest same).elim
    · next h =>
      obtain ⟨rest, same, -⟩ := first rfl h
      exact (minus rest same).elim
    · rfl

theorem numeric?_append (ht : Delimited t) (cs : List Char) :
    numeric? (cs ++ t) = (numeric? cs).map (followedBy t) := by
  rw [numeric?, numeric?, datetime?_append ht]
  cases datetime? cs with
  | some rest => rfl
  | none => exact number?_append ht cs

/-! ### Strings -/

theorem length_of_hexChar? {digits : List Char} {size : Nat} {c : Char}
    (h : hexChar? digits size = some c) : digits.length = size := by
  unfold hexChar? at h
  split at h
  · next same => exact same
  · cases h

/-- The digits of an escape that has been read are all there. -/
theorem hexChar?_take_append {size : Nat} {cs : List Char} {c : Char}
    (h : hexChar? (cs.take size) size = some c) (t : List Char) :
    hexChar? ((cs ++ t).take size) size = some c := by
  have := length_of_hexChar? h
  rw [List.length_take] at this
  rwa [List.take_append_of_le_length (by omega)]

theorem escape?_append {cs : List Char} {e : Char} {size : Nat} (h : escape? cs = some (e, size))
    (t : List Char) : escape? (cs ++ t) = some (e, size) := by
  revert h
  fun_cases escape? cs with
  | case8 cs =>
    intro h
    obtain ⟨c, hex, same⟩ := Option.map_eq_some_iff.1 h
    rw [List.cons_append, escape?, hexChar?_take_append hex, Option.map_some, same]
  | case9 cs =>
    intro h
    obtain ⟨c, hex, same⟩ := Option.map_eq_some_iff.1 h
    rw [List.cons_append, escape?, hexChar?_take_append hex, Option.map_some, same]
  | case10 => exact nofun
  | _ => exact id

theorem basic?_append {skip : Nat} {taken cs rest : List Char} {s : String}
    (h : basic? skip taken cs = some (s, rest)) (t : List Char) :
    basic? skip taken (cs ++ t) = some (s, rest ++ t) := by
  fun_induction basic? skip taken cs with
  | case1 => cases h
  | case2 skip taken c cs ih => exact ih h
  | case3 taken cs =>
    cases h
    rfl
  | case4 taken cs e size escape _ ih =>
    rw [List.cons_append, basic?, if_neg (by decide), if_pos rfl]
    simp only [escape?_append escape]
    exact ih h
  | case5 => cases h
  | case6 taken c cs quote backslash plain ih =>
    rw [List.cons_append, basic?, if_neg quote, if_neg backslash, if_pos plain]
    exact ih h
  | case7 => cases h

theorem literal?_append {taken cs rest : List Char} {s : String}
    (h : literal? taken cs = some (s, rest)) (t : List Char) :
    literal? taken (cs ++ t) = some (s, rest ++ t) := by
  fun_induction literal? taken cs with
  | case1 => cases h
  | case2 taken cs =>
    cases h
    rfl
  | case3 taken c cs quote plain ih =>
    rw [List.cons_append, literal?, if_neg quote, if_pos plain]
    exact ih h
  | case4 => cases h

/-! ### Strings on several lines -/

theorem closing?_append {quote : Char} (ht : Delimited t) (hq : isDelimiter quote = false)
    (cs : List Char) : closing? quote (cs ++ t) = (closing? quote cs).map (followedBy t) := by
  have hd (c : Char) (h : isDelimiter c = true) : decide (c = quote) = false := by
    refine decide_eq_false fun same => ?_
    rw [← same, h] at hq
    cases hq
  have le : min 5 (cs.takeWhile (· = quote)).length ≤ cs.length :=
    (Nat.min_le_right _ _).trans (List.takeWhile_prefix _).length_le
  simp only [closing?, takeWhile_append_delimited ht hd, List.drop_append_of_le_length le]
  split <;> rfl

theorem skipLines_suffix (cs : List Char) : skipLines cs <:+ cs := by
  fun_induction skipLines cs with
  | case1 cs ih => exact ih.trans (List.suffix_cons ..)
  | case2 cs ih => exact ih.trans ((List.suffix_cons ..).trans (List.suffix_cons ..))
  | case3 c cs _ _ _ ih => exact ih.trans (List.suffix_cons ..)
  | case4 => exact List.suffix_refl _
  | case5 => exact List.suffix_refl _

theorem skipLines_cons {c : Char} {cs : List Char} (feed : c ≠ '\n')
    (return' : c = '\r' → cs.head? ≠ some '\n') :
    skipLines (c :: cs) = if isSpace c then skipLines cs else c :: cs := by
  rw [skipLines]
  · exact feed
  · rintro rest rfl rfl
    exact return' rfl rfl

/-- The text behind a character that does not end it is not looked at, but for a line feed behind a
carriage return. -/
theorem head?_append_ne {c d : Char} {cs : List Char} (h : c = '\r' → cs.head? ≠ some d)
    (whole : c :: cs ≠ ['\r']) (t : List Char) : c = '\r' → (cs ++ t).head? ≠ some d := by
  rintro rfl
  cases cs with
  | nil => exact absurd rfl whole
  | cons e cs => exact h rfl

/-- A carriage return at the end may belong to a line end that begins with it. -/
theorem skipLines_append {cs : List Char} (some : skipLines cs ≠ []) (whole : skipLines cs ≠ ['\r'])
    (t : List Char) : skipLines (cs ++ t) = skipLines cs ++ t := by
  fun_induction skipLines cs with
  | case1 cs ih => exact ih some whole
  | case2 cs ih => exact ih some whole
  | case3 c cs feed _ space ih =>
    have noReturn : c ≠ '\r' := fun same => by
      rw [same] at space
      cases space
    rw [List.cons_append, skipLines_cons feed fun same => absurd same noReturn, if_pos space,
      ih some whole]
  | case4 c cs feed return' noSpace =>
    have other : c = '\r' → cs.head? ≠ Option.some '\n' := by
      rintro rfl h
      obtain ⟨rest, rfl⟩ := List.head?_eq_some_iff.1 h
      exact return' rest rfl rfl
    rw [List.cons_append, skipLines_cons feed (head?_append_ne other whole t), if_neg noSpace]
  | case5 => exact absurd rfl some

theorem skipSpaces_suffix (cs : List Char) : skipSpaces cs <:+ cs := List.dropWhile_suffix _

theorem lineEnd?_eq_some {cs rest : List Char} :
    lineEnd? cs = some rest ↔ cs = '\n' :: rest ∨ cs = '\r' :: '\n' :: rest := by
  fun_cases lineEnd? cs with
  | case1 cs => simp
  | case2 cs => simp
  | case3 cs feed return' =>
    refine ⟨nofun, ?_⟩
    rintro (rfl | rfl)
    · exact (feed rest rfl).elim
    · exact (return' rest rfl).elim

theorem lineEnd?_append {cs rest : List Char} (h : lineEnd? cs = some rest) (t : List Char) :
    lineEnd? (cs ++ t) = some (rest ++ t) := by
  rcases lineEnd?_eq_some.1 h with rfl | rfl <;> rfl

theorem lineEnd?_append_eq_none {cs : List Char} (h : lineEnd? cs = none) (some : cs ≠ [])
    (whole : cs ≠ ['\r']) (t : List Char) : lineEnd? (cs ++ t) = none := by
  refine Option.eq_none_iff_forall_ne_some.2 fun rest found => ?_
  obtain ⟨c, cs, rfl⟩ := List.exists_cons_of_ne_nil some
  rcases lineEnd?_eq_some.1 found with same | same
  · obtain ⟨rfl, -⟩ := List.cons.inj same
    cases h
  · cases cs with
    | nil =>
      obtain ⟨rfl, -⟩ := List.cons.inj same
      exact whole rfl
    | cons d cs =>
      obtain ⟨rfl, rfl⟩ : c = '\r' ∧ d = '\n' :=
        ⟨(List.cons.inj same).1, (List.cons.inj (List.cons.inj same).2).1⟩
      cases h

theorem multiline?_eq_drop (quote : Char) (skip : Nat) (taken cs : List Char) :
    multiline? quote skip taken cs = multiline? quote 0 taken (cs.drop skip) := by
  induction skip generalizing cs with
  | zero => rfl
  | succ skip ih =>
    cases cs with
    | nil => rw [List.drop_nil, multiline?, multiline?]
    | cons c cs => rw [multiline?, ih, List.drop_succ_cons]

/-- A string does not end where nothing or only a carriage return is left. -/
theorem ne_short_of_multiline? {quote : Char} {taken cs : List Char} {read : String × List Char}
    (hq : quote ≠ '\r') (h : multiline? quote 0 taken cs = some read) : cs ≠ [] ∧ cs ≠ ['\r'] := by
  refine ⟨?_, ?_⟩
  · rintro rfl
    cases h
  · rintro rfl
    simp [multiline?, hq.symm] at h

/-- What a backslash at a line end takes off is followed by something of the string. -/
theorem foldedSize?_append {quote : Char} {taken cs : List Char} {size : Nat}
    {read : String × List Char} (ht : Delimited t) (hq : quote ≠ '\r')
    (folded : foldedSize? cs = some size) (h : multiline? quote size taken cs = some read) :
    foldedSize? (cs ++ t) = some size := by
  obtain ⟨rest, ended, rfl⟩ := Option.map_eq_some_iff.1 folded
  have inside : rest <:+ cs := by
    refine List.IsSuffix.trans ?_ (skipSpaces_suffix cs)
    rcases lineEnd?_eq_some.1 ended with h | h <;> rw [h]
    · exact List.suffix_cons ..
    · exact (List.suffix_cons ..).trans (List.suffix_cons ..)
  have suffix := (skipLines_suffix rest).trans inside
  rw [multiline?_eq_drop, ← List.suffix_iff_eq_drop.1 suffix] at h
  obtain ⟨some, whole⟩ := ne_short_of_multiline? hq h
  rw [foldedSize?, skipSpaces_append ht, lineEnd?_append ended, Option.map_some,
    skipLines_append some whole, List.length_append, List.length_append, Nat.add_sub_add_right]

theorem escape?_eq_none_of_foldedSize? {cs : List Char} {size : Nat}
    (folded : foldedSize? cs = some size) (t : List Char) : escape? (cs ++ t) = none := by
  obtain ⟨rest, ended, -⟩ := Option.map_eq_some_iff.1 folded
  cases cs with
  | nil => cases ended
  | cons c cs =>
    by_cases space : isSpace c = true
    · rcases (by simpa [isSpace] using space : c = ' ' ∨ c = '\t') with rfl | rfl <;> rfl
    · rw [skipSpaces, List.dropWhile_cons_of_neg space] at ended
      rcases lineEnd?_eq_some.1 ended with h | h <;>
        · obtain ⟨rfl, -⟩ := List.cons.inj h
          rfl

/-- A string of several lines ends where it did with more text behind it. -/
theorem multiline?_append {quote : Char} {skip : Nat} {taken cs rest : List Char} {s : String}
    (ht : Delimited t) (hq : quote = '"' ∨ quote = '\'')
    (h : multiline? quote skip taken cs = some (s, rest)) :
    multiline? quote skip taken (cs ++ t) = some (s, rest ++ t) := by
  have hr : quote ≠ '\r' := by rcases hq with rfl | rfl <;> decide
  have hd : isDelimiter quote = false := by rcases hq with rfl | rfl <;> rfl
  fun_induction multiline? quote skip taken cs with
  | case1 => cases h
  | case2 skip taken c cs ih => exact ih h
  | case3 taken cs count rest' closed =>
    -- a delimiter adds no quote to those at the end
    cases h
    have closed' := closing?_append ht hd (quote :: cs)
    rw [closed, List.cons_append] at closed'
    simp [multiline?, closed', followedBy]
  | case4 taken cs unclosed ih =>
    have unclosed' := closing?_append ht hd (quote :: cs)
    rw [unclosed, List.cons_append] at unclosed'
    simpa [multiline?, unclosed'] using ih h
  | case5 taken c cs noQuote backslash e size escape ih =>
    rw [List.cons_append, multiline?, if_neg noQuote, if_pos backslash]
    simp only [escape?_append escape]
    exact ih h
  | case6 taken c cs noQuote backslash size folded _ ih =>
    -- blank space behind the backslash cannot reach the end, as the string is closed behind it
    rw [List.cons_append, multiline?, if_neg noQuote, if_pos backslash]
    simp only [escape?_eq_none_of_foldedSize? folded, foldedSize?_append ht hr folded h]
    exact ih h
  | case7 => cases h
  | case8 taken cs noQuote noEscape ih =>
    rw [List.cons_append, multiline?, if_neg noQuote, if_neg noEscape, if_pos rfl]
    exact ih h
  | case9 taken cs feed noQuote noEscape noFeed ih =>
    have feed' : (cs ++ t).head? = some '\n' := by simp [feed]
    rw [List.cons_append, multiline?, if_neg noQuote, if_neg noEscape, if_neg noFeed, if_pos rfl,
      if_pos feed']
    exact ih h
  | case10 => cases h
  | case11 taken c cs noQuote noEscape noFeed noReturn plain ih =>
    rw [List.cons_append, multiline?, if_neg noQuote, if_neg noEscape, if_neg noFeed,
      if_neg noReturn, if_pos plain]
    exact ih h
  | case12 => cases h

/-- A line end right behind the quotes is not completed by what follows. -/
theorem multiline?_open_append {quote : Char} {cs rest : List Char} {s : String}
    (ht : Delimited t) (hq : quote = '"' ∨ quote = '\'')
    (h : multiline? quote 0 [] ((lineEnd? cs).getD cs) = some (s, rest)) :
    multiline? quote 0 [] ((lineEnd? (cs ++ t)).getD (cs ++ t)) = some (s, rest ++ t) := by
  have hr : quote ≠ '\r' := by rcases hq with rfl | rfl <;> decide
  cases ended : lineEnd? cs with
  | some behind =>
    rw [ended, Option.getD_some] at h
    rw [lineEnd?_append ended, Option.getD_some]
    exact multiline?_append ht hq h
  | none =>
    rw [ended, Option.getD_none] at h
    obtain ⟨some, whole⟩ := ne_short_of_multiline? hr h
    rw [lineEnd?_append_eq_none ended some whole, Option.getD_none]
    exact multiline?_append ht hq h

/-- Two quotes in front of a delimiter are not taken for the beginning of three. -/
theorem not_begins_quotes {quote : Char} {cs : List Char} (ht : Delimited t)
    (hq : isDelimiter quote = false) (h : ∀ rest, cs ≠ quote :: quote :: rest) (rest : List Char) :
    cs ++ t ≠ quote :: quote :: rest := fun same => by
  obtain ⟨cs, rfl, more⟩ := exists_of_append_eq_cons ht hq same
  obtain ⟨cs, rfl, -⟩ := exists_of_append_eq_cons ht hq more.symm
  exact h cs rfl

theorem string?_append {cs rest : List Char} {s : String} (ht : Delimited t)
    (h : string? cs = some (s, rest)) : string? (cs ++ t) = some (s, rest ++ t) := by
  revert h
  fun_cases string? cs with
  | case1 cs => exact multiline?_open_append ht (.inl rfl)
  | case2 cs => exact multiline?_open_append ht (.inr rfl)
  | case3 cs few =>
    intro h
    rw [List.cons_append, string?]
    · exact basic?_append h t
    · exact not_begins_quotes ht rfl few
  | case4 cs few =>
    intro h
    rw [List.cons_append, string?]
    · exact literal?_append h t
    · exact not_begins_quotes ht rfl few
  | case5 => exact nofun

/-! ### Blanks and keys -/

theorem skipBlanks_cons {c : Char} {cs : List Char} (inComment : Bool) (feed : c ≠ '\n')
    (return' : c = '\r' → cs.head? ≠ some '\n') :
    skipBlanks inComment (c :: cs) =
      if inComment then if isPlain c then skipBlanks true cs else c :: cs
      else if isSpace c then skipBlanks false cs
      else if c = '#' then skipBlanks true cs
      else c :: cs := by
  have noLineEnd (rest : List Char) (hc : c = '\r') (hcs : cs = '\n' :: rest) : False := by
    refine return' hc ?_
    rw [hcs, List.head?_cons]
  cases inComment
  · rw [skipBlanks, if_neg Bool.false_ne_true]
    · exact feed
    · exact noLineEnd
  · rw [skipBlanks, if_pos rfl]
    · exact feed
    · exact noLineEnd

/-- Blank space ends where it did with more text behind it, unless only a carriage return is left,
which a line feed could go with. -/
theorem skipBlanks_append {inComment : Bool} {cs : List Char}
    (some : skipBlanks inComment cs ≠ []) (whole : skipBlanks inComment cs ≠ ['\r'])
    (t : List Char) : skipBlanks inComment (cs ++ t) = skipBlanks inComment cs ++ t := by
  -- what is skipped by itself is no carriage return, so nothing behind it matters
  have noReturn {p : Char → Bool} {c : Char} (hp : p '\r' = false) (h : p c = true) : c ≠ '\r' := by
    rintro rfl
    rw [hp] at h
    cases h
  -- what is left may be one, but then the character behind it is there already
  have other {c : Char} {cs : List Char}
      (h : ∀ rest, c = '\r' → cs = '\n' :: rest → False) (hc : c = '\r') :
      cs.head? ≠ Option.some '\n' := fun found => by
    obtain ⟨rest, hcs⟩ := List.head?_eq_some_iff.1 found
    exact h rest hc hcs
  fun_induction skipBlanks inComment cs with
  | case1 => exact absurd rfl some
  | case2 inComment cs ih =>
    rw [List.cons_append, skipBlanks]
    exact ih some whole
  | case3 inComment cs ih =>
    rw [List.cons_append, List.cons_append, skipBlanks]
    exact ih some whole
  | case4 c cs feed _ plain ih =>
    have := noReturn (p := isPlain) rfl plain
    rw [List.cons_append, skipBlanks_cons _ feed (absurd · this), if_pos rfl, if_pos plain]
    exact ih some whole
  | case5 c cs feed return' noPlain =>
    rw [List.cons_append, skipBlanks_cons _ feed (head?_append_ne (other return') whole t),
      if_pos rfl, if_neg noPlain]
  | case6 c cs feed _ space ih =>
    have := noReturn (p := isSpace) rfl space
    rw [List.cons_append, skipBlanks_cons _ feed (absurd · this), if_neg (by decide),
      if_pos space]
    exact ih some whole
  | case7 cs feed _ noSpace ih =>
    rw [List.cons_append, skipBlanks_cons _ feed (absurd · (by decide)), if_neg (by decide),
      if_neg noSpace, if_pos rfl]
    exact ih some whole
  | case8 c cs feed return' noSpace noMark =>
    rw [List.cons_append, skipBlanks_cons _ feed (head?_append_ne (other return') whole t),
      if_neg (by decide), if_neg noSpace, if_neg noMark]

theorem simpleKey?_append {cs rest : List Char} {key : String} (ht : Delimited t)
    (h : simpleKey? cs = some (key, rest)) : simpleKey? (cs ++ t) = some (key, rest ++ t) := by
  revert h
  fun_cases simpleKey? cs with
  | case1 cs => exact fun h => basic?_append h t
  | case2 cs => exact fun h => literal?_append h t
  | case3 => exact nofun
  | case4 _ noQuote noQuote' taken some =>
    intro h
    cases h
    rw [simpleKey?, takeWhile_append_delimited ht isKeyChar_of_isDelimiter,
      dropWhile_append_delimited ht isKeyChar_of_isDelimiter]
    · exact if_neg some
    · intro more same
      obtain ⟨rest, same, -⟩ := exists_of_append_eq_cons ht rfl same
      exact noQuote rest same
    · intro more same
      obtain ⟨rest, same, -⟩ := exists_of_append_eq_cons ht rfl same
      exact noQuote' rest same

/-- A key has been read up to a character that is no point. -/
theorem key?_append {fuel fuel' : Nat} {cs rest : List Char} {way : List String} {key : String}
    (ht : Delimited t) (le : fuel ≤ fuel') (h : key? fuel cs = some (way, key, rest)) :
    key? fuel' (cs ++ t) = some (way, key, rest ++ t) := by
  induction fuel generalizing fuel' cs way with
  | zero => cases h
  | succ fuel ih =>
    obtain ⟨fuel', rfl⟩ := Nat.exists_eq_succ_of_ne_zero (by omega : fuel' ≠ 0)
    rw [key?] at h ⊢
    rw [skipSpaces_append ht]
    cases read : simpleKey? (skipSpaces cs) with
    | none =>
      simp only [read] at h
      cases h
    | some found =>
      obtain ⟨first, behind⟩ := found
      simp only [read, simpleKey?_append ht read, skipSpaces_append ht] at h ⊢
      split at h
      · next more point =>
        obtain ⟨⟨way', last, rest'⟩, inner, same⟩ := Option.map_eq_some_iff.1 h
        cases same
        rw [point]
        simp only [List.cons_append, ih (Nat.le_of_succ_le_succ le) inner, Option.map_some]
      · next more noPoint =>
        cases h
        split
        · next same =>
          obtain ⟨rest, found, -⟩ := exists_of_append_eq_cons ht rfl same
          exact (noPoint rest found).elim
        · rfl

/-! ### Values -/

theorem scalar?_append {cs rest : List Char} {item : Item} (ht : Delimited t)
    (h : scalar? cs = some (item, rest)) : scalar? (cs ++ t) = some (item, rest ++ t) := by
  cases cs with
  | nil => cases h
  | cons c cs =>
    rw [scalar?] at h
    rw [List.cons_append, scalar?]
    split at h
    · next quote =>
      obtain ⟨⟨s, rest'⟩, read, same⟩ := Option.map_eq_some_iff.1 h
      cases same
      rw [if_pos quote, ← List.cons_append, string?_append ht read, Option.map_some]
    · next noQuote =>
      rw [if_neg noQuote]
      split at h
      · next word =>
        obtain ⟨rest', read, same⟩ := Option.map_eq_some_iff.1 h
        cases same
        rw [if_pos word, word?_append ht (by simp [isDelimiter]), read, Option.map_some,
          Option.map_some]
      · next noWord =>
        rw [if_neg noWord]
        split at h
        · next word =>
          obtain ⟨rest', read, same⟩ := Option.map_eq_some_iff.1 h
          cases same
          rw [if_pos word, word?_append ht (by simp [isDelimiter]), read, Option.map_some,
            Option.map_some]
        · next noWord =>
          rw [if_neg noWord, ← List.cons_append, special?_append ht, numeric?_append ht,
            ← Option.map_or, h, Option.map_some, followedBy]

/-- A reader gives the same with more text behind as another one without it. -/
def Extends (t : List Char) (value value' : List Char → Option (Item × List Char)) : Prop :=
  ∀ {cs rest : List Char} {item : Item}, value cs = some (item, rest) →
    value' (cs ++ t) = some (item, rest ++ t)

/-- No value is read where nothing or only a carriage return is left. -/
def Begins (value : List Char → Option (Item × List Char)) : Prop :=
  ∀ {cs : List Char} {read : Item × List Char}, value cs = some read → cs ≠ [] ∧ cs ≠ ['\r']

/-- One item of an array and what follows it, or the end of the array. -/
theorem items?_eq_some {value : List Char → Option (Item × List Char)} {fuel : Nat}
    {taken : List Item} {cs rest : List Char} {item : Item} :
    items? value (fuel + 1) taken cs = some (item, rest) ↔
      (skipBlanks false cs = ']' :: rest ∧ item = .array taken.reverse) ∨
      (∀ more, skipBlanks false cs ≠ ']' :: more) ∧
        ∃ x behind, value (skipBlanks false cs) = some (x, behind) ∧
          ((∃ more, skipBlanks false behind = ',' :: more ∧
              items? value fuel (x :: taken) more = some (item, rest)) ∨
            skipBlanks false behind = ']' :: rest ∧ item = .array (x :: taken).reverse) := by
  rw [items?]
  split
  · next more closed =>
    rw [closed]
    grind
  · next noEnd =>
    cases read : value (skipBlanks false cs) with
    | none => grind
    | some found =>
      obtain ⟨x, behind⟩ := found
      dsimp only
      split <;> grind

theorem items?_append {value value' : List Char → Option (Item × List Char)}
    (begins : Begins value) (extends' : Extends t value value') {fuel fuel' : Nat}
    {taken : List Item} {cs rest : List Char} {item : Item} (le : fuel ≤ fuel')
    (h : items? value fuel taken cs = some (item, rest)) :
    items? value' fuel' taken (cs ++ t) = some (item, rest ++ t) := by
  induction fuel generalizing fuel' taken cs with
  | zero => cases h
  | succ fuel ih =>
    obtain ⟨fuel', rfl⟩ := Nat.exists_eq_succ_of_ne_zero (by omega : fuel' ≠ 0)
    have kept {c : Char} {cs more : List Char} (hc : c ≠ '\r')
        (found : skipBlanks false cs = c :: more) :
        skipBlanks false (cs ++ t) = c :: (more ++ t) := by
      rw [skipBlanks_append (by simp [found]) (by simp [found, hc]), found, List.cons_append]
    rw [items?_eq_some] at h ⊢
    rcases h with ⟨closed, rfl⟩ | ⟨noEnd, x, behind, read, next⟩
    · exact .inl ⟨kept (by decide) closed, rfl⟩
    · obtain ⟨some, whole⟩ := begins read
      rw [skipBlanks_append some whole]
      refine .inr ⟨fun more same => ?_, x, behind ++ t, extends' read, ?_⟩
      · obtain ⟨c, first, blanks⟩ := List.exists_cons_of_ne_nil some
        rw [blanks, List.cons_append] at same
        exact noEnd first (by rw [blanks, (List.cons.inj same).1])
      · rcases next with ⟨more, comma, inner⟩ | ⟨closed, rfl⟩
        · exact .inl ⟨more ++ t, kept (by decide) comma, ih (Nat.le_of_succ_le_succ le) inner⟩
        · exact .inr ⟨kept (by decide) closed, rfl⟩

/-- One member of a table in braces and what follows it. -/
theorem members?_eq_some {value : List Char → Option (Item × List Char)} {fuel : Nat}
    {ms : Members} {cs rest : List Char} {item : Item} :
    members? value (fuel + 1) ms cs = some (item, rest) ↔
      ∃ way key behind x after ms', key? maxDepth cs = some (way, key, '=' :: behind) ∧
        value (skipSpaces behind) = some (x, after) ∧ ms.addInline? key x way = some ms' ∧
        ((∃ more, skipSpaces after = ',' :: more ∧
            members? value fuel ms' more = some (item, rest)) ∨
          skipSpaces after = '\x7d' :: rest ∧ item = .inline false ms') := by
  rw [members?]
  split
  · next way key behind found =>
    rw [found]
    cases read : value (skipSpaces behind) with
    | none => grind
    | some found =>
      obtain ⟨x, after⟩ := found
      dsimp only
      split <;> grind
  · grind

theorem members?_append {value value' : List Char → Option (Item × List Char)}
    (ht : Delimited t) (extends' : Extends t value value') {fuel fuel' : Nat}
    {ms : Members} {cs rest : List Char} {item : Item} (le : fuel ≤ fuel')
    (h : members? value fuel ms cs = some (item, rest)) :
    members? value' fuel' ms (cs ++ t) = some (item, rest ++ t) := by
  induction fuel generalizing fuel' ms cs with
  | zero => cases h
  | succ fuel ih =>
    obtain ⟨fuel', rfl⟩ := Nat.exists_eq_succ_of_ne_zero (by omega : fuel' ≠ 0)
    rw [members?_eq_some] at h ⊢
    obtain ⟨way, key, behind, x, after, ms', found, read, added, next⟩ := h
    refine ⟨way, key, behind ++ t, x, after ++ t, ms', key?_append ht (Nat.le_refl _) found, ?_,
      added, ?_⟩
    · rw [skipSpaces_append ht]
      exact extends' read
    · rw [skipSpaces_append ht]
      rcases next with ⟨more, comma, inner⟩ | ⟨closed, rfl⟩
      · rw [comma]
        exact .inl ⟨more ++ t, rfl, ih (Nat.le_of_succ_le_succ le) inner⟩
      · rw [closed]
        exact .inr ⟨rfl, rfl⟩

theorem inlineTable?_eq_some {value : List Char → Option (Item × List Char)} {cs rest : List Char}
    {item : Item} : inlineTable? value cs = some (item, rest) ↔
      (skipSpaces cs = '\x7d' :: rest ∧ item = .inline false []) ∨
      (∀ more, skipSpaces cs ≠ '\x7d' :: more) ∧
        members? value ((skipSpaces cs).length + 1) [] (skipSpaces cs) = some (item, rest) := by
  rw [inlineTable?]
  split
  · next more closed =>
    rw [closed]
    grind
  · next noEnd => grind

theorem inlineTable?_append {value value' : List Char → Option (Item × List Char)}
    (ht : Delimited t) (extends' : Extends t value value') {cs rest : List Char} {item : Item}
    (h : inlineTable? value cs = some (item, rest)) :
    inlineTable? value' (cs ++ t) = some (item, rest ++ t) := by
  rw [inlineTable?_eq_some] at h ⊢
  rw [skipSpaces_append ht]
  rcases h with ⟨closed, rfl⟩ | ⟨noEnd, read⟩
  · rw [closed]
    exact .inl ⟨rfl, rfl⟩
  · refine .inr ⟨fun more same => ?_, members?_append ht extends' (by simp) read⟩
    cases spaced : skipSpaces cs with
    | nil =>
      rw [spaced] at read
      obtain ⟨way, key, behind, x, after, ms, noKey, -⟩ := members?_eq_some.1 read
      cases noKey
    | cons c cs =>
      rw [spaced, List.cons_append] at same
      exact noEnd cs (by rw [spaced, (List.cons.inj same).1])

theorem begins_value? (depth : Nat) : Begins (value? depth) := by
  intro cs read h
  refine ⟨?_, ?_⟩
  · rintro rfl
    cases depth <;> cases h
  · rintro rfl
    cases depth <;> cases h

theorem scalar?_bracket {c : Char} (hc : c = '[' ∨ c = '\x7b') (cs : List Char) :
    scalar? (c :: cs) = none := by
  have noDigits (size low high : Nat) : digits? (size + 1) low high (c :: cs) = none := by
    rcases hc with rfl | rfl <;> simp [digits?]
  have noDate : datetime? (c :: cs) = none := by simp [datetime?, date?, time?, noDigits]
  rcases hc with rfl | rfl <;>
    simp [scalar?, special?, word?, numeric?, noDate, number?, decimal?, whole?, run?]

/-- What is no array and no table is read at any depth. -/
theorem value?_of_scalar? {cs : List Char} {read : Item × List Char} (h : scalar? cs = some read)
    (depth : Nat) : value? depth cs = some read := by
  cases depth with
  | zero => exact h
  | succ depth =>
    rw [value?]
    · exact h
    · rintro more rfl
      rw [scalar?_bracket (.inl rfl)] at h
      cases h
    · rintro more rfl
      rw [scalar?_bracket (.inr rfl)] at h
      cases h

/-- A value is read in the same way with more text behind it and where more nesting is allowed. -/
theorem value?_append {depth depth' : Nat} (ht : Delimited t) (le : depth ≤ depth') :
    Extends t (value? depth) (value? depth') := by
  induction depth generalizing depth' with
  | zero => exact fun h => value?_of_scalar? (scalar?_append ht h) depth'
  | succ depth ih =>
    intro cs rest item h
    obtain ⟨depth', rfl⟩ := Nat.exists_eq_succ_of_ne_zero (by omega : depth' ≠ 0)
    have inner : Extends t (value? depth) (value? depth') := ih (Nat.le_of_succ_le_succ le)
    unfold value? at h
    split at h
    · next cs => exact items?_append (begins_value? depth) inner (by simp) h
    · next cs => exact inlineTable?_append ht inner h
    · exact value?_of_scalar? (scalar?_append ht h) _

end

end CallContext.Toml
