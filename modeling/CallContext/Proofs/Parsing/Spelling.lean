import CallContext.Proofs.Parsing.Conformity

/-!
# Tokens are spelled as their symbols say

The text of a token is known from its symbol as far as the analysis depends on it: an identifier or
a keyword is a word, a dot is a dot, a string starts with letters and quotes, and it ends with quotes
(`Token.spelled_read`).  Only identifiers become keywords, so that a keyword can be read as an
identifier again.
-/

namespace CallContext

/-- The symbol says nothing about its text. -/
def Symbol.isFree (s : Symbol) : Bool :=
  s ≠ Symbol.identifier && !Lexeme.isKeyword s && s ≠ Symbol.dot && s ≠ Symbol.stringStart &&
    s ≠ Symbol.stringEnd

/-- The characters are what the symbol says. -/
structure Symbol.Spells (s : Symbol) (chars : List Char) : Prop where
  word : s = Symbol.identifier ∨ Lexeme.isKeyword s = true →
    Identifier.isWord (String.ofList chars) = true
  dot : s = Symbol.dot → chars = ['.']
  opens : s = Symbol.stringStart → StringLiteral.opens (String.ofList chars) = true
  closes : s = Symbol.stringEnd → StringLiteral.closes (String.ofList chars) = true

theorem Symbol.isFree_iff {s : Symbol} : s.isFree = true ↔
    s ≠ Symbol.identifier ∧ Lexeme.isKeyword s = false ∧ s ≠ Symbol.dot ∧
      s ≠ Symbol.stringStart ∧ s ≠ Symbol.stringEnd := by
  simp [isFree, and_assoc]

theorem Symbol.spells_of_isFree {s : Symbol} (h : s.isFree = true) (chars : List Char) :
    s.Spells chars := by
  obtain ⟨noIdentifier, noKeyword, noDot, noStart, noEnd⟩ := isFree_iff.1 h
  refine ⟨fun either => ?_, fun dot => absurd dot noDot, fun start => absurd start noStart,
    fun stop => absurd stop noEnd⟩
  rcases either with identifier | keyword
  · exact absurd identifier noIdentifier
  · exact absurd keyword (by simp [noKeyword])

theorem Symbol.spells_of_word {s : Symbol} {chars : List Char}
    (h : Identifier.isWord (String.ofList chars) = true)
    (word : s = Symbol.identifier ∨ Lexeme.isKeyword s = true) : s.Spells chars := by
  have other (t : Symbol) (no : t ≠ Symbol.identifier ∧ Lexeme.isKeyword t = false) : s ≠ t := by
    rintro rfl
    rcases word with identifier | keyword
    · exact no.1 identifier
    · rw [no.2] at keyword
      cases keyword
  exact ⟨fun _ => h, fun dot => absurd dot (other _ (by decide)),
    fun start => absurd start (other _ (by decide)), fun stop => absurd stop (other _ (by decide))⟩

/-! ### Lexemes -/

namespace Lexeme

theorem countWhile_eq (p : Char → Bool) (cs : List Char) (n : Nat) :
    countWhile p cs n = n + (cs.takeWhile p).length := by
  induction cs generalizing n with
  | nil => rfl
  | cons c cs ih =>
    rw [countWhile, List.takeWhile_cons]
    split
    · rw [ih, List.length_cons, Nat.add_assoc, Nat.add_comm 1]
    · rfl

/-- An identifier is a letter with what may follow it. -/
theorem isWord_take_countWhile {c : Char} (h : Identifier.isStart c = true) (cs : List Char) :
    Identifier.isWord
      (String.ofList ((c :: cs).take (countWhile Identifier.isContinue cs 1))) = true := by
  have taken : (c :: cs).take (countWhile Identifier.isContinue cs 1) =
      c :: cs.takeWhile Identifier.isContinue := by
    rw [countWhile_eq, Nat.add_comm, List.take_succ_cons,
      ← List.prefix_iff_eq_take.1 (List.takeWhile_prefix Identifier.isContinue)]
  rw [taken, Identifier.isWord, String.toList_ofList]
  simp [h]

/-- An operator is free but for the dot. -/
theorem free_of_mem_operators {c : Char} {o : List Char × Nat} (h : o ∈ operators c) :
    Symbol.isFree ⟨o.2⟩ = true ∨ o = ([], 4) ∧ c = '.' := by
  unfold operators at h
  split at h <;> simp only [List.mem_cons, List.not_mem_nil, or_false] at h
  all_goals
    rcases h with rfl | rfl | rfl | rfl | rfl <;> first | exact .inl rfl | exact .inr ⟨rfl, rfl⟩

theorem spells_of_mem_operators {c : Char} {o : List Char × Nat} (h : o ∈ operators c)
    (cs : List Char) : Symbol.Spells ⟨o.2⟩ ((c :: cs).take (o.1.length + 1)) := by
  rcases free_of_mem_operators h with free | ⟨rfl, rfl⟩
  · exact Symbol.spells_of_isFree free _
  · refine ⟨fun either => ?_, fun _ => rfl, fun opens => ?_, fun closes => ?_⟩
    · rcases either with h | h <;> cases h
    · cases opens
    · cases closes

theorem mem_candidate {s : Symbol} {length : Option Nat} {t : Symbol × Nat}
    (h : t ∈ candidate s length) : t.1 = s := by
  cases length with
  | none => exact absurd h List.not_mem_nil
  | some n => rw [List.mem_singleton.1 h]

theorem free_of_mem_handlers {cs : List Char} {t : Symbol × Nat} (h : t ∈ handlers cs) :
    t.1.isFree = true := by
  unfold handlers at h
  split at h
  · split at h
    · simp only [List.mem_cons, List.not_mem_nil, or_false] at h
      rcases h with rfl | rfl <;> rfl
    · rw [List.mem_singleton.1 h]
      rfl
  · exact absurd h List.not_mem_nil

theorem spells_of_mem_candidates {fresh : Bool} {cs : List Char} {t : Symbol × Nat}
    (h : t ∈ candidates fresh cs) : t.1.Spells (cs.take t.2) := by
  have free (free : t.1.isFree = true) : t.1.Spells (cs.take t.2) :=
    Symbol.spells_of_isFree free _
  have candidate {s : Symbol} {length : Option Nat} (hs : s.isFree = true)
      (h : t ∈ candidate s length) : t.1.Spells (cs.take t.2) := free (mem_candidate h ▸ hs)
  cases cs with
  | nil => exact absurd h List.not_mem_nil
  | cons c cs =>
    dsimp only [candidates] at h
    split at h
    · next start =>
      -- a word, or a keyword that is no identifier anywhere
      rcases List.mem_append.1 h with h | h
      · split at h
        · exact free (free_of_mem_handlers h)
        · exact absurd h List.not_mem_nil
      · rw [List.mem_singleton.1 h]
        exact Symbol.spells_of_word (isWord_take_countWhile start cs) (.inl rfl)
    · split at h
      · -- a number
        rcases List.mem_append.1 h with h | h
        · exact candidate rfl h
        · exact candidate rfl h
      · split at h
        · rw [List.mem_singleton.1 h]
          exact Symbol.spells_of_isFree (by decide : Symbol.comment.isFree = true) _
        · split at h
          · -- what a backslash starts
            simp only [List.mem_append] at h
            rcases h with (h | h) | h
            · split at h
              · exact candidate rfl h
              · exact absurd h List.not_mem_nil
            · exact candidate rfl h
            · split at h
              · exact free (by rw [List.mem_singleton.1 h]; rfl)
              · exact absurd h List.not_mem_nil
          · -- an operator, the dot among them, or what else a dot or an exclamation mark starts
            simp only [List.mem_append] at h
            rcases h with (h | h) | h
            · obtain ⟨o, ho, rfl⟩ := List.mem_map.1 h
              exact spells_of_mem_operators (List.mem_filter.1 ho).1 cs
            · split at h
              · exact candidate rfl h
              · exact absurd h List.not_mem_nil
            · split at h
              · cases cs with
                | nil => exact absurd h List.not_mem_nil
                | cons d ds =>
                  dsimp only at h
                  split at h
                  · exact free (by rw [List.mem_singleton.1 h]; rfl)
                  · exact absurd h List.not_mem_nil
              · exact absurd h List.not_mem_nil

theorem mem_of_longest? {lexicon : Nat} {tokens : List (Symbol × Nat)} {t : Symbol × Nat}
    (h : longest? lexicon tokens = some t) : t ∈ tokens := by
  let Known (best : Option (Symbol × Nat)) : Prop := ∀ t ∈ best, t ∈ tokens
  have known : Known (longest? lexicon tokens) := by
    refine List.foldlRecOn tokens _ (motive := Known) (fun t ht => nomatch ht) ?_
    intro best hb u hu
    split
    · split
      · split
        · exact fun t ht => Option.mem_some.1 ht ▸ hu
        · exact hb
      · exact fun t ht => Option.mem_some.1 ht ▸ hu
    · exact hb
  exact known t h

theorem isKeyword_of_keyword? {chars : List Char} {s : Symbol} (h : keyword? chars = some s) :
    isKeyword s = true := by
  have all (length : Nat) : (keywords length).all (fun k => isKeyword ⟨k.2⟩) = true := by
    unfold keywords
    split <;> rfl
  obtain ⟨k, found, rfl⟩ := Option.map_eq_some_iff.1 h
  exact List.all_eq_true.1 (all _) k (List.mem_of_find?_eq_some found)

theorem spells_of_token? {lexicon : Nat} {fresh : Bool} {cs : List Char} {t : Symbol × Nat}
    (h : token? lexicon fresh cs = some t) : t.1.Spells (cs.take t.2) := by
  unfold token? at h
  split at h
  · split at h
    · cases h
      exact Symbol.spells_of_isFree rfl _
    · cases h
  · next c cs =>
    split at h
    · split at h
      · obtain ⟨o, ho, rfl⟩ := List.mem_map.1 (mem_of_longest? h)
        exact spells_of_mem_operators ho cs
      · cases h
        exact Symbol.spells_of_isFree (by decide : Symbol.formatText.isFree = true) _
    · exact spells_of_mem_candidates (mem_of_longest? h)

end Lexeme

/-! ### Quotes -/

theorem QuoteStyle.mem_all (q : QuoteStyle) : q ∈ all := by cases q <;> decide

/-- No quote is a letter. -/
theorem QuoteStyle.dropWhile_chars (q : QuoteStyle) : q.chars.dropWhile Char.isAlpha = q.chars := by
  cases q <;> decide

theorem StringLiteral.opens_ofList {letters : List Char} (h : ∀ c ∈ letters, c.isAlpha = true)
    (q : QuoteStyle) : opens (String.ofList (letters ++ q.chars)) = true := by
  refine List.find?_isSome.2 ⟨q, q.mem_all, ?_⟩
  rw [decide_eq_true_eq, String.toList_ofList, List.dropWhile_append_of_pos h]
  exact q.dropWhile_chars

theorem StringLiteral.closes_ofList (front : List Char) (q : QuoteStyle) :
    closes (String.ofList (front ++ q.chars)) = true := by
  refine List.any_eq_true.2 ⟨q, q.mem_all, ?_⟩
  rw [String.toList_ofList, List.isSuffixOf_iff_suffix]
  exact List.suffix_append front q.chars

theorem Symbol.spells_stringStart {chars : List Char}
    (h : StringLiteral.opens (String.ofList chars) = true) : Symbol.stringStart.Spells chars :=
  ⟨fun either => absurd either (by decide), fun dot => absurd dot (by decide), fun _ => h,
    fun closes => absurd closes (by decide)⟩

theorem Symbol.spells_stringEnd {chars : List Char}
    (h : StringLiteral.closes (String.ofList chars) = true) : Symbol.stringEnd.Spells chars :=
  ⟨fun either => absurd either (by decide), fun dot => absurd dot (by decide),
    fun opens => absurd opens (by decide), fun _ => h⟩

/-! ### Layout -/

/-- What stands between the ends of a token is what its symbol says. -/
def LayoutToken.Spells (found : LayoutToken) (cs : List Char) : Prop :=
  ∃ size, found.stop = found.start + size ∧
    found.symbol.Spells ((cs.drop found.start).take size)

namespace Layout

/-- The first characters up to the size are letters and quotes. -/
def Opens (q : QuoteStyle) (size : Nat) (cs : List Char) : Prop :=
  ∃ letters : List Char, (∀ c ∈ letters, c.isAlpha = true) ∧ cs.take size = letters ++ q.chars

theorem opens_of_append {q : QuoteStyle} {cs rest : List Char} (h : cs = q.chars ++ rest) :
    Opens q q.chars.length cs := by
  refine ⟨[], by simp, ?_⟩
  rw [h, List.take_left, List.nil_append]

theorem Opens.cons {q : QuoteStyle} {size : Nat} {cs : List Char} (h : Opens q size cs) {c : Char}
    (alpha : c.isAlpha = true) : Opens q (size + 1) (c :: cs) := by
  obtain ⟨letters, all, taken⟩ := h
  refine ⟨c :: letters, List.forall_mem_cons.2 ⟨alpha, all⟩, ?_⟩
  rw [List.take_succ_cons, taken, List.cons_append]

/-- What opens a string are letters and its quotes. -/
theorem opens_of_opening? {d d' : Delimiter} {n stop : Nat} {cs : List Char}
    (h : opening? d n cs = some (d', stop)) : ∃ size, stop = n + size ∧ Opens d'.quotes size cs := by
  induction cs generalizing d n with
  | nil => cases h
  | cons c cs ih =>
    have letter {d : Delimiter} (alpha : c.isAlpha = true)
        (h : opening? d (n + 1) cs = some (d', stop)) :
        ∃ size, stop = n + size ∧ Opens d'.quotes size (c :: cs) := by
      obtain ⟨size, length, opens⟩ := ih h
      exact ⟨size + 1, by omega, opens.cons alpha⟩
    have quotes (q : QuoteStyle) (rest : List Char) (found : c :: cs = q.chars ++ rest)
        (h : some ({ d with quotes := q }, n + q.chars.length) = some (d', stop)) :
        ∃ size, stop = n + size ∧ Opens d'.quotes size (c :: cs) := by
      cases h
      exact ⟨_, rfl, opens_of_append found⟩
    have alpha {upper lower : Char} (all : upper.isAlpha = true ∧ lower.isAlpha = true)
        (is : (c = lower || c = upper) = true) : c.isAlpha = true := by
      rcases Bool.or_eq_true_iff.1 is with is | is <;> rw [of_decide_eq_true is]
      · exact all.2
      · exact all.1
    unfold opening? at h
    split at h
    · next is => exact letter (alpha (by decide) is) h
    split at h
    · next is => exact letter (alpha (by decide) is) h
    split at h
    · next is => exact letter (alpha (by decide) is) h
    split at h
    · next is => exact letter (alpha (by decide) is) h
    split at h
    · next is => exact quotes .back cs (by rw [is]; rfl) h
    split at h
    · next is =>
      subst is
      split at h
      · next rest => exact quotes .tripleSingle rest rfl h
      · exact quotes .single cs rfl h
    split at h
    · next is =>
      subst is
      split at h
      · next rest => exact quotes .tripleDouble rest rfl h
      · exact quotes .double cs rfl h
    · cases h

/-- The first characters up to the size end with quotes. -/
def Closes (q : QuoteStyle) (size : Nat) (cs : List Char) : Prop :=
  ∃ front : List Char, cs.take size = front ++ q.chars

theorem Closes.cons {q : QuoteStyle} {size : Nat} {cs : List Char} (h : Closes q size cs)
    (c : Char) : Closes q (size + 1) (c :: cs) := by
  obtain ⟨front, taken⟩ := h
  exact ⟨c :: front, by rw [List.take_succ_cons, taken, List.cons_append]⟩

theorem closes_of_append {q : QuoteStyle} {cs rest : List Char} (h : cs = q.chars ++ rest) :
    Closes q q.chars.length cs := by
  refine ⟨[], ?_⟩
  rw [h, List.take_left, List.nil_append]

/-- What closes a string ends with its quotes; before them there can be quotes behind backslashes. -/
theorem closes_of_body {d : Delimiter} {skip n stop : Nat} {begun : Bool} {cs : List Char}
    (h : body d skip n begun cs = .closing stop) :
    ∃ size, stop = n + size ∧ Closes d.quotes size cs := by
  induction cs generalizing skip n begun with
  | nil => cases skip <;> cases h
  | cons c cs ih =>
    have later {skip : Nat} {begun : Bool} (h : body d skip (n + 1) begun cs = .closing stop) :
        ∃ size, stop = n + size ∧ Closes d.quotes size (c :: cs) := by
      obtain ⟨size, rfl, closes⟩ := ih h
      exact ⟨size + 1, by omega, closes.cons c⟩
    have here (rest : List Char) (found : c :: cs = d.quotes.chars ++ rest) :
        ∃ size, n + d.quotes.chars.length = n + size ∧ Closes d.quotes size (c :: cs) :=
      ⟨_, rfl, closes_of_append found⟩
    cases skip with
    | succ skip => exact later h
    | zero =>
      unfold body at h
      dsimp only at h
      split at h
      · cases h
      split at h
      · split at h <;> cases h
      split at h
      · -- a backslash
        split at h
        · exact later h
        split at h
        · exact later h
        · split at h <;> cases h
      split at h
      · -- the first of three quotes, or the only one
        next quote =>
        split at h
        · next triple =>
          have chars : d.quotes.chars = [c, c, c] := by rw [QuoteStyle.chars, if_pos triple, quote]
          rw [chars] at here
          cases cs with
          | nil => cases h
          | cons second cs =>
            cases cs with
            | nil =>
              dsimp only at h
              split at h <;> cases h
            | cons third rest =>
              dsimp only at h
              split at h
              · cases h
              next isSecond =>
              split at h
              · cases h
              next isThird =>
              split at h
              · cases h
              · cases h
                refine here rest ?_
                rw [Decidable.of_not_not isSecond, Decidable.of_not_not isThird, ← quote]
                rfl
        · next single =>
          have chars : d.quotes.chars = [c] := by rw [QuoteStyle.chars, if_neg single, quote]
          rw [chars] at here
          split at h
          · cases h
          · cases h
            exact here cs rfl
      split at h
      · cases h
      · exact later h

theorem spells_of_isFree {s : Symbol} (free : s.isFree = true) (stop : Nat) (l : Layout)
    (cs : List Char) : LayoutToken.Spells ⟨s, 0, stop, l⟩ cs :=
  ⟨stop, (Nat.zero_add stop).symm, Symbol.spells_of_isFree free _⟩

theorem spells_of_scanLine? {l : Layout} {e : Expectation} {n : Nat} {m : Margin}
    {cs : List Char} {found : LayoutToken}
    (h : l.scanLine? e n m (cs.drop (n + m.size)) = some found) : found.Spells cs := by
  unfold scanLine? at h
  dsimp only at h
  split at h
  · cases h
    exact spells_of_isFree (by decide) ..
  split at h
  · cases h
    exact spells_of_isFree (by decide) ..
  split at h
  · cases h
    exact spells_of_isFree (by decide) ..
  split at h
  · obtain ⟨opened, read, rfl⟩ := Option.map_eq_some_iff.1 h
    obtain ⟨size, length, letters, all, taken⟩ := opens_of_opening? read
    rw [Nat.zero_add] at length
    refine ⟨opened.2, rfl, Symbol.spells_stringStart ?_⟩
    rw [length, taken]
    exact StringLiteral.opens_ofList all _
  · cases h

theorem spells_of_scanMargin? {l : Layout} {e : Expectation} {n : Nat} {cs : List Char}
    {found : LayoutToken} (h : l.scanMargin? e n cs = some found) : found.Spells cs :=
  let ⟨_, _, h⟩ := Option.bind_eq_some_iff.1 h
  spells_of_scanLine? h

theorem spells_of_scan? {l : Layout} {e : Expectation} {cs : List Char} {found : LayoutToken}
    (h : l.scan? e cs = some found) : found.Spells cs := by
  unfold scan? at h
  split at h
  · next d _ _ _ =>
    unfold scanString? at h
    split at h
    · cases h
      exact spells_of_isFree (by decide) ..
    · cases h
      exact spells_of_isFree (by decide) ..
    · cases h
    · cases h
    · split at h
      · cases h
        exact spells_of_isFree (by decide) ..
      · next closed =>
        obtain ⟨size, stop, front, taken⟩ := closes_of_body closed
        cases h
        refine ⟨size, stop, Symbol.spells_stringEnd ?_⟩
        rw [List.drop_zero, taken]
        exact StringLiteral.closes_ofList front _
      · cases h
      · exact spells_of_scanMargin? h
  · exact spells_of_scanMargin? h

end Layout

/-! ### Tokens -/

variable {text : List Char}

theorem Cursor.offset_skip (n : Nat) (c : Cursor text) :
    (c.skip n).offset = c.offset + utf8Length (c.rest.take n) := by
  induction n generalizing c with
  | zero => simp [skip]
  | succ n ih =>
    rw [skip, ih]
    unfold next
    split
    · next none => simp [none]
    · next x xs some => simp [some, Nat.add_assoc]

theorem Cursor.between_skip (n : Nat) (c : Cursor text) :
    c.between (c.skip n) = String.ofList (c.rest.take n) := by
  have bytes : takeBytes (utf8Length (c.rest.take n)) c.rest = c.rest.take n := by
    conv => lhs; arg 2; rw [← List.take_append_drop n c.rest]
    exact takeBytes_utf8Length_append ..
  rw [between, offset_skip, Nat.add_sub_cancel_left, bytes]

theorem Cursor.rest_skip (n : Nat) (c : Cursor text) : (c.skip n).rest = c.rest.drop n := by
  induction n generalizing c with
  | zero => rfl
  | succ n ih =>
    rw [skip, ih]
    unfold next
    split
    · next none => simp [none]
    · next x xs some => simp [some]

namespace Token

theorem spelled_of_spells {token : Token text} {chars : List Char}
    (text : token.start.between token.stop = String.ofList chars)
    (h : token.symbol.Spells chars) : token.Spelled :=
  ⟨fun either => text ▸ h.word either, fun dot => by rw [text, h.dot dot],
    fun opens => text ▸ h.opens opens, fun closes => text ▸ h.closes closes⟩

theorem spelled_of_isFree {token : Token text} (h : token.symbol.isFree = true) :
    token.Spelled :=
  spelled_of_spells String.ofList_toList.symm (Symbol.spells_of_isFree h _)

/-- Only an identifier is read as a keyword. -/
theorem spells_refine (state : Nat) {s : Symbol} {chars : List Char} (h : s.Spells chars) :
    (refine state s chars).Spells chars := by
  unfold refine
  split
  · next identifier =>
    split
    · next keyword found =>
      split
      · exact h
      · exact Symbol.spells_of_word (h.word (.inl identifier))
          (.inr (Lexeme.isKeyword_of_keyword? found))
    · exact h
  · exact h

theorem spelled_of_find {search : Search} {layout : Option Layout} {place : Cursor text}
    {token : Token text} (h : find search layout place = .ok token) : token.Spelled := by
  unfold find at h
  split at h
  · next found =>
    cases h
    unfold layout? at found
    dsimp only at found
    split at found
    · cases found
    · next scanned =>
      split at found
      · cases found
      · cases found
        obtain ⟨size, stop, spells⟩ := Layout.spells_of_scan? scanned
        refine spelled_of_spells ?_ spells
        dsimp only
        rw [stop, Cursor.skip_add, Cursor.between_skip, Cursor.rest_skip]
  · dsimp only at h
    split at h
    · next symbol size found =>
      cases h
      exact spelled_of_spells (Cursor.between_skip ..)
        (spells_refine _ (Lexeme.spells_of_token? found))
    · cases h

theorem spelled_readAny (state : Nat) (layout : Option Layout) (place : Cursor text) :
    (readAny state layout place).Spelled := by
  unfold readAny
  dsimp only
  split
  · next found => exact spelled_of_find found
  · exact spelled_of_isFree (by decide : Symbol.error.isFree = true)

/-- Every token that is read is spelled as its symbol says. -/
theorem spelled_read (state : Nat) (progress : Bool) (layout : Option Layout)
    (place : Cursor text) : (read state progress layout place).Spelled := by
  unfold read
  split
  · exact spelled_readAny ..
  · split
    · next found => exact spelled_of_find found
    · exact spelled_readAny ..

/-- A keyword can be read as an identifier. -/
theorem Spelled.asIdentifier {token : Token text} (h : token.Spelled)
    (keyword : Lexeme.isKeyword token.symbol = true) : token.asIdentifier.Spelled :=
  spelled_of_spells String.ofList_toList.symm
    (Symbol.spells_of_word (by rw [String.ofList_toList]; exact h.word (.inr keyword)) (.inl rfl))

end Token

end CallContext
