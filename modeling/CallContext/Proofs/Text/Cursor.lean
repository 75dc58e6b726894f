import CallContext.Text.Cursor

/-!
# Cursors and bytes

Offsets grow to the right, and the text between two cursors is a stretch of the text.
`Cursor.exists_stretch` splits the text at both ends of it; the other lemmas turn such a split into
statements about the bytes of the text in UTF-8.
-/

namespace CallContext

/-! ### Bytes of characters -/

theorem utf8Length_eq_utf8ByteSize (cs : List Char) :
    utf8Length cs = (String.ofList cs).utf8ByteSize := by
  induction cs with
  | nil => rfl
  | cons c cs ih =>
    rw [← List.singleton_append, String.ofList_append, String.utf8ByteSize_append, ← ih]
    simp

theorem utf8Length_eq_zero {cs : List Char} : utf8Length cs = 0 ↔ cs = [] := by
  cases cs with
  | nil => simp
  | cons c cs =>
    have pos : 0 < c.utf8Size := c.utf8Size_pos
    simp only [utf8Length_cons, reduceCtorEq, iff_false]
    omega

/-- The number of line feeds among some bytes. -/
def lineFeeds (bytes : ByteArray) : Nat := bytes.data.toList.count 10

theorem lineFeeds_append (front back : ByteArray) :
    lineFeeds (front ++ back) = lineFeeds front + lineFeeds back := by
  simp [lineFeeds]

theorem ofNat_eq_lineFeed {n : Nat} (h : n < 256) : UInt8.ofNat n = 10 ↔ n = 10 := by
  rw [← UInt8.toNat_inj, UInt8.toNat_ofNat', Nat.mod_eq_of_lt h]
  rfl

/-- Only a line feed is encoded with the byte of a line feed: the bytes of longer encodings are
all at least 128. -/
theorem count_utf8EncodeChar (c : Char) :
    (String.utf8EncodeChar c).count 10 = if c = '\n' then 1 else 0 := by
  have value : c = '\n' ↔ c.val.toNat = 10 := by
    rw [← Char.val_inj, ← UInt32.toNat_inj]
    rfl
  have high {n k : Nat} (h : n + k < 256) (hk : 128 ≤ k) : (UInt8.ofNat (n + k) = 10) = False := by
    rw [ofNat_eq_lineFeed h, eq_iff_iff, iff_false]
    omega
  have later (n : Nat) : (UInt8.ofNat (n % 64 + 128) = 10) = False :=
    high (by omega) (Nat.le_refl _)
  unfold String.utf8EncodeChar
  simp only [value]
  split
  · next h =>
    simp only [List.count_cons, List.count_nil, beq_iff_eq, ofNat_eq_lineFeed (Nat.lt_of_le_of_lt h
      (by decide : 127 < 256)), Nat.zero_add]
  · next h =>
    have other : c.val.toNat ≠ 10 := by omega
    simp only [other, if_false]
    split
    · simp only [List.count_cons, List.count_nil, beq_iff_eq, later, if_false]
      rw [if_neg (by rw [high (by omega) (by omega)]; exact id)]
    · split
      · simp only [List.count_cons, List.count_nil, beq_iff_eq, later, if_false]
        rw [if_neg (by rw [high (by omega) (by omega)]; exact id)]
      · simp only [List.count_cons, List.count_nil, beq_iff_eq, later, if_false]
        rw [if_neg (by rw [high (by omega) (by omega)]; exact id)]

theorem lineFeeds_ofList (cs : List Char) :
    lineFeeds (String.ofList cs).toByteArray = cs.count '\n' := by
  induction cs with
  | nil => rfl
  | cons c cs ih =>
    rw [← List.singleton_append, String.ofList_append, String.toByteArray_append, lineFeeds_append,
      ih, List.count_append, List.count_singleton]
    simp [lineFeeds, List.utf8Encode, count_utf8EncodeChar]

theorem size_toByteArray_ofList (cs : List Char) :
    (String.ofList cs).toByteArray.size = utf8Length cs :=
  (utf8Length_eq_utf8ByteSize cs).symm

/-- The bytes of the middle of a text, cut out of the bytes of the whole. -/
theorem extract_toByteArray_ofList (front mid back : List Char) :
    (String.ofList (front ++ mid ++ back)).toByteArray.extract (utf8Length front)
      (utf8Length (front ++ mid)) = (String.ofList mid).toByteArray := by
  rw [List.append_assoc, String.ofList_append, String.toByteArray_append, utf8Length_append,
    ← Nat.add_zero (utf8Length front), Nat.add_assoc, Nat.zero_add,
    ByteArray.extract_append_size_add' (size_toByteArray_ofList front).symm, String.ofList_append,
    String.toByteArray_append,
    ByteArray.extract_append_eq_left (size_toByteArray_ofList mid).symm]

theorem extract_zero_toByteArray_ofList (front back : List Char) :
    (String.ofList (front ++ back)).toByteArray.extract 0 (utf8Length front) =
      (String.ofList front).toByteArray :=
  extract_toByteArray_ofList [] front back

theorem isValid_utf8Length (front back : List Char) :
    String.Pos.Raw.IsValid (String.ofList (front ++ back)) ⟨utf8Length front⟩ := by
  rw [String.Pos.Raw.isValid_iff_exists_append]
  refine ⟨String.ofList front, String.ofList back, String.ofList_append, ?_⟩
  rw [utf8Length_eq_utf8ByteSize]
  rfl

/-! ### Cursors -/

namespace Cursor

variable {text : List Char}

theorem offset_le_next (c : Cursor text) : c.offset ≤ c.next.offset := by
  unfold next
  split
  · exact Nat.le_refl _
  · exact Nat.le_add_right _ _

theorem offset_le_skip (n : Nat) (c : Cursor text) : c.offset ≤ (c.skip n).offset := by
  induction n generalizing c with
  | zero => exact Nat.le_refl _
  | succ n ih => exact Nat.le_trans c.offset_le_next (ih c.next)

theorem skip_add (m n : Nat) (c : Cursor text) : c.skip (m + n) = (c.skip m).skip n := by
  induction m generalizing c with
  | zero => simp [skip]
  | succ m ih => rw [Nat.succ_add]; exact ih c.next

theorem skip_le_skip {m n : Nat} (h : m ≤ n) (c : Cursor text) :
    (c.skip m).offset ≤ (c.skip n).offset := by
  obtain ⟨k, rfl⟩ := Nat.exists_eq_add_of_le h
  rw [skip_add]
  exact offset_le_skip k _

/-- The text between two cursors is what stands between the two splits of the text. -/
theorem exists_stretch {start stop : Cursor text} (h : start.offset ≤ stop.offset) :
    ∃ front mid back, text = front ++ mid ++ back ∧
      start.offset = utf8Length front ∧ start.line = front.count '\n' ∧
      stop.offset = utf8Length (front ++ mid) ∧ stop.line = (front ++ mid).count '\n' ∧
      start.between stop = String.ofList mid := by
  obtain ⟨front, ht, ho, hl⟩ := start.split
  obtain ⟨front', ht', ho', hl'⟩ := stop.split
  obtain ⟨mid, rfl, hrest⟩ : ∃ mid, front' = front ++ mid ∧ start.rest = mid ++ stop.rest := by
    rcases List.append_eq_append_iff.1 (ht.symm.trans ht') with ⟨mid, hm, hr⟩ | ⟨back, hb, hr⟩
    · exact ⟨mid, hm, hr⟩
    · have : back = [] := utf8Length_eq_zero.1 (by simp [hb] at ho; omega)
      exact ⟨[], by simp [hb, this], by simp [hr, this]⟩
  refine ⟨front, mid, stop.rest, ht', ho, hl, ho', hl', ?_⟩
  have size : stop.offset - start.offset = utf8Length mid := by simp [ho, ho']
  rw [between, size, hrest, takeBytes_utf8Length_append]

theorem line_le_of_offset_le {a b : Cursor text} (h : a.offset ≤ b.offset) : a.line ≤ b.line := by
  obtain ⟨front, mid, -, -, -, line, -, line', -⟩ := exists_stretch h
  rw [line, line', List.count_append]
  exact Nat.le_add_right _ _

/-! ### Bytes before a cursor -/

variable {source : String}

theorem exists_front (c : Cursor source.toList) :
    ∃ front, source = String.ofList (front ++ c.rest) ∧ c.offset = utf8Length front ∧
      c.line = front.count '\n' := by
  obtain ⟨front, split, offset, line⟩ := c.split
  exact ⟨front, by rw [← split, String.ofList_toList], offset, line⟩

theorem isValid_offset (c : Cursor source.toList) :
    String.Pos.Raw.IsValid source ⟨c.offset⟩ := by
  obtain ⟨front, whole, offset, -⟩ := c.exists_front
  rw [offset]
  exact whole ▸ isValid_utf8Length front c.rest

theorem offset_le_utf8ByteSize (c : Cursor source.toList) : c.offset ≤ source.utf8ByteSize := by
  obtain ⟨front, whole, offset, -⟩ := c.exists_front
  rw [offset, whole, ← utf8Length_eq_utf8ByteSize, utf8Length_append]
  exact Nat.le_add_right _ _

theorem line_eq_lineFeeds (c : Cursor source.toList) :
    c.line = lineFeeds (source.toByteArray.extract 0 c.offset) := by
  obtain ⟨front, whole, offset, line⟩ := c.exists_front
  rw [line, offset, whole, extract_zero_toByteArray_ofList, lineFeeds_ofList]

theorem line_le_lineFeeds (c : Cursor source.toList) : c.line ≤ lineFeeds source.toByteArray := by
  obtain ⟨front, whole, -, line⟩ := c.exists_front
  rw [line, whole, lineFeeds_ofList, List.count_append]
  exact Nat.le_add_right _ _

theorem toByteArray_between {start stop : Cursor source.toList} (h : start.offset ≤ stop.offset) :
    (start.between stop).toByteArray = source.toByteArray.extract start.offset stop.offset := by
  obtain ⟨front, mid, back, split, startByte, -, stopByte, -, between⟩ := exists_stretch h
  have whole : source = String.ofList (front ++ mid ++ back) := by
    rw [← split, String.ofList_toList]
  rw [between, startByte, stopByte, whole, extract_toByteArray_ofList]

end Cursor

end CallContext
