/-!
# Places in a text

A `Cursor` stands between two characters of a text.  It knows the characters still to be read,
the number of UTF-8 bytes before it and the number of line ends before it, and it carries the
proof that these belong to one split of the text.  Cursors are made by `Cursor.atStart` and moved
by `Cursor.next` only, so every offset that is ever reported lies on a character boundary of the
text and every line number counts its line feeds.

* `Cursor.next`, `Cursor.skip` move to the right,
* `Cursor.between` is the text from one cursor to another.
-/

namespace CallContext

/-- The number of bytes that UTF-8 needs for some characters. -/
def utf8Length : List Char → Nat
  | [] => 0
  | c :: cs => c.utf8Size + utf8Length cs

@[simp] theorem utf8Length_nil : utf8Length [] = 0 := rfl

@[simp] theorem utf8Length_cons (c : Char) (cs : List Char) :
    utf8Length (c :: cs) = c.utf8Size + utf8Length cs := rfl

@[simp] theorem utf8Length_append (front back : List Char) :
    utf8Length (front ++ back) = utf8Length front + utf8Length back := by
  induction front with
  | nil => simp
  | cons c cs ih => simp [ih, Nat.add_assoc]

/-- The shortest front of some characters that fills `n` bytes, behind characters that were taken
before it, the last of them first. -/
def takeBytesOnto (taken : List Char) : Nat → List Char → List Char
  | 0, _ => taken.reverse
  | _ + 1, [] => taken.reverse
  | n + 1, c :: cs => takeBytesOnto (c :: taken) (n + 1 - c.utf8Size) cs

/-- The shortest front of some characters that fills `n` bytes. -/
def takeBytes (n : Nat) (cs : List Char) : List Char := takeBytesOnto [] n cs

theorem takeBytesOnto_utf8Length_append (taken front back : List Char) :
    takeBytesOnto taken (utf8Length front) (front ++ back) = taken.reverse ++ front := by
  induction front generalizing taken with
  | nil => simp [takeBytesOnto]
  | cons c cs ih =>
    have pos : 0 < c.utf8Size := c.utf8Size_pos
    obtain ⟨n, hn⟩ : ∃ n, c.utf8Size + utf8Length cs = n + 1 :=
      ⟨c.utf8Size + utf8Length cs - 1, by omega⟩
    have rest : n + 1 - c.utf8Size = utf8Length cs := by omega
    simp only [utf8Length_cons, List.cons_append, hn, takeBytesOnto, rest, ih]
    simp

@[simp] theorem takeBytes_utf8Length_append (front back : List Char) :
    takeBytes (utf8Length front) (front ++ back) = front := by
  simp [takeBytes, takeBytesOnto_utf8Length_append]

/-- A place in a text: what is still to be read, and the bytes and line ends before it. -/
structure Cursor (text : List Char) where
  rest : List Char
  /-- Bytes before the cursor. -/
  offset : Nat
  /-- Line feeds before the cursor. -/
  line : Nat
  split : ∃ front, text = front ++ rest ∧ offset = utf8Length front ∧ line = front.count '\n'

namespace Cursor

variable {text : List Char}

/-- The place before the first character. -/
def atStart (text : List Char) : Cursor text :=
  ⟨text, 0, 0, [], rfl, rfl, rfl⟩

/-- One character to the right; the end of the text stays where it is. -/
def next (c : Cursor text) : Cursor text :=
  match h : c.rest with
  | [] => c
  | x :: xs =>
    { rest := xs
      offset := c.offset + x.utf8Size
      line := if x = '\n' then c.line + 1 else c.line
      split := by
        obtain ⟨front, ht, ho, hl⟩ := c.split
        refine ⟨front ++ [x], by simp [ht, h], by simp [ho], ?_⟩
        rw [List.count_append, List.count_singleton]
        by_cases hx : x = '\n' <;> simp [hx, hl] }

/-- `n` characters to the right. -/
def skip : Nat → Cursor text → Cursor text
  | 0, c => c
  | n + 1, c => skip n c.next

/-- The text from one cursor to a later one. -/
def between (start stop : Cursor text) : String :=
  String.ofList (takeBytes (stop.offset - start.offset) start.rest)

end Cursor

end CallContext
