import CallContext.Grammar.Automaton
import CallContext.Grammar.Lexeme

/-!
# Layout

Line ends, indentation and the parts of string literals cannot be told apart by looking at the
next characters alone: they depend on the indentation of the lines before and on the strings that
are open.  `Layout` holds what has to be remembered, and `Layout.scan?` finds the next token of
this kind at the front of some characters.

A token that the layout produces without taking text, such as the end of a block, has no length.
-/

namespace CallContext

/-- The quotes around a string literal. -/
inductive QuoteStyle where
  | single
  | double
  | back
  | tripleSingle
  | tripleDouble
deriving DecidableEq

namespace QuoteStyle

/-- The quotes of all styles. -/
def all : List QuoteStyle := [single, double, back, tripleSingle, tripleDouble]

/-- The character that the quotes are made of. -/
def char : QuoteStyle → Char
  | single | tripleSingle => '\''
  | double | tripleDouble => '"'
  | back => '\x60'

/-- The character stands three times. -/
def isTriple : QuoteStyle → Bool
  | tripleSingle | tripleDouble => true
  | _ => false

/-- The quotes as they are written. -/
def chars (q : QuoteStyle) : List Char :=
  if q.isTriple then [q.char, q.char, q.char] else [q.char]

end QuoteStyle

/-- How a string literal was opened. -/
structure Delimiter where
  quotes : QuoteStyle
  /-- Backslashes carry no meaning. -/
  raw : Bool
  /-- Braces enclose expressions. -/
  format : Bool
  bytes : Bool
deriving DecidableEq

/-- What the text before a place means for the layout tokens after it. -/
structure Layout where
  /-- The indentation of the open blocks modulo 256, the innermost first. -/
  indents : List Nat
  /-- The open strings, the innermost first. -/
  delimiters : List Delimiter
  /-- The innermost string that was opened last can contain expressions, and has not ended. -/
  inFormat : Bool
deriving DecidableEq

/-- A layout token at the front of some characters. -/
structure LayoutToken where
  symbol : Symbol
  /-- The number of characters before the token. -/
  start : Nat
  /-- The number of characters up to its end. -/
  stop : Nat
  /-- The layout after it. -/
  layout : Layout

namespace Layout

/-- The layout at the beginning of a text. -/
def initial : Layout := ⟨[], [], false⟩

/-- The indentation of the innermost block. -/
def margin (l : Layout) : Nat := l.indents.headD 0

/-- The innermost ones are forgotten of more than 255 strings, and of more blocks than there is room
for beside the strings. -/
def clip (l : Layout) : Layout :=
  let delimiters := l.delimiters.drop (l.delimiters.length - 255)
  { l with
    indents := l.indents.drop (l.indents.length - (1022 - delimiters.length))
    delimiters := delimiters }

/-- The layout inside a block of some indentation. -/
def openBlock (l : Layout) (indent : Nat) : Layout :=
  clip { l with indents := indent % 256 :: l.indents }

/-- The layout after a block. -/
def closeBlock (l : Layout) : Layout := { l with indents := l.indents.tail }

/-- The layout inside a string. -/
def openString (l : Layout) (d : Delimiter) : Layout :=
  clip { l with delimiters := d :: l.delimiters, inFormat := d.format }

/-- The layout after a string. -/
def closeString (l : Layout) : Layout :=
  { l with delimiters := l.delimiters.tail, inFormat := false }

/-! ### Inside strings -/

/-- What the text of an open string begins with. -/
inductive Body where
  /-- Characters of the string. -/
  | content (stop : Nat)
  /-- The closing quotes. -/
  | closing (stop : Nat)
  /-- Something that is neither. -/
  | other
  /-- The text ends before the string does. -/
  | unfinished (stop : Nat)

/-- After how many characters a raw string goes on behind a backslash, which is not counted: a
quote or a backslash, then a line end, belong to it. -/
def rawEscape (quote : Char) (cs : List Char) : Nat :=
  let lineEnd : List Char → Nat
    | '\r' :: '\n' :: _ => 2
    | '\r' :: _ => 1
    | '\n' :: _ => 1
    | _ => 0
  match cs with
  | c :: rest => if c = quote || c = '\\' then 1 + lineEnd rest else lineEnd cs
  | [] => 0

/-- Reads the text of an open string.  The first `skip` characters belong to it, `n` characters
were read before, and `begun` says whether they count as content. -/
def body (d : Delimiter) : (skip n : Nat) → (begun : Bool) → List Char → Body
  | _, n, _, [] => .unfinished n
  | skip + 1, n, begun, _ :: cs => body d skip (n + 1) begun cs
  | 0, n, begun, c :: cs =>
    let taken : Body := if begun then .content n else .other
    if Lexeme.isNul c then .unfinished n
    else if d.format && (c = '\x7b' || c = '\x7d') then taken
    else if c = '\\' then
      if d.raw then body d (rawEscape d.quotes.char cs) (n + 1) begun cs
      else if d.bytes && (cs.head?.any fun e => e = 'N' || e = 'u' || e = 'U') then
        body d 2 (n + 1) true cs
      else taken
    else if c = d.quotes.char then
      if d.quotes.isTriple then
        match cs with
        | second :: third :: _ =>
          if second ≠ d.quotes.char then .content (n + 1)
          else if third ≠ d.quotes.char then .content (n + 2)
          else if begun then .content n
          else .closing (n + 3)
        | [second] => if second ≠ d.quotes.char then .content (n + 1) else .content (n + 2)
        | [] => .content (n + 1)
      else if begun then .content n
      else .closing (n + 1)
    else if c = '\n' && begun && !d.quotes.isTriple then .other
    else body d 0 (n + 1) true cs

/-! ### Between lines -/

/-- What the blank space before a token says. -/
structure Margin where
  /-- A line end or the end of the text was passed. -/
  lineEnd : Bool
  /-- The indentation of the last line. -/
  indent : Nat
  /-- The indentation of the first comment. -/
  comment : Option Nat
  /-- The number of characters. -/
  size : Nat

/-- Passes blank space, comments and line continuations; `none` if a comment stands on the line of
the token before it, or a backslash does not continue the line. -/
def margin? (m : Margin) : (skip : Nat) → (inComment : Bool) → List Char → Option Margin
  | _, _, [] => some { m with lineEnd := true, indent := 0 }
  | skip + 1, inComment, _ :: cs => margin? { m with size := m.size + 1 } skip inComment cs
  | 0, true, c :: cs =>
    let m := { m with size := m.size + 1 }
    if c = '\n' || Lexeme.isNul c then margin? { m with indent := 0 } 0 false cs
    else margin? m 0 true cs
  | 0, false, c :: cs =>
    let past := { m with size := m.size + 1 }
    if c = '\n' then margin? { past with lineEnd := true, indent := 0 } 0 false cs
    else if c = ' ' then margin? { past with indent := m.indent + 1 } 0 false cs
    else if c = '\r' || c = '\x0c' then margin? { past with indent := 0 } 0 false cs
    else if c = '\t' then margin? { past with indent := m.indent + 8 } 0 false cs
    else if c = '#' then
      if m.lineEnd then
        margin? { past with comment := some (m.comment.getD m.indent) } 0 true cs
      else none
    else if c = '\\' then
      match cs with
      | [] => margin? past 0 false cs
      | ['\r'] => margin? past 1 false cs
      | '\r' :: '\n' :: _ => margin? past 2 false cs
      | '\n' :: _ => margin? past 1 false cs
      | _ => none
    else some m

/-! ### Beginning of strings -/

/-- Reads the letters and quotes that open a string, of which `n` letters were read before. -/
def opening? (d : Delimiter) (n : Nat) : List Char → Option (Delimiter × Nat)
  | [] => none
  | c :: cs =>
    if c = 'f' || c = 'F' then opening? { d with format := true } (n + 1) cs
    else if c = 'r' || c = 'R' then opening? { d with raw := true } (n + 1) cs
    else if c = 'b' || c = 'B' then opening? { d with bytes := true } (n + 1) cs
    else if c = 'u' || c = 'U' then opening? d (n + 1) cs
    else if c = '\x60' then some ({ d with quotes := .back }, n + 1)
    else if c = '\'' then
      match cs with
      | '\'' :: '\'' :: _ => some ({ d with quotes := .tripleSingle }, n + 3)
      | _ => some ({ d with quotes := .single }, n + 1)
    else if c = '"' then
      match cs with
      | '"' :: '"' :: _ => some ({ d with quotes := .tripleDouble }, n + 3)
      | _ => some ({ d with quotes := .double }, n + 1)
    else none

/-! ### Tokens -/

/-- The next token after blank space of margin `m`, which begins after `n` characters of a string
that did not end. -/
def scanLine? (l : Layout) (e : Expectation) (n : Nat) (m : Margin) (rest : List Char) :
    Option LayoutToken :=
  let quoted := rest.head?.any fun c => c = '"' || c = '\'' || c = '\x60'
  if m.lineEnd && e.indent && l.margin < m.indent then
    some ⟨Symbol.indent, 0, n, l.openBlock m.indent⟩
  else if m.lineEnd && (e.dedent || (!e.newline && !(e.stringStart && quoted) && !e.closing)) &&
      m.indent < l.margin && !l.inFormat && m.comment.all (· < l.margin) then
    some ⟨Symbol.dedent, 0, n, l.closeBlock⟩
  else if m.lineEnd && e.newline && !e.isLost then
    some ⟨Symbol.newline, 0, n, l⟩
  else if m.comment.isNone && e.stringStart then
    (opening? ⟨.double, false, false, false⟩ 0 rest).map fun (d, size) =>
      ⟨Symbol.stringStart, n + m.size, n + m.size + size, l.openString d⟩
  else none

/-- The next token behind the first `n` characters. -/
def scanMargin? (l : Layout) (e : Expectation) (n : Nat) (cs : List Char) : Option LayoutToken :=
  (margin? ⟨false, 0, none, 0⟩ 0 false (cs.drop n)).bind fun m =>
    l.scanLine? e n m (cs.drop (n + m.size))

/-- The next token in the text of an open string. -/
def scanString? (l : Layout) (e : Expectation) (d : Delimiter) (cs : List Char) :
    Option LayoutToken :=
  match d.format, cs with
  | true, '\x7b' :: '\x7b' :: _ => some ⟨Symbol.escapeInterpolation, 0, 2, l⟩
  | true, '\x7d' :: '\x7d' :: _ => some ⟨Symbol.escapeInterpolation, 0, 2, l⟩
  | true, '\x7b' :: _ => none
  | true, '\x7d' :: _ => none
  | _, _ =>
    match body d 0 0 false cs with
    | .content stop => some ⟨Symbol.stringContent, 0, stop, l⟩
    | .closing stop => some ⟨Symbol.stringEnd, 0, stop, l.closeString⟩
    | .other => none
    | .unfinished n => l.scanMargin? e n cs

/-- The layout token at the front of some characters, if one that is welcome stands there. -/
def scan? (l : Layout) (e : Expectation) (cs : List Char) : Option LayoutToken :=
  match e.stringBody && !e.isLost, l.delimiters with
  | true, d :: _ => l.scanString? e d cs
  | _, _ => l.scanMargin? e 0 cs

end Layout

end CallContext
