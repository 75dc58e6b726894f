import CallContext.Toml.Item

/-!
# Reading TOML

`Toml.parse?` reads a document of TOML 1.0 into the members of its root table; it gives `none` for
a text that is no such document.  Readers of parts take characters off the front of a list and
give the rest.
-/

namespace CallContext.Toml

/-! ### Blank space and comments -/

def isSpace (c : Char) : Bool := c = ' ' || c = '\t'

/-- Characters that may stand in comments and strings: no control characters but the tab. -/
def isPlain (c : Char) : Bool := c = '\t' || (0x20 ≤ c.toNat && c.toNat ≠ 0x7f)

/-- The rest of the line after spaces. -/
def skipSpaces (cs : List Char) : List Char := cs.dropWhile isSpace

/-- Takes a line end off. -/
def lineEnd? : List Char → Option (List Char)
  | '\n' :: cs => some cs
  | '\r' :: '\n' :: cs => some cs
  | _ => none

/-- Takes a comment off. -/
def skipComment : List Char → List Char
  | '#' :: cs => cs.dropWhile isPlain
  | cs => cs

/-- Takes the rest of a line off, on which nothing but a comment may stand. -/
def endLine? (cs : List Char) : Option (List Char) :=
  match skipComment (skipSpaces cs) with
  | [] => some []
  | cs => lineEnd? cs

/-- Takes spaces, line ends and comments off. -/
def skipBlanks : (inComment : Bool) → List Char → List Char
  | _, [] => []
  | _, '\n' :: cs => skipBlanks false cs
  | _, '\r' :: '\n' :: cs => skipBlanks false cs
  | true, c :: cs => if isPlain c then skipBlanks true cs else c :: cs
  | false, c :: cs =>
    if isSpace c then skipBlanks false cs
    else if c = '#' then skipBlanks true cs
    else c :: cs

/-! ### Strings -/

/-- The value of a hexadecimal digit. -/
def hexValue? (c : Char) : Option Nat :=
  if '0' ≤ c && c ≤ '9' then some (c.toNat - 48)
  else if 'a' ≤ c && c ≤ 'f' then some (c.toNat - 87)
  else if 'A' ≤ c && c ≤ 'F' then some (c.toNat - 55)
  else none

/-- The character of a code point in hexadecimal digits. -/
def hexChar? (digits : List Char) (size : Nat) : Option Char :=
  if digits.length = size then
    match digits.foldl (fun sum d =>
      match sum, hexValue? d with
      | some n, some v => some (16 * n + v)
      | _, _ => none) (some 0) with
    | some n => if n < 0xd800 || (0xdfff < n && n < 0x110000) then some (Char.ofNat n) else none
    | none => none
  else none

/-- The character of an escape whose backslash has been taken off, and the number of characters
that it takes. -/
def escape? : List Char → Option (Char × Nat)
  | 'b' :: _ => some ('\x08', 1)
  | 't' :: _ => some ('\t', 1)
  | 'n' :: _ => some ('\n', 1)
  | 'f' :: _ => some ('\x0c', 1)
  | 'r' :: _ => some ('\r', 1)
  | '"' :: _ => some ('"', 1)
  | '\\' :: _ => some ('\\', 1)
  | 'u' :: cs => (hexChar? (cs.take 4) 4).map (·, 5)
  | 'U' :: cs => (hexChar? (cs.take 8) 8).map (·, 9)
  | _ => none

/-- The string of characters of which the last comes first. -/
def reversed (taken : List Char) : String := String.ofList taken.reverse

/-- Reads a string on one line whose quote has been taken off.  The first `skip` characters have
been read. -/
def basic? : (skip : Nat) → (taken : List Char) → List Char → Option (String × List Char)
  | _, _, [] => none
  | skip + 1, taken, _ :: cs => basic? skip taken cs
  | 0, taken, c :: cs =>
    if c = '"' then some (reversed taken, cs)
    else if c = '\\' then
      match escape? cs with
      | some (e, size) => basic? size (e :: taken) cs
      | none => none
    else if isPlain c then basic? 0 (c :: taken) cs
    else none

/-- Reads a string without escapes on one line whose quote has been taken off. -/
def literal? : (taken : List Char) → List Char → Option (String × List Char)
  | _, [] => none
  | taken, c :: cs =>
    if c = '\'' then some (reversed taken, cs)
    else if isPlain c then literal? (c :: taken) cs
    else none

/-- Takes spaces and line ends off. -/
def skipLines : List Char → List Char
  | '\n' :: cs => skipLines cs
  | '\r' :: '\n' :: cs => skipLines cs
  | c :: cs => if isSpace c then skipLines cs else c :: cs
  | [] => []

/-- How many characters a backslash at the end of a line takes off: the line end, and all spaces
and line ends after it. -/
def foldedSize? (cs : List Char) : Option Nat :=
  (lineEnd? (skipSpaces cs)).map fun rest => cs.length - (skipLines rest).length

/-- The closing quotes of a string on several lines, which may follow up to two quotes that belong
to it: the number of those and the rest. -/
def closing? (quote : Char) (cs : List Char) : Option (Nat × List Char) :=
  let run := min 5 (cs.takeWhile (· = quote)).length
  if 3 ≤ run then some (run - 3, cs.drop run) else none

/-- Reads a string on several lines whose quotes have been taken off; only one in double quotes
has escapes. -/
def multiline? (quote : Char) :
    (skip : Nat) → (taken : List Char) → List Char → Option (String × List Char)
  | _, _, [] => none
  | skip + 1, taken, _ :: cs => multiline? quote skip taken cs
  | 0, taken, c :: cs =>
    if c = quote then
      match closing? quote (c :: cs) with
      | some (count, rest) => some (reversed (List.replicate count quote ++ taken), rest)
      | none => multiline? quote 0 (c :: taken) cs
    else if c = '\\' && quote = '"' then
      match escape? cs, foldedSize? cs with
      | some (e, size), _ => multiline? quote size (e :: taken) cs
      | none, some size => multiline? quote size taken cs
      | none, none => none
    else if c = '\n' then multiline? quote 0 ('\n' :: taken) cs
    else if c = '\r' then
      if cs.head? = some '\n' then multiline? quote 0 taken cs else none
    else if isPlain c then multiline? quote 0 (c :: taken) cs
    else none

/-- Reads a string; a line end right after the quotes of one on several lines does not count. -/
def string? : List Char → Option (String × List Char)
  | '"' :: '"' :: '"' :: cs => multiline? '"' 0 [] ((lineEnd? cs).getD cs)
  | '\'' :: '\'' :: '\'' :: cs => multiline? '\'' 0 [] ((lineEnd? cs).getD cs)
  | '"' :: cs => basic? 0 [] cs
  | '\'' :: cs => literal? [] cs
  | _ => none

/-! ### Keys -/

/-- Characters of keys without quotes. -/
def isKeyChar (c : Char) : Bool := c.isAlphanum || c = '-' || c = '_'

/-- Reads a key. -/
def simpleKey? : List Char → Option (String × List Char)
  | '"' :: cs => basic? 0 [] cs
  | '\'' :: cs => literal? [] cs
  | cs =>
    let key := cs.takeWhile isKeyChar
    if key.isEmpty then none else some (String.ofList key, cs.dropWhile isKeyChar)

/-- Reads keys with dots between them: those before the last, and the last. -/
def key? : (fuel : Nat) → List Char → Option (List String × String × List Char)
  | 0, _ => none
  | fuel + 1, cs =>
    match simpleKey? (skipSpaces cs) with
    | none => none
    | some (key, cs) =>
      match skipSpaces cs with
      | '.' :: cs => (key? fuel cs).map fun (way, last, cs) => (key :: way, last, cs)
      | cs => some ([], key, cs)

/-- A key has at most this number of parts, and values are nested at most as deeply. -/
def maxDepth : Nat := 79

/-! ### Dates -/

/-- Reads a number of exactly `size` digits between two bounds. -/
def digits? (size low high : Nat) (cs : List Char) : Option (Nat × List Char) :=
  let ds := cs.take size
  let n := ds.foldl (fun sum d => 10 * sum + (d.toNat - 48)) 0
  if ds.length = size && ds.all Char.isDigit && low ≤ n && n ≤ high then some (n, cs.drop size)
  else none

/-- Takes a character off. -/
def char? (c : Char) : List Char → Option (List Char)
  | d :: cs => if d = c then some cs else none
  | [] => none

/-- The number of days of a month. -/
def daysOf (year month : Nat) : Nat :=
  if month = 2 then
    if year % 4 = 0 && (year % 100 ≠ 0 || year % 400 = 0) then 29 else 28
  else if month = 4 || month = 6 || month = 9 || month = 11 then 30
  else 31

/-- Takes a date off. -/
def date? (cs : List Char) : Option (List Char) := do
  let (year, cs) ← digits? 4 0 9999 cs
  let cs ← char? '-' cs
  let (month, cs) ← digits? 2 1 12 cs
  let cs ← char? '-' cs
  let (_, cs) ← digits? 2 1 (daysOf year month) cs
  return cs

/-- Takes the parts of a second off, if there are any. -/
def skipFraction : List Char → List Char
  | '.' :: d :: cs => if d.isDigit then cs.dropWhile Char.isDigit else '.' :: d :: cs
  | cs => cs

/-- Takes a time of day off. -/
def time? (cs : List Char) : Option (List Char) := do
  let (_, cs) ← digits? 2 0 23 cs
  let cs ← char? ':' cs
  let (_, cs) ← digits? 2 0 59 cs
  let cs ← char? ':' cs
  let (_, cs) ← digits? 2 0 60 cs
  return skipFraction cs

/-- Takes the distance from universal time off, if there is one. -/
def offset? (cs : List Char) : Option (List Char) :=
  match cs with
  | c :: more =>
    if c = 'Z' || c = 'z' then some more
    else if c = '+' || c = '-' then do
      let (_, cs) ← digits? 2 0 23 more
      let cs ← char? ':' cs
      let (_, cs) ← digits? 2 0 59 cs
      return cs
    else some cs
  | [] => some []

/-- Takes a date, a time, or both off. -/
def datetime? (cs : List Char) : Option (List Char) :=
  match date? cs with
  | none => time? cs
  | some rest =>
    match rest with
    | c :: more =>
      if c = 'T' || c = 't' || c = ' ' then
        match time? more with
        | some after => offset? after
        | none => some rest
      else some rest
    | [] => some rest

/-! ### Numbers -/

/-- Reads digits, between which single underscores may stand; `none` if an underscore stands
anywhere else. -/
def run? (isDigit : Char → Bool) : (taken : List Char) → List Char → Option (List Char × List Char)
  | taken, '_' :: cs =>
    match taken, cs with
    | _ :: _, d :: more => if isDigit d then run? isDigit (d :: taken) more else none
    | _, _ => none
  | taken, c :: cs =>
    if isDigit c then run? isDigit (c :: taken) cs
    else if taken.isEmpty then none
    else some (taken.reverse, c :: cs)
  | taken, [] => if taken.isEmpty then none else some (taken.reverse, [])

/-- The number of some digits. -/
def number (base : Nat) (digits : List Char) : Nat :=
  digits.foldl (fun sum d => base * sum + (hexValue? d).getD 0) 0

/-- The least number above all integers. -/
def integerBound : Nat := 1 <<< 63

/-- Reads an integer in another base than ten, the mark of which has been taken off. -/
def based? (base : Nat) (cs : List Char) : Option (Item × List Char) :=
  match run? (fun c => (hexValue? c).any (· < base)) [] cs with
  | none => none
  | some (digits, cs) =>
    let n := number base digits
    if n < integerBound then some (.integer n, cs) else none

/-- Reads the digits before a point: a zero stands alone. -/
def whole? : List Char → Option (List Char × List Char)
  | '0' :: cs => some (['0'], cs)
  | cs => run? Char.isDigit [] cs

/-- Reads an exponent, if there is one. -/
def exponent? : List Char → Option (Option Int × List Char)
  | e :: cs =>
    if e = 'e' || e = 'E' then
      let negative : Bool := cs.head? = some '-'
      let cs := if negative || cs.head? = some '+' then cs.tail else cs
      (run? Char.isDigit [] cs).map fun (digits, cs) =>
        (some (if negative then -(number 10 digits : Int) else number 10 digits), cs)
    else some (none, e :: cs)
  | [] => some (none, [])

/-- The number of some digits times a power of ten is too large for a floating-point number of
double precision. -/
def overflows (digits : List Char) (power : Int) : Bool :=
  let n := number 10 digits
  let size : Int := (Nat.toDigits 10 n).length + power
  let bound := (1 <<< 54 - 1) <<< 970
  if n = 0 || size < 309 then false
  else if 310 < size then true
  else if 0 ≤ power then bound ≤ n * Nat.pow 10 power.toNat
  else bound * Nat.pow 10 power.natAbs ≤ n

/-- Reads a point with the digits behind it, if there is one. -/
def fraction? : List Char → Option (Option (List Char) × List Char)
  | '.' :: cs => (run? Char.isDigit [] cs).map fun (digits, cs) => (some digits, cs)
  | cs => some (none, cs)

/-- The number of some digits before and behind the point and a power of ten, if it is not too
large. -/
def decimalOf? (negative : Bool) (digits : List Char) :
    (fraction : Option (List Char)) → (power : Option Int) → Option Item
  | none, none =>
    let n := number 10 digits
    if negative then if n ≤ integerBound then some (.integer (-n)) else none
    else if n < integerBound then some (.integer n)
    else none
  | fraction, power =>
    let fraction := fraction.getD []
    if !negative && overflows (digits ++ fraction) (power.getD 0 - fraction.length) then none
    else some .float

/-- Reads a number to base ten behind its sign. -/
def decimal? (negative : Bool) (cs : List Char) : Option (Item × List Char) := do
  let (digits, cs) ← whole? cs
  let (fraction, cs) ← fraction? cs
  let (power, cs) ← exponent? cs
  let item ← decimalOf? negative digits fraction power
  return (item, cs)

/-- Takes a word off. -/
def word? (word cs : List Char) : Option (List Char) :=
  if word.isPrefixOf cs then some (cs.drop word.length) else none

/-- Reads infinity or what is no number. -/
def special? (cs : List Char) : Option (Item × List Char) :=
  ((word? ['i', 'n', 'f'] cs).or (word? ['n', 'a', 'n'] cs)).map (Item.float, ·)

/-- Reads a number. -/
def number? : List Char → Option (Item × List Char)
  | '0' :: 'x' :: cs => based? 16 cs
  | '0' :: 'o' :: cs => based? 8 cs
  | '0' :: 'b' :: cs => based? 2 cs
  | '+' :: cs => (special? cs).or (decimal? false cs)
  | '-' :: cs => (special? cs).or (decimal? true cs)
  | cs => decimal? false cs

/-- Reads a number or a date. -/
def numeric? (cs : List Char) : Option (Item × List Char) :=
  match datetime? cs with
  | some rest => some (.datetime, rest)
  | none => number? cs

/-! ### Values -/

/-- Reads the items of an array behind its bracket. -/
def items? (value : List Char → Option (Item × List Char)) :
    (fuel : Nat) → (taken : List Item) → List Char → Option (Item × List Char)
  | 0, _, _ => none
  | fuel + 1, taken, cs =>
    match skipBlanks false cs with
    | ']' :: cs => some (.array taken.reverse, cs)
    | cs =>
      match value cs with
      | none => none
      | some (item, cs) =>
        match skipBlanks false cs with
        | ',' :: cs => items? value fuel (item :: taken) cs
        | ']' :: cs => some (.array (item :: taken).reverse, cs)
        | _ => none

/-- Reads the members of a table in braces, at least one. -/
def members? (value : List Char → Option (Item × List Char)) :
    (fuel : Nat) → Members → List Char → Option (Item × List Char)
  | 0, _, _ => none
  | fuel + 1, ms, cs =>
    match key? maxDepth cs with
    | some (way, key, '=' :: cs) =>
      match value (skipSpaces cs) with
      | none => none
      | some (item, cs) =>
        match ms.addInline? key item way, skipSpaces cs with
        | some ms, ',' :: cs => members? value fuel ms cs
        | some ms, '\x7d' :: cs => some (.inline false ms, cs)
        | _, _ => none
    | _ => none

/-- Reads a table behind its brace. -/
def inlineTable? (value : List Char → Option (Item × List Char)) (cs : List Char) :
    Option (Item × List Char) :=
  match skipSpaces cs with
  | '\x7d' :: cs => some (.inline false [], cs)
  | cs => members? value (cs.length + 1) [] cs

/-- Reads a value that is no array and no table. -/
def scalar? : List Char → Option (Item × List Char)
  | [] => none
  | c :: cs =>
    if c = '"' || c = '\'' then (string? (c :: cs)).map fun (s, cs) => (.string s, cs)
    else if c = 't' then (word? ['r', 'u', 'e'] cs).map (.boolean true, ·)
    else if c = 'f' then (word? ['a', 'l', 's', 'e'] cs).map (.boolean false, ·)
    else (special? (c :: cs)).or (numeric? (c :: cs))

/-- Reads a value in which arrays and tables are nested at most `depth` deep. -/
def value? : (depth : Nat) → List Char → Option (Item × List Char)
  | 0, cs => scalar? cs
  | depth + 1, cs =>
    match cs with
    | '[' :: cs => items? (value? depth) (cs.length + 1) [] cs
    | '\x7b' :: cs => inlineTable? (value? depth) cs
    | cs => scalar? cs

/-! ### Documents -/

/-- Reads a header in brackets: the keys before the last, and the last. -/
def header? (cs : List Char) : Option (Bool × List String × String × List Char) :=
  match cs with
  | '[' :: '[' :: cs =>
    match key? maxDepth cs with
    | some (way, key, ']' :: ']' :: cs) => (endLine? cs).map (true, way, key, ·)
    | _ => none
  | '[' :: cs =>
    match key? maxDepth cs with
    | some (way, key, ']' :: cs) => (endLine? cs).map (false, way, key, ·)
    | _ => none
  | _ => none

/-- Reads a key with its value. -/
def pair? (cs : List Char) : Option (List String × String × Item × List Char) :=
  match key? maxDepth cs with
  | some (way, key, '=' :: cs) =>
    match value? maxDepth (skipSpaces cs) with
    | some (item, cs) => (endLine? cs).map (way, key, item, ·)
    | none => none
  | _ => none

/-- Reads the lines of a document; `here` is the way to the table of the last header. -/
def lines? : (fuel : Nat) → (here : List String) → Members → List Char → Option Members
  | 0, _, _, _ => none
  | fuel + 1, here, root, cs =>
    match skipSpaces cs with
    | [] => some root
    | '[' :: cs =>
      match header? ('[' :: cs) with
      | none => none
      | some (isArray, way, key, cs) =>
        let opened :=
          if isArray then root.changeAt? (Members.openArray? key) way
          else root.changeAt? (Members.openTable? key) way
        match opened with
        | some root => lines? fuel (way ++ [key]) root cs
        | none => none
    | c :: cs =>
      if c = '#' || c = '\n' || c = '\r' then
        match endLine? (c :: cs) with
        | some cs => lines? fuel here root cs
        | none => none
      else
        match pair? (c :: cs) with
        | none => none
        | some (way, key, item, cs) =>
          match root.changeAt? (Members.addDotted? key item way) here with
          | some root => lines? fuel here root cs
          | none => none

/-- Reads a document, which may begin with a byte order mark. -/
def parse? (s : String) : Option Members :=
  let cs :=
    match s.toList with
    | '\ufeff' :: cs => cs
    | cs => cs
  lines? (cs.length + 1) [] [] cs

end CallContext.Toml
