import CallContext.Grammar.Symbol
import CallContext.Text.Identifier

/-!
# Lexemes

The words of a text: identifiers, numbers, operators, comments, and the escapes and format texts
that stand inside strings.  The functions here look at the front of a list of characters.  Of the
tokens that are looked for the one with the longest match wins (`Lexeme.longest?`); a set of tokens
is a bit mask over their codes, called a lexicon.
-/

namespace CallContext.Lexeme

/-- Adds to `n` the number of characters at the front that have a property. -/
def countWhile (p : Char → Bool) : List Char → Nat → Nat
  | [], n => n
  | c :: cs, n => if p c then countWhile p cs (n + 1) else n

/-- Blanks and line ends, which may stand between tokens. -/
def isSeparator (c : Char) : Bool :=
  c = ' ' || c = '\n' || c = '\t' || c = '\r' || c = '\x0c' || c = '\ufeff' || c = '\u2060' ||
    c = '\u200b'

/-- The character that no class of characters contains. -/
def isNul (c : Char) : Bool := c.toNat = 0

def isHexDigit (c : Char) : Bool :=
  c.isDigit || ('a' ≤ c && c ≤ 'f') || ('A' ≤ c && c ≤ 'F')

/-! ### Numbers -/

/-- Adds to `n` the length of a run of digits, each group of which may end in one underscore. -/
def digitGroups : (afterDigit : Bool) → List Char → Nat → Nat
  | _, [], n => n
  | afterDigit, c :: cs, n =>
    if c.isDigit then digitGroups true cs (n + 1)
    else if c = '_' && afterDigit then digitGroups false cs (n + 1)
    else n

/-- Adds to `n` the length of a run of digits, each group of which may begin with one underscore. -/
def basedDigits (isDigit : Char → Bool) : List Char → Nat → Nat
  | [], n => n
  | '_' :: d :: cs, n => if isDigit d then basedDigits isDigit cs (n + 2) else n
  | c :: cs, n => if isDigit c then basedDigits isDigit cs (n + 1) else n

/-- `1` if the first character is one of some, else `0`. -/
def oneOf (marks : List Char) : List Char → Nat
  | [] => 0
  | c :: _ => if marks.contains c then 1 else 0

/-- The length of an integer to base 16, 8 or 2 whose digits follow the two characters of the
base. -/
def basedLength (isDigit : Char → Bool) (cs : List Char) : Option Nat :=
  match basedDigits isDigit cs 0 with
  | 0 => none
  | n + 1 => some (2 + (n + 1) + oneOf ['L', 'l'] (cs.drop (n + 1)))

/-- The length of an integer. -/
def integerLength : List Char → Option Nat
  | '0' :: base :: cs =>
    let decimal := digitGroups false ('0' :: base :: cs) 0
    let plain := decimal + oneOf ['L', 'l', 'j', 'J'] (('0' :: base :: cs).drop decimal)
    let based :=
      if base = 'x' || base = 'X' then basedLength isHexDigit cs
      else if base = 'o' || base = 'O' then basedLength (fun c => '0' ≤ c && c ≤ '7') cs
      else if base = 'b' || base = 'B' then basedLength (fun c => c = '0' || c = '1') cs
      else none
    some (based.getD plain)
  | cs =>
    match digitGroups false cs 0 with
    | 0 => none
    | n + 1 => some (n + 1 + oneOf ['L', 'l', 'j', 'J'] (cs.drop (n + 1)))

/-- The length of the exponent of a number. -/
def exponentLength : List Char → Option Nat
  | [] => none
  | e :: cs =>
    if e = 'e' || e = 'E' then
      let sign := oneOf ['+', '-'] cs
      match digitGroups false (cs.drop sign) 0 with
      | 0 => none
      | n + 1 => some (1 + sign + (n + 1))
    else none

/-- The length of a number with a decimal point or an exponent. -/
def floatLength (cs : List Char) : Option Nat :=
  let whole := digitGroups false cs 0
  let finish (n : Nat) : Option Nat := some (n + oneOf ['L', 'l', 'j', 'J'] (cs.drop n))
  match cs.drop whole with
  | '.' :: after =>
    let fraction := digitGroups false after 0
    if whole = 0 && fraction = 0 then none
    else
      let n := whole + 1 + fraction
      finish (n + (exponentLength (cs.drop n)).getD 0)
  | rest =>
    match whole, exponentLength rest with
    | 0, _ => none
    | _, none => none
    | _, some n => finish (whole + n)

/-! ### Escapes -/

/-- The first `n` characters exist and are hexadecimal digits. -/
def hexDigits (n : Nat) (cs : List Char) : Bool :=
  (cs.take n).length = n && (cs.take n).all isHexDigit

/-- The length of an escape inside a string, whose backslash has been taken off. -/
def escapeLength : List Char → Option Nat
  | [] => none
  | c :: cs =>
    if ['\'', '"', 'a', 'b', 'f', 'r', 'n', 't', 'v', '\\', '\n'].contains c then some 2
    else if c = '\r' then if cs.head? = some '\n' then some 3 else none
    else if c = 'u' then if hexDigits 4 cs then some 6 else none
    else if c = 'U' then if hexDigits 8 cs then some 10 else none
    else if c = 'x' then if hexDigits 2 cs then some 4 else none
    else if c.isDigit then
      if (cs.take 2).length = 2 && (cs.take 2).all Char.isDigit then some 4 else none
    else if c = 'N' then
      match cs with
      | '\x7b' :: cs =>
        let n := countWhile (fun c => c ≠ '\x7d' && !isNul c) cs 0
        if n ≠ 0 && (cs.drop n).head? = some '\x7d' then some (n + 4) else none
      | _ => none
    else none

/-- The length of a line continuation whose backslash has been taken off. -/
def continuationLength : List Char → Option Nat
  | '\r' :: '\n' :: _ => some 3
  | '\n' :: _ => some 2
  | c :: _ => if isNul c then some 2 else none
  | [] => none

/-! ### Tokens -/

/-- The operators that begin with a character: the characters after it, and the code. -/
def operators : Char → List (List Char × Nat)
  | '!' => [(['='], 68)]
  | '%' => [(['='], 80), ([], 59)]
  | '&' => [(['='], 84), ([], 61)]
  | '(' => [([], 7)]
  | ')' => [([], 8)]
  | '*' => [(['*', '='], 81), (['*'], 39), (['='], 76), ([], 11)]
  | '+' => [(['='], 74), ([], 54)]
  | ',' => [([], 9)]
  | '-' => [(['>'], 38), (['='], 75), ([], 49)]
  | '.' => [(['.', '.'], 88), ([], 4)]
  | '/' => [(['/', '='], 79), (['/'], 60), (['='], 77), ([], 58)]
  | ':' => [(['='], 15), ([], 23)]
  | ';' => [([], 2)]
  | '<' => [(['<', '='], 83), (['<'], 63), (['='], 66), (['>'], 71), ([], 65)]
  | '=' => [(['='], 67), ([], 44)]
  | '>' => [(['>', '='], 82), (['>'], 13), (['='], 69), ([], 70)]
  | '@' => [(['='], 78), ([], 48)]
  | '[' => [([], 46)]
  | ']' => [([], 47)]
  | '^' => [(['='], 85), ([], 62)]
  | '\x7b' => [([], 52)]
  | '|' => [(['='], 86), ([], 51)]
  | '\x7d' => [([], 53)]
  | '~' => [([], 64)]
  | _ => []

/-- The keywords of a length, with their codes. -/
def keywords : Nat → List (List Char × Nat)
  | 1 => [(['_'], 50)]
  | 2 => [(['a', 's'], 10), (['i', 'f'], 22), (['i', 'n'], 30), (['o', 'r'], 57),
    (['i', 's'], 72)]
  | 3 => [(['d', 'e', 'l'], 17), (['f', 'o', 'r'], 29), (['t', 'r', 'y'], 32),
    (['d', 'e', 'f'], 37), (['n', 'o', 't'], 55), (['a', 'n', 'd'], 56)]
  | 4 => [(['f', 'r', 'o', 'm'], 5), (['p', 'a', 's', 's'], 19), (['e', 'l', 'i', 'f'], 24),
    (['e', 'l', 's', 'e'], 25), (['c', 'a', 's', 'e'], 27), (['w', 'i', 't', 'h'], 36),
    (['e', 'x', 'e', 'c'], 42), (['t', 'y', 'p', 'e'], 43), (['T', 'r', 'u', 'e'], 96),
    (['N', 'o', 'n', 'e'], 98)]
  | 5 => [(['p', 'r', 'i', 'n', 't'], 12), (['r', 'a', 'i', 's', 'e'], 18),
    (['b', 'r', 'e', 'a', 'k'], 20), (['m', 'a', 't', 'c', 'h'], 26),
    (['a', 's', 'y', 'n', 'c'], 28), (['w', 'h', 'i', 'l', 'e'], 31),
    (['c', 'l', 'a', 's', 's'], 45), (['y', 'i', 'e', 'l', 'd'], 87),
    (['a', 'w', 'a', 'i', 't'], 95), (['F', 'a', 'l', 's', 'e'], 97)]
  | 6 => [(['i', 'm', 'p', 'o', 'r', 't'], 3), (['a', 's', 's', 'e', 'r', 't'], 14),
    (['r', 'e', 't', 'u', 'r', 'n'], 16), (['g', 'l', 'o', 'b', 'a', 'l'], 40),
    (['l', 'a', 'm', 'b', 'd', 'a'], 73)]
  | 7 => [(['f', 'i', 'n', 'a', 'l', 'l', 'y'], 35)]
  | 8 => [(['c', 'o', 'n', 't', 'i', 'n', 'u', 'e'], 21),
    (['n', 'o', 'n', 'l', 'o', 'c', 'a', 'l'], 41)]
  | 10 => [(['_', '_', 'f', 'u', 't', 'u', 'r', 'e', '_', '_'], 6)]
  | _ => []

/-- The keyword that a word is. -/
def keyword? (word : List Char) : Option Symbol :=
  ((keywords word.length).find? (·.1 == word)).map (⟨·.2⟩)

/-- A keyword, which is also an identifier where its own meaning does not fit. -/
def isKeyword (s : Symbol) : Bool :=
  (0x78080030003842f39ff7f5468).testBit s.code

/-- The words that are neither keywords nor identifiers. -/
def handlers (cs : List Char) : List (Symbol × Nat) :=
  if ['e', 'x', 'c', 'e', 'p', 't'].isPrefixOf cs then
    if (cs.drop 6).head? = some '*' then [(⟨34⟩, 7), (⟨33⟩, 6)] else [(⟨33⟩, 6)]
  else []

/-- A token with its length, if there is one. -/
def candidate (s : Symbol) (length : Option Nat) : List (Symbol × Nat) :=
  match length with
  | some n => [(s, n)]
  | none => []

/-- The tokens that stand at the front of some characters, with their lengths; of two tokens of
one length the first counts.  Escapes are tokens only where no separator was passed, so that the
place is `fresh`. -/
def candidates (fresh : Bool) : List Char → List (Symbol × Nat)
  | [] => []
  | c :: cs =>
    if Identifier.isStart c then
      (if c = 'e' then handlers (c :: cs) else []) ++
        [(Symbol.identifier, countWhile Identifier.isContinue cs 1)]
    else if c.isDigit then
      candidate Symbol.float (floatLength (c :: cs)) ++
        candidate Symbol.integer (integerLength (c :: cs))
    else if c = '#' then
      [(Symbol.comment, countWhile (fun c => c ≠ '\n' && !isNul c) cs 1)]
    else if c = '\\' then
      (if fresh then candidate Symbol.escapeSequence (escapeLength cs) else []) ++
        candidate Symbol.lineContinuation (continuationLength cs) ++
        (if fresh then [(Symbol.loneBackslash, 1)] else [])
    else
      ((operators c).filter (·.1.isPrefixOf cs)).map (fun o => (⟨o.2⟩, o.1.length + 1)) ++
        (if c = '.' then candidate Symbol.float (floatLength (c :: cs)) else []) ++
        (if c = '!' then
          match cs with
          | d :: _ => if 'a' ≤ d && d ≤ 'z' then [(Symbol.typeConversion, 2)] else []
          | [] => []
        else [])

/-- The longest of some tokens that a lexicon has, the first of those that are equally long. -/
def longest? (lexicon : Nat) (tokens : List (Symbol × Nat)) : Option (Symbol × Nat) :=
  tokens.foldl (fun best t =>
    if lexicon.testBit t.1.code then
      match best with
      | some b => if b.2 < t.2 then some t else best
      | none => some t
    else best) none

/-- The lexicon of a format specifier, where all characters but braces and line feeds are text. -/
def isFormatLexicon (lexicon : Nat) : Bool := lexicon.testBit Symbol.formatText.code

/-- How many characters at the front stand between tokens. -/
def separators (lexicon : Nat) (cs : List Char) : Nat :=
  if isFormatLexicon lexicon then countWhile (· = '\n') cs 0 else countWhile isSeparator cs 0

/-- The token of a lexicon at the front of some characters, which are not separators, with its
length. -/
def token? (lexicon : Nat) (fresh : Bool) (cs : List Char) : Option (Symbol × Nat) :=
  match cs with
  | [] => if lexicon.testBit Symbol.endOfText.code then some (Symbol.endOfText, 0) else none
  | c :: _ =>
    if isFormatLexicon lexicon then
      match countWhile (fun c => c ≠ '\x7b' && c ≠ '\x7d' && c ≠ '\n' && !isNul c) cs 0 with
      | 0 => longest? lexicon ((operators c).map fun o => (⟨o.2⟩, o.1.length + 1))
      | n + 1 => some (Symbol.formatText, n + 1)
    else longest? lexicon (candidates fresh cs)

/-- How many characters belong to the beginning of a token where no token stands. -/
def stumble : List Char → Nat
  | '!' :: _ => 1
  | '\\' :: '\r' :: _ => 2
  | '\\' :: _ => 1
  | _ => 0

end CallContext.Lexeme
