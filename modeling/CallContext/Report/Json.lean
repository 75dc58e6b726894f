import CallContext.Model.Sorted

/-!
# JSON

JSON values and their text, compact or on several lines.  Writing puts characters before a rest, so
that the text of a value is a plain fold over the value.
-/

namespace CallContext

/-- A JSON value; numbers are natural. -/
inductive Json where
  | bool (b : Bool)
  | num (n : Nat)
  | str (s : String)
  | arr (items : List Json)
  | obj (members : List (String × Json))

namespace Json

/-- An object with its keys in increasing order; of equal keys the last counts. -/
def sorted (members : List (String × Json)) : Json :=
  obj (sortedSet (fun a b => compare a.1 b.1) members)

/-- An array of strings. -/
def strings (items : List String) : Json := arr (items.map str)

/-! ### Text -/

/-- A hexadecimal digit. -/
def hexDigit (n : Nat) : Char := Char.ofNat (if n < 10 then 48 + n else 87 + n)

/-- Writes a character of a string: quotes, backslashes and control characters are escaped. -/
def writeChar (c : Char) (rest : List Char) : List Char :=
  if c = '"' then '\\' :: '"' :: rest
  else if c = '\\' then '\\' :: '\\' :: rest
  else if c.toNat < 32 then
    if c = '\n' then '\\' :: 'n' :: rest
    else if c = '\t' then '\\' :: 't' :: rest
    else if c = '\r' then '\\' :: 'r' :: rest
    else if c.toNat = 8 then '\\' :: 'b' :: rest
    else if c.toNat = 12 then '\\' :: 'f' :: rest
    else
      '\\' :: 'u' :: '0' :: '0' :: hexDigit (c.toNat / 16) :: hexDigit (c.toNat % 16) :: rest
  else c :: rest

/-- Writes a string in quotes. -/
def writeString (s : String) (rest : List Char) : List Char :=
  '"' :: s.toList.foldr writeChar ('"' :: rest)

/-- Writes a number. -/
def writeNumber (n : Nat) (rest : List Char) : List Char := Nat.toDigits 10 n ++ rest

/-- Writes a truth value. -/
def writeBool (b : Bool) (rest : List Char) : List Char :=
  if b then 't' :: 'r' :: 'u' :: 'e' :: rest else 'f' :: 'a' :: 'l' :: 's' :: 'e' :: rest

mutual

/-- Writes a value without blank space. -/
def write : Json → List Char → List Char
  | bool b, rest => writeBool b rest
  | num n, rest => writeNumber n rest
  | str s, rest => writeString s rest
  | arr items, rest => '[' :: writeItems items (']' :: rest)
  | obj members, rest => '\x7b' :: writeMembers members ('\x7d' :: rest)

/-- Writes values with commas between them. -/
def writeItems : List Json → List Char → List Char
  | [], rest => rest
  | [v], rest => write v rest
  | v :: vs, rest => write v (',' :: writeItems vs rest)

/-- Writes the members of an object with commas between them. -/
def writeMembers : List (String × Json) → List Char → List Char
  | [], rest => rest
  | [(key, v)], rest => writeString key (':' :: write v rest)
  | (key, v) :: more, rest => writeString key (':' :: write v (',' :: writeMembers more rest))

end

/-- Begins a line at a depth. -/
def newLine (depth : Nat) (rest : List Char) : List Char :=
  '\n' :: (List.replicate (2 * depth) ' ' ++ rest)

mutual

/-- Writes a value on several lines, at a depth; empty arrays and objects stay on one. -/
def writePretty (depth : Nat) : Json → List Char → List Char
  | bool b, rest => writeBool b rest
  | num n, rest => writeNumber n rest
  | str s, rest => writeString s rest
  | arr [], rest => '[' :: ']' :: rest
  | arr (v :: vs), rest =>
    '[' :: newLine (depth + 1)
      (writePretty (depth + 1) v (writePrettyItems (depth + 1) vs (newLine depth (']' :: rest))))
  | obj [], rest => '\x7b' :: '\x7d' :: rest
  | obj ((key, v) :: more), rest =>
    '\x7b' :: newLine (depth + 1) (writeString key (':' :: ' ' ::
      writePretty (depth + 1) v
        (writePrettyMembers (depth + 1) more (newLine depth ('\x7d' :: rest)))))

/-- Writes values on lines of their own, each behind a comma. -/
def writePrettyItems (depth : Nat) : List Json → List Char → List Char
  | [], rest => rest
  | v :: vs, rest =>
    ',' :: newLine depth (writePretty depth v (writePrettyItems depth vs rest))

/-- Writes members on lines of their own, each behind a comma. -/
def writePrettyMembers (depth : Nat) : List (String × Json) → List Char → List Char
  | [], rest => rest
  | (key, v) :: more, rest =>
    ',' :: newLine depth (writeString key (':' :: ' ' ::
      writePretty depth v (writePrettyMembers depth more rest)))

end

/-- The text of a value without blank space. -/
def compact (v : Json) : String := String.ofList (v.write [])

/-- The text of a value on several lines. -/
def pretty (v : Json) : String := String.ofList (v.writePretty 0 [])

end Json

end CallContext
