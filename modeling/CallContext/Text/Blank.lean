/-!
# Blank characters

The characters of the Unicode property `White_Space`, and cutting at the ends of a text.
-/

namespace CallContext

/-- A character of the Unicode property `White_Space`. -/
def isBlank (c : Char) : Bool :=
  let n := c.toNat
  (9 ≤ n && n ≤ 13) || n = 0x20 || n = 0x85 || n = 0xa0 || n = 0x1680 ||
    (0x2000 ≤ n && n ≤ 0x200a) || n = 0x2028 || n = 0x2029 || n = 0x202f || n = 0x205f ||
    n = 0x3000

/-- Cuts the characters with a property off at both ends. -/
def trimEnds (p : Char → Bool) (cs : List Char) : List Char :=
  ((cs.dropWhile p).reverse.dropWhile p).reverse

/-- Cuts the blank characters off at both ends. -/
def trimBlanks (s : String) : String := String.ofList (trimEnds isBlank s.toList)

end CallContext
