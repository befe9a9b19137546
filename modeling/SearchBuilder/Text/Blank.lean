/-!
# White space

The characters that count as white space at the ends of a setting, and the trimming of texts. The
set is that of Unicode's white space together with the four separators U+001C to U+001F; the
zero-width space U+200B is not in it.
-/

namespace SearchBuilder

/-- Whether a character is white space. -/
def isBlank (c : Char) : Bool :=
  let n := c.toNat
  (0x09 ≤ n && n ≤ 0x0D) || (0x1C ≤ n && n ≤ 0x20) || n = 0x85 || n = 0xA0 || n = 0x1680 ||
    (0x2000 ≤ n && n ≤ 0x200A) || n = 0x2028 || n = 0x2029 || n = 0x202F || n = 0x205F ||
    n = 0x3000

/-- Drops the characters that satisfy `p` from the end of a text. -/
def trimRight (p : Char → Bool) (s : List Char) : List Char := (s.reverse.dropWhile p).reverse

/-- Drops the characters that satisfy `p` from both ends of a text. -/
def trimBoth (p : Char → Bool) (s : List Char) : List Char := trimRight p (s.dropWhile p)

/-- Drops white space from both ends of a text. -/
def stripBlanks (s : String) : String := String.ofList (trimBoth isBlank s.toList)

end SearchBuilder
