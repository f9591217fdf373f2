/-!
# White space

The white space of the Unicode character database: the ASCII tab, line feed, vertical tab,
form feed, carriage return and space, the next-line control U+0085, the no-break space U+00A0,
the Ogham space mark U+1680, the spaces U+2000 to U+200A, the line and paragraph separators
U+2028 and U+2029, the narrow no-break space U+202F, the medium mathematical space U+205F and
the ideographic space U+3000. Trimming drops such characters from both ends of a text.
-/

namespace MissionControl

namespace Text

/-- Whether a character is Unicode white space. -/
def isBlank (c : Char) : Bool :=
  let n := c.val.toNat
  (0x09 ≤ n && n ≤ 0x0D) || n = 0x20 || n = 0x85 || n = 0xA0 || n = 0x1680 ||
    (0x2000 ≤ n && n ≤ 0x200A) || n = 0x2028 || n = 0x2029 || n = 0x202F || n = 0x205F ||
    n = 0x3000

/-- The characters of a text without its leading and trailing white space. -/
def trimChars (cs : List Char) : List Char :=
  ((cs.dropWhile isBlank).reverse.dropWhile isBlank).reverse

/-- A text without its leading and trailing white space. -/
def trim (s : String) : String := String.ofList (trimChars s.toList)

end Text

end MissionControl
