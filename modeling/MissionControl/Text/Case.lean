/-!
# Lower case against ASCII words

Some words of the configuration (log levels) are compared with a text after lower-casing it.
A lower-cased character can only equal an ASCII letter if its simple lower-case mapping is
ASCII: that holds of the ASCII capitals, of U+0130 (capital I with dot above, whose lower case
is `i`) and of U+212A (the Kelvin sign, whose lower case is `k`). `lowerForAscii` maps exactly
those and leaves every other character alone, which decides every comparison of a lower-cased
text with an ASCII word the same way full lower-casing does.
-/

namespace MissionControl

namespace Text

/-- The lower case of a character whose simple lower-case mapping is ASCII; any other
character is returned unchanged. -/
def lowerForAscii (c : Char) : Char :=
  if 'A' ≤ c && c ≤ 'Z' then Char.ofNat (c.toNat + 32)
  else if c.val = 0x130 then 'i'
  else if c.val = 0x212A then 'k'
  else c

/-- A text lower-cased for comparison with ASCII words. -/
def lowerAscii (s : String) : String := String.ofList (s.toList.map lowerForAscii)

end Text

end MissionControl
