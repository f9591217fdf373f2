import MissionControl.Text.Printable

/-!
# Quoted texts and characters

The error messages of the library show a text or a single character in quotes. Inside the
quotes a printable character stands for itself, except the quote character itself and the
backslash, which are preceded by a backslash. The controls bell, backspace, form feed, line
feed, carriage return, tab and vertical tab have their one-letter escapes. Any other control
below U+0020, and U+007F, is written `\xHH`; any other character that is not printable is
written `\uHHHH` below U+10000 and `\UHHHHHHHH` above. Hexadecimal digits are lower case.

A text is quoted with double quotes (`quote`); a single character with single quotes
(`quoteChar`).
-/

namespace MissionControl

namespace Text

/-- The lower-case hexadecimal digits of `n`, padded with zeros to `width` digits. -/
def hexPadded (width n : Nat) : String :=
  let ds := Nat.toDigits 16 n
  String.ofList (List.replicate (width - ds.length) '0' ++ ds)

/-- How a character is written between quotes `q`. -/
def escapeIn (q : Char) (c : Char) : String :=
  if c = q || c = '\\' then "\\" ++ c.toString
  else if isPrintable c then c.toString
  else if c.val = 7 then "\\a"
  else if c.val = 8 then "\\b"
  else if c.val = 12 then "\\f"
  else if c.val = 10 then "\\n"
  else if c.val = 13 then "\\r"
  else if c.val = 9 then "\\t"
  else if c.val = 11 then "\\v"
  else if c.val < 0x20 || c.val = 0x7F then "\\x" ++ hexPadded 2 c.val.toNat
  else if c.val < 0x10000 then "\\u" ++ hexPadded 4 c.val.toNat
  else "\\U" ++ hexPadded 8 c.val.toNat

/-- A text in double quotes. -/
def quote (s : String) : String :=
  "\"" ++ String.join (s.toList.map (escapeIn '"')) ++ "\""

/-- A character in single quotes. -/
def quoteChar (c : Char) : String :=
  "'" ++ escapeIn '\'' c ++ "'"

end Text

end MissionControl
