import MissionControl.Toml.Lex
import MissionControl.Text.Letter
import MissionControl.Number.Decimal

/-!
# TOML numbers, date-times and booleans

A number is read in two stages: first a token of number-like characters is taken, then the
token is judged. This makes the accepted texts exactly the following.

* An integer: an optional sign and decimal digits without a leading zero, or (unsigned)
  `0x`, `0o` or `0b` and digits of that base. Underscores may stand only between two digits.
  The value must fit in 64 signed bits.
* A float: a decimal integer part followed by a fraction (`.` and digits) and/or an exponent
  (`e` or `E`, an optional sign, digits), underscores as for integers in each piece; or `inf`
  and `nan` with an optional sign. A finite float must not overflow the range of doubles.
* A date-time: a run starting with digits and holding only digits, `- : T t Z z + .` and spaces
  once a `-` or `:` follows the leading digits; trailing spaces are dropped. It must be a
  local date `YYYY-MM-DD`, a local time `hh:mm`, or `hh:mm:ss` with an optional fraction, a
  local date-time (date, `T` or a space, time), or an offset date-time (a local date-time and
  `Z` or `±hh:mm`), with the day within its month and the hour, minute and second in range.

A boolean is the word `true` or `false`; any other word is refused.

Taking a token refuses only a sign before a base prefix or before something that is not a digit,
a base letter without a digit of its base, and an incomplete `inf` or `nan` after a sign. Every
other problem is found by judging the token, which reports, in this order, misplaced
underscores, a leading zero, a point without digits after it, a float that does not read, and a
value out of range; a date-time that is none of the four kinds is shown with `T` for its
separator and upper-case letters.

A value starting with `i` or `n` is tried as `inf` or `nan` first, one character at a time:
`in` must go on with `f`, otherwise `an` is tried at the same place (so `nan` reads, and so do
some other three- and four-letter runs that judging then refuses). When neither goes through,
the value is read as a word from the last place the attempt had reached.
-/

namespace MissionControl

namespace Toml

/-- A number-like token, before it is judged. -/
inductive NumberToken where
  | integer (text : List Char)
  | float (text : List Char)
  | datetime (text : List Char)
  deriving Inhabited

/-- Whether a character may continue a float token. -/
def isFloatChar (c : Char) : Bool :=
  c.isDigit || c == '_' || c == '.' || c == '-' || c == '+' || c == 'e' || c == 'E'

/-- Whether a character may continue a date-time token. -/
def isDatetimeChar (c : Char) : Bool :=
  c.isDigit || c == '-' || c == ':' || c == 'T' || c == 't' || c == ' ' || c == '.' ||
    c == 'Z' || c == 'z' || c == '+'

/-- After the integer part `tok` of a decimal: a float if a point or an exponent follows. -/
def afterDecimal (tok : List Char) (cs : List Char) : NumberToken × List Char :=
  match cs with
  | c :: _ =>
    if c == '.' || c == 'e' || c == 'E' then
      let (f, rest) := cs.span isFloatChar
      (.float (tok ++ f), rest)
    else (.integer tok, cs)
  | [] => (.integer tok, [])

/-- A decimal number once an underscore or a sign has ruled out a date-time. -/
def decimalNumber (tok : List Char) (cs : List Char) : NumberToken × List Char :=
  let (more, rest) := cs.span fun c => c.isDigit || c == '_'
  afterDecimal (tok ++ more) rest

/-- The digits of an unsigned number that may still turn out to be a date-time. -/
def numberOrDate (tok : List Char) (cs : List Char) : NumberToken × List Char :=
  let (ds, rest) := cs.span Char.isDigit
  let tok := tok ++ ds
  match rest with
  | c :: more =>
    if c == '-' || c == ':' then
      let (d, after) := more.span isDatetimeChar
      (.datetime ((tok ++ c :: d).reverse.dropWhile (· == ' ')).reverse, after)
    else if c == '_' then decimalNumber (tok ++ ['_']) more
    else afterDecimal tok rest
  | [] => (.integer tok, [])

/-- Whether a character is a digit of base `b` (2, 8 or 16). -/
def isBaseDigit (b : Char) (c : Char) : Bool :=
  if b == 'b' then c == '0' || c == '1'
  else if b == 'o' then '0' ≤ c && c ≤ '7'
  else isHexDigit c

/-- A number token starting with `0`, the rest after that zero. A base letter must be followed
by a digit of its base; otherwise the message shows the prefix and the character after it. -/
def zeroToken : Step NumberToken
  | [] => .ok (.integer ['0'], [])
  | c :: more =>
    if c.isDigit then .ok (numberOrDate ['0'] (c :: more))
    else if c == '_' then .ok (decimalNumber ['0', '_'] more)
    else if c == 'b' || c == 'o' || c == 'x' then
      if (more.head?.map (isBaseDigit c)).getD false then
        let (ds, rest) := more.span fun x => isBaseDigit c x || x == '_'
        .ok (.integer ('0' :: c :: ds), rest)
      else
        let kind := if c == 'b' then "a binary" else if c == 'o' then "an octal" else "a hexadecimal"
        fault ("not " ++ kind ++ " number: '0" ++ c.toString ++ shownNext more ++ "'") (.before more)
    else .ok (afterDecimal ['0'] (c :: more))

/-- A number token after its sign. -/
def signedToken (sign : Char) : Step NumberToken
  | 'i' :: rest =>
    match rest with
    | 'n' :: 'f' :: more => .ok (.float [sign, 'i', 'n', 'f'], more)
    | 'n' :: more => fault ("invalid float: '" ++ String.ofList [sign, 'i', 'n'] ++ "'") (.before more)
    | _ => fault ("invalid float: '" ++ String.ofList [sign, 'i'] ++ "'") (.before rest)
  | 'n' :: rest =>
    match rest with
    | 'a' :: 'n' :: more => .ok (.float [sign, 'n', 'a', 'n'], more)
    | 'a' :: more => fault ("invalid float: '" ++ String.ofList [sign, 'n', 'a'] ++ "'") (.before more)
    | _ => fault ("invalid float: '" ++ String.ofList [sign, 'n'] ++ "'") (.before rest)
  | '.' :: rest => fault "floats must start with a digit, not '.'" (.before rest)
  | c :: rest =>
    let base := match rest with
      | b :: _ => c == '0' && (b == 'b' || b == 'o' || b == 'x')
      | [] => false
    if base then
      fault ("cannot use sign with non-decimal numbers: '" ++ String.ofList [sign, '0'] ++
        shownNext rest ++ "'") (.before rest)
    else if c.isDigit then .ok (decimalNumber [sign, c] rest)
    else fault ("expected a digit but got " ++ Text.quoteChar c) (.before rest)
  | [] => fault "expected a digit but got '\\x00'" .pastEnd

/-- Whether underscores stand only between digits, given whether the character before may
precede one; the text must end with a digit. -/
def underscoresBetween : Bool → List Char → Bool
  | ok, [] => ok
  | ok, c :: rest => if c == '_' && !ok then false else underscoresBetween (isHexDigit c) rest

/-- The special float words, which carry no digits. -/
def specialWords : List (List Char) :=
  ["nan", "+nan", "-nan", "inf", "+inf", "-inf"].map String.toList

/-- Whether the underscores of a numeral are placed well. -/
def underscoresOk (s : List Char) : Bool :=
  specialWords.contains s || underscoresBetween false s

/-- Whether a numeral has a leading zero (a base prefix is not one). -/
def hasLeadingZero : List Char → Bool
  | '0' :: c :: _ => !"bBoOxX".toList.contains c
  | s :: '0' :: _ :: _ => s == '-' || s == '+'
  | _ => false

/-- The value of digits in a base. -/
def digitsIn (base : Nat) (ds : List Char) : Nat :=
  ds.foldl (fun acc c => acc * base + hexDigitValue c) 0

/-- A judged integer token: its value, or why it is refused. -/
def judgeInteger (tok : List Char) : Except String Int :=
  let shown := Text.quote (String.ofList tok)
  if !underscoresOk tok then
    .error ("Invalid integer " ++ shown ++ ": underscores must be surrounded by digits")
  else if hasLeadingZero tok then .error ("Invalid integer " ++ shown ++ ": cannot have leading zeroes")
  else
    let cs := tok.filter (· != '_')
    let (neg, body) := Number.splitSign cs
    let mag := match body with
      | '0' :: 'x' :: ds => digitsIn 16 ds
      | '0' :: 'o' :: ds => digitsIn 8 ds
      | '0' :: 'b' :: ds => digitsIn 2 ds
      | ds => digitsIn 10 ds
    if neg && mag ≤ Nat.pow 2 63 then .ok (-(mag : Int))
    else if !neg && mag < Nat.pow 2 63 then .ok (mag : Int)
    else .error (String.ofList tok ++ " is out of range for int64")

/-- The pieces of a float between its points and exponent letters, empty pieces left out. -/
def floatPieces (cs : List Char) : List (List Char) :=
  (cs.splitBy fun a _ => !(a == '.' || a == 'e' || a == 'E')).filterMap fun piece =>
    let body := piece.filter fun c => !(c == '.' || c == 'e' || c == 'E')
    if body.isEmpty then none else some body

/-- Whether every point of a float is followed by a digit. -/
def pointsOk : List Char → Bool
  | [] => true
  | '.' :: rest => (rest.head?.map Char.isDigit).getD false && pointsOk rest
  | _ :: rest => pointsOk rest

/-- A judged float token: why it is refused, if it is. -/
def judgeFloat (tok : List Char) : Except String Unit :=
  let shown := Text.quote (String.ofList tok)
  if specialWords.contains tok then .ok ()
  else
    let pieces := floatPieces tok
    if !pieces.all underscoresOk then
      .error ("Invalid float " ++ shown ++ ": underscores must be surrounded by digits")
    else if (pieces.head?.map hasLeadingZero).getD false then
      .error ("Invalid float " ++ shown ++ ": cannot have leading zeroes")
    else if !pointsOk tok then
      .error ("Invalid float " ++ shown ++ ": '.' must be followed by one or more digits")
    else
      match Number.parseDecimal? (Number.splitSign (tok.filter (· != '_'))).2 with
      | some (m, e) =>
        if (Number.scaledFloat m e).isInf then .error (String.ofList tok ++ " is out of range for float64")
        else .ok ()
      | none => .error ("Invalid float value: " ++ shown)

/-- The value of two decimal digits. -/
def twoDigits? : List Char → Option (Nat × List Char)
  | a :: b :: rest =>
    if a.isDigit && b.isDigit then some ((a.toNat - 48) * 10 + (b.toNat - 48), rest) else none
  | _ => none

/-- The number of days in a month of a year. -/
def daysIn (month year : Nat) : Nat :=
  if month == 2 then (if year % 4 == 0 && (year % 100 != 0 || year % 400 == 0) then 29 else 28)
  else if month == 4 || month == 6 || month == 9 || month == 11 then 30 else 31

/-- A valid date `YYYY-MM-DD` at the front. -/
def date? : List Char → Option (List Char)
  | y1 :: y2 :: y3 :: y4 :: '-' :: m1 :: m2 :: '-' :: d1 :: d2 :: rest =>
    if [y1, y2, y3, y4].all Char.isDigit then
      let year := digitsIn 10 [y1, y2, y3, y4]
      match twoDigits? [m1, m2], twoDigits? [d1, d2] with
      | some (m, _), some (d, _) =>
        if 1 ≤ m && m ≤ 12 && 1 ≤ d && d ≤ daysIn m year then some rest else none
      | _, _ => none
    else none
  | _ => none

/-- Valid seconds `:ss`, with an optional fraction, at the front; none at all is valid too. -/
def seconds? : List Char → Option (List Char)
  | ':' :: s1 :: s2 :: rest =>
    match twoDigits? [s1, s2] with
    | some (s, _) =>
      if s < 60 then
        match rest with
        | '.' :: d :: more => if d.isDigit then some (more.dropWhile Char.isDigit) else some rest
        | _ => some rest
      else none
    | none => none
  | rest => some rest

/-- A valid time `hh:mm`, with optional seconds, at the front. -/
def time? : List Char → Option (List Char)
  | h1 :: h2 :: ':' :: m1 :: m2 :: rest =>
    match twoDigits? [h1, h2], twoDigits? [m1, m2] with
    | some (h, _), some (m, _) => if h < 24 && m < 60 then seconds? rest else none
    | _, _ => none
  | _ => none

/-- Whether a text is exactly a valid offset `Z` or `±hh:mm`. -/
def offsetOk : List Char → Bool
  | ['Z'] => true
  | [s, h1, h2, ':', m1, m2] =>
    (s == '+' || s == '-') &&
      match twoDigits? [h1, h2], twoDigits? [m1, m2] with
      | some (h, _), some (m, _) => h ≤ 24 && m ≤ 60
      | _, _ => false
  | _ => false

/-- Whether a date-time token is a valid date-time of one of the four kinds. -/
def datetimeOk (tok : List Char) : Bool :=
  let s := tok.map fun c => if c == 'z' then 'Z' else if c == 't' || c == ' ' then 'T' else c
  let dateTime : Option (List Char) := match date? s with
    | some ('T' :: rest) => time? rest
    | _ => none
  (match dateTime with
    | some rest => rest.isEmpty || offsetOk rest
    | none => false) ||
  date? s == some [] || time? s == some []

/-- A date-time token as messages show it: `T` for its separator, upper-case letters. -/
def shownDatetime (tok : List Char) : String :=
  String.ofList (tok.map fun c => if c == 'z' then 'Z' else if c == 't' || c == ' ' then 'T' else c)

/-- A judged date-time token: why it is refused, if it is. -/
def judgeDatetime (tok : List Char) : Except String Unit :=
  if datetimeOk tok then .ok () else .error ("invalid datetime: " ++ Text.quote (shownDatetime tok))

/-- A judged token as a value; `rest` follows the token, where a refusal is reported. -/
def judgeToken (tok : NumberToken) (rest : List Char) : Except Fault (Value × List Char) :=
  let refuse {α : Type} (m : String) : Except Fault α := fault m (.before rest)
  match tok with
  | .integer t =>
    match judgeInteger t with
    | .ok n => .ok (.integer n, rest)
    | .error m => refuse m
  | .float t =>
    match judgeFloat t with
    | .ok () => .ok (.float (String.ofList t), rest)
    | .error m => refuse m
  | .datetime t =>
    match judgeDatetime t with
    | .ok () => .ok (.datetime (String.ofList t), rest)
    | .error m => refuse m

/-- A word at the front: `true` or `false`, or refused with the word shown. -/
def wordValue (cs : List Char) : Except Fault (Value × List Char) :=
  let word := cs.takeWhile Text.isLetter
  let rest := cs.drop word.length
  if word == "true".toList then .ok (.boolean true, rest)
  else if word == "false".toList then .ok (.boolean false, rest)
  else fault ("expected value but found " ++ Text.quote (String.ofList word) ++ " instead") (.before rest)

/-- A value whose first character `c` is `i` or `n`, the rest after it. -/
def infOrNan (c : Char) (rest : List Char) : Except Fault (Value × List Char) :=
  match rest with
  | 'n' :: 'f' :: more => judgeToken (.float [c, 'n', 'f']) more
  | 'n' :: 'a' :: 'n' :: more => judgeToken (.float [c, 'n', 'a', 'n']) more
  | 'n' :: 'a' :: more => wordValue ('a' :: more)
  | 'n' :: more => wordValue ('n' :: more)
  | 'a' :: 'n' :: more => judgeToken (.float [c, 'a', 'n']) more
  | 'a' :: more => wordValue ('a' :: more)
  | _ => wordValue (c :: rest)

/-- A value that is neither an array nor an inline table, from its first character: a
string, a number, a date-time or a boolean. -/
def scalar : Step Value
  | [] => fault "unexpected EOF; expected value" .pastEnd
  | c :: rest =>
    if c.isDigit then do
      let (tok, more) ← if c == '0' then zeroToken rest else .ok (numberOrDate [c] rest)
      judgeToken tok more
    else if c == '"' || c == '\'' then do
      let (s, more) ← stringValue (c :: rest)
      pure (.string s, more)
    else if c == '+' || c == '-' then do
      let (tok, more) ← signedToken c rest
      judgeToken tok more
    else if c == '.' then fault "floats must start with a digit, not '.'" (.before rest)
    else if c == 'i' || c == 'n' then infOrNan c rest
    else if Text.isLetter c then wordValue (c :: rest)
    else fault ("expected value but found " ++ Text.quoteChar c ++ " instead") (.before rest)

end Toml

end MissionControl
