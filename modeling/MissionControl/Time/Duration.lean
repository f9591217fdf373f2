/-!
# Durations

A duration is a signed count of nanoseconds that fits in 64 bits.

**Writing.** Zero is `0s`. Below one second a duration is written in the largest of the units
`ns`, `µs`, `ms` that it reaches, as a decimal with the trailing zeros of its fraction dropped
(`1.5µs`, `999ms`). From one second on it is written in hours, minutes and seconds, where the
hours appear only when there are any, the minutes whenever there are hours or minutes, and the
seconds always, again as a decimal without trailing zeros (`1m0s`, `25h1m1.000000001s`).

**Reading.** A duration is an optional sign and then one or more terms; each term is a decimal
number (digits, a point, digits, with at least one digit) followed by a unit among `ns`, `us`,
`µs` (micro sign or Greek mu), `ms`, `s`, `m`, `h`. The text `0` alone is zero. The fraction
of a term is converted through a double, as a count of nanoseconds of its unit scaled by a
power of ten, and truncated. Sums that leave the 64-bit range are refused.
-/

namespace MissionControl

/-- A signed count of nanoseconds. -/
structure Duration where
  nanos : Int
  deriving BEq, Repr, Inhabited

namespace Duration

/-- Nanoseconds in a microsecond, millisecond, second, minute and hour. -/
def microsecond : Nat := 1000
def millisecond : Nat := 1000000
def second : Nat := 1000000000
def minute : Nat := 60 * second
def hour : Nat := 60 * minute

/-- The fraction `u / 10^prec` as `.ddd` without trailing zeros (nothing when it is zero),
and the integer part. -/
def fraction (u : Nat) (prec : Nat) : String × Nat :=
  let scale := Nat.pow 10 prec
  let frac := u % scale
  let digits := (Nat.toDigits 10 frac)
  let padded := List.replicate (prec - digits.length) '0' ++ digits
  let trimmed := (padded.reverse.dropWhile (· = '0')).reverse
  ((if trimmed.isEmpty then "" else "." ++ String.ofList trimmed), u / scale)

/-- The text of a count of nanoseconds, without its sign. -/
def magnitudeText (u : Nat) : String :=
  if u = 0 then "0s"
  else if u < microsecond then toString u ++ "ns"
  else if u < millisecond then
    let (f, w) := fraction u 3
    toString w ++ f ++ "µs"
  else if u < second then
    let (f, w) := fraction u 6
    toString w ++ f ++ "ms"
  else
    let (f, secs) := fraction u 9
    let mins := secs / 60
    let hours := mins / 60
    let tail := toString (secs % 60) ++ f ++ "s"
    if mins = 0 then tail
    else if hours = 0 then toString (mins % 60) ++ "m" ++ tail
    else toString hours ++ "h" ++ toString (mins % 60) ++ "m" ++ tail

/-- The text of a duration. -/
def text (d : Duration) : String :=
  (if d.nanos < 0 then "-" else "") ++ magnitudeText d.nanos.natAbs

/-- Why a text is not a duration. -/
inductive ReadError where
  | invalid (text : String)
  | missingUnit (text : String)
  | unknownUnit (unit : String) (text : String)
  deriving BEq, Repr

/-- A text in double quotes as durations show it: the quote and the backslash are preceded by
a backslash, and each byte of a control or non-ASCII character is written `\xHH`. -/
def quoteText (s : String) : String :=
  let hex (b : Nat) : String := String.ofList [Nat.digitChar (b / 16), Nat.digitChar (b % 16)]
  let one (c : Char) : String :=
    if c.val < 0x20 || c.val ≥ 0x80 then
      String.join ((String.singleton c).toUTF8.toList.map fun b => "\\x" ++ hex b.toNat)
    else if c = '"' || c = '\\' then "\\" ++ c.toString
    else c.toString
  "\"" ++ String.join (s.toList.map one) ++ "\""

/-- The message of a reading error. -/
def ReadError.message : ReadError → String
  | .invalid t => "time: invalid duration " ++ quoteText t
  | .missingUnit t => "time: missing unit in duration " ++ quoteText t
  | .unknownUnit u t => "time: unknown unit " ++ quoteText u ++ " in duration " ++ quoteText t

/-- Nanoseconds in one of the units of a term. -/
def unitNanos? (u : String) : Option Nat :=
  if u = "ns" then some 1
  else if u = "us" || u = "µs" || u = "μs" then some microsecond
  else if u = "ms" then some millisecond
  else if u = "s" then some second
  else if u = "m" then some minute
  else if u = "h" then some hour
  else none

/-- The limit of a 64-bit count: `2^63`. -/
def limit : Nat := Nat.pow 2 63

/-- The leading digits as an integer, refused when it passes `2^63`. -/
def leadingInt : List Char → Nat → Option (Nat × List Char)
  | c :: rest, x =>
    if c.isDigit then
      if x > limit / 10 then none
      else
        let y := x * 10 + (c.toNat - '0'.toNat)
        if y > limit then none else leadingInt rest y
    else some (x, c :: rest)
  | [], x => some (x, [])

/-- The leading digits of a fraction: their value while it stays below `2^63`, the power of
ten that divides it (as a double), and the rest of the text; digits past that precision are
skipped. -/
def leadingFraction : List Char → Nat → Float → Bool → Nat × Float × List Char
  | c :: rest, x, scale, saturated =>
    if c.isDigit then
      if saturated then leadingFraction rest x scale true
      else if x > (limit - 1) / 10 then leadingFraction rest x scale true
      else
        let y := x * 10 + (c.toNat - '0'.toNat)
        if y > limit then leadingFraction rest x scale true
        else leadingFraction rest y (scale * 10) false
    else (x, scale, c :: rest)
  | [], x, scale, _ => (x, scale, [])

/-- Whether a character ends the unit of a term. -/
def endsUnit (c : Char) : Bool := c = '.' || c.isDigit

/-- The terms of a duration after its sign, added to `acc`. The fuel is the length of the
text: every term consumes at least one character. -/
def readTerms (orig : String) : Nat → List Char → Nat → Except ReadError Nat
  | _, [], acc => .ok acc
  | 0, _, _ => .error (.invalid orig)
  | fuel + 1, cs, acc => do
    let c := cs.headD ' '
    if !(c = '.' || c.isDigit) then throw (.invalid orig)
    let some (v, rest) := leadingInt cs 0 | throw (.invalid orig)
    let pre := rest.length != cs.length
    let (f, scale, rest, post) := match rest with
      | '.' :: more =>
        let (f, scale, after) := leadingFraction more 0 1.0 false
        (f, scale, after, after.length != more.length)
      | _ => (0, 1.0, rest, false)
    if !pre && !post then throw (.invalid orig)
    let unitChars := rest.takeWhile (fun c => !endsUnit c)
    let rest := rest.dropWhile (fun c => !endsUnit c)
    if unitChars.isEmpty then throw (.missingUnit orig)
    let unitText := String.ofList unitChars
    let some unit := unitNanos? unitText | throw (.unknownUnit unitText orig)
    if v > limit / unit then throw (.invalid orig)
    let v := v * unit
    let v := if f > 0 then
        v + (Float.ofNat f * (Float.ofNat unit / scale)).toUInt64.toNat
      else v
    if v > limit then throw (.invalid orig)
    let acc := acc + v
    if acc > limit then throw (.invalid orig)
    readTerms orig fuel rest acc

/-- Reads a duration. -/
def parse (s : String) : Except ReadError Duration := do
  let cs := s.toList
  let (neg, rest) := match cs with
    | '-' :: more => (true, more)
    | '+' :: more => (false, more)
    | _ => (false, cs)
  if rest = ['0'] then return ⟨0⟩
  if rest.isEmpty then throw (.invalid s)
  let d ← readTerms s rest.length rest 0
  if neg then return ⟨-(d : Int)⟩
  if d > limit - 1 then throw (.invalid s)
  return ⟨d⟩

end Duration

/-- How long a run goes on by itself: it ends within a bounded time, or it goes on until
something outside stops it. -/
inductive Span where
  | within (d : Duration)
  | endless
  deriving BEq, Inhabited

/-- Whether a run of this span is still going after `limit`. -/
def Span.outlasts (s : Span) (limit : Duration) : Bool :=
  match s with
  | .within d => d.nanos ≥ limit.nanos
  | .endless => true

end MissionControl
