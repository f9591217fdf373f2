/-!
# Reading numbers from text

Integers are read in base ten with an optional sign and at least one digit, nothing else.

Doubles are read in the syntax of floating-point literals: an optional sign, then either one
of the special words (`inf` or `infinity` with an optional sign, `nan` without one, in any
letter case), a decimal, or a hexadecimal number. A decimal has digits with an optional point
(a digit on at least one side of it) and an optional exponent `e` with an optional sign and
digits. A hexadecimal number starts with `0x`, has hexadecimal digits with an optional point
and must end with a binary exponent `p`. Underscores may separate digits, and may follow a
`0x` prefix; anywhere else they are refused.

The value is rounded to the nearest double, ties to even, with the subnormal doubles below
the normal ones. A value that rounds beyond the largest double is refused; one that rounds
below the least subnormal is zero. An exponent stops growing once it passes 10000, which
only decides values that are infinite or zero either way.
-/

namespace MissionControl

namespace Number

/-- The value of a non-empty run of decimal digits. -/
def digitsValue? (ds : List Char) : Option Nat :=
  if ds.isEmpty || !ds.all Char.isDigit then none
  else some (ds.foldl (fun acc c => acc * 10 + (c.toNat - '0'.toNat)) 0)

/-- An optional sign at the front: whether it is a minus, and the rest. -/
def splitSign (cs : List Char) : Bool × List Char :=
  match cs with
  | '-' :: rest => (true, rest)
  | '+' :: rest => (false, rest)
  | _ => (false, cs)

/-- A base-ten integer with an optional sign. -/
def parseInt? (s : String) : Option Int := do
  let (neg, rest) := splitSign s.toList
  let n ← digitsValue? rest
  pure (if neg then -(n : Int) else n)

/-- The double nearest to `m · 2^k`, ties to even; infinite beyond the largest double.

The last bit kept is the 53rd from the leading one, or the bit of `2^-1074` when that lies
higher (the subnormal range). When no bit below it is set the value is a double already;
otherwise the dropped bits are compared with half a unit of the last place. The kept
significand is at most `2^53`, so it and its scaling are exact. -/
def nearestBinary (m : Nat) (k : Int) : Float :=
  if m = 0 then 0.0
  else
    let low : Int := max ((m.log2 : Int) + k - 52) (-1074)
    if low ≤ k then (Float.ofNat m).scaleB k
    else
      let d := (low - k).toNat
      let q := m >>> d
      let r := m % Nat.pow 2 d
      let half := Nat.pow 2 (d - 1)
      let q' := if r > half || (r == half && q % 2 == 1) then q + 1 else q
      (Float.ofNat q').scaleB low

/-- The double nearest to `n · 10^e`, ties to even. A decimal beyond the range of doubles is
settled without computing its power of ten: from `10^310` on it is infinite, below `10^-330`
zero. A negative power divides with at least 55 bits of quotient, and a nonzero remainder is
kept as one more bit below them, which decides every tie. -/
def scaledFloat (n : Nat) (e : Int) : Float :=
  let size := ((Nat.toDigits 10 n).length : Int) + e
  if n = 0 then 0.0
  else if size > 310 then 1.0 / 0.0
  else if size < -330 then 0.0
  else if 0 ≤ e then nearestBinary (n * Nat.pow 10 e.toNat) 0
  else
    let den := Nat.pow 10 e.natAbs
    let s := 56 + den.log2 - n.log2
    let q := (n <<< s) / den
    let sticky := if (n <<< s) % den = 0 then 0 else 1
    nearestBinary (2 * q + sticky) (-((s : Int) + 1))

/-- A decimal `digits[.digits][e[sign]digits]` as a mantissa and a power of ten. -/
def parseDecimal? (cs : List Char) : Option (Nat × Int) := do
  let whole := cs.takeWhile Char.isDigit
  let rest := cs.dropWhile Char.isDigit
  let (frac, rest) := match rest with
    | '.' :: more => (more.takeWhile Char.isDigit, more.dropWhile Char.isDigit)
    | _ => ([], rest)
  if whole.isEmpty && frac.isEmpty then none
  else
    let expo ← match rest with
      | [] => some (0 : Int)
      | e :: more =>
        if e = 'e' || e = 'E' then
          let (neg, ds) := splitSign more
          (digitsValue? ds).map fun n => if neg then -(n : Int) else n
        else none
    let mant := (whole ++ frac).foldl (fun acc c => acc * 10 + (c.toNat - '0'.toNat)) 0
    pure (mant, expo - frac.length)

/-- The lower case of an ASCII text. -/
def asciiLower (cs : List Char) : List Char := cs.map Char.toLower

/-- The value of a digit in base 10, or in base 16 when `hex` holds. -/
def digitIn (hex : Bool) (c : Char) : Option Nat :=
  if c.isDigit then some (c.toNat - '0'.toNat)
  else if hex && 'a' ≤ c.toLower && c.toLower ≤ 'f' then some (c.toLower.toNat - 'a'.toNat + 10)
  else none

/-- What came last while underscores are checked. -/
inductive Last where
  | start | digit | underscore | other
  deriving BEq

/-- Whether underscores stand only between digits, scanning from what came last. -/
def underscoresBetween (hex : Bool) : Last → List Char → Bool
  | last, [] => last != .underscore
  | last, c :: rest =>
    if (digitIn hex c).isSome then underscoresBetween hex .digit rest
    else if c == '_' then last == .digit && underscoresBetween hex .underscore rest
    else if last == .underscore then false
    else underscoresBetween hex .other rest

/-- Whether the underscores of a number's text stand only between digits; a base prefix
counts as a digit. -/
def underscoresOk (cs : List Char) : Bool :=
  let body := (splitSign cs).2
  match body with
  | '0' :: b :: rest =>
    let b := b.toLower
    if b == 'b' || b == 'o' || b == 'x' then underscoresBetween (b == 'x') .digit rest
    else underscoresBetween false .start body
  | _ => underscoresBetween false .start body

/-- The digits of a significand: its value in the base, the number of digits after the point,
whether any digit was read, and the rest of the text. Underscores are passed over; a second
point ends the significand. -/
def significand (hex : Bool) :
    List Char → Nat → Option Nat → Bool → Nat × Nat × Bool × List Char
  | [], acc, frac, seen => (acc, frac.getD 0, seen, [])
  | c :: rest, acc, frac, seen =>
    if c == '_' then significand hex rest acc frac seen
    else if c == '.' then
      match frac with
      | some n => (acc, n, seen, c :: rest)
      | none => significand hex rest acc (some 0) seen
    else
      match digitIn hex c with
      | some d => significand hex rest (acc * (if hex then 16 else 10) + d) (frac.map (· + 1)) true
      | none => (acc, frac.getD 0, seen, c :: rest)

/-- The digits of an exponent, underscores passed over; the value stops growing once it
reaches 10000. -/
def exponentDigits : List Char → Nat → Nat × List Char
  | [], e => (e, [])
  | c :: rest, e =>
    if c == '_' then exponentDigits rest e
    else if c.isDigit then exponentDigits rest (if e < 10000 then e * 10 + (c.toNat - '0'.toNat) else e)
    else (e, c :: rest)

/-- An exponent after its letter: an optional sign and at least one digit first, and nothing
after the digits. -/
def exponentPart? (cs : List Char) : Option Int :=
  let (neg, rest) := splitSign cs
  match rest with
  | c :: _ =>
    if c.isDigit then
      let (e, after) := exponentDigits rest 0
      if after.isEmpty then some (if neg then -(e : Int) else e) else none
    else none
  | [] => none

/-- A finite number's magnitude: a decimal or a hexadecimal number after the sign. -/
def magnitude? (body : List Char) : Option Float :=
  let (hex, digits) := match body with
    | '0' :: x :: rest@(_ :: _) => if x.toLower == 'x' then (true, rest) else (false, body)
    | _ => (false, body)
  let (m, frac, seen, rest) := significand hex digits 0 none false
  if !seen then none
  else
    let mark := if hex then 'p' else 'e'
    let expo? : Option Int := match rest with
      | [] => if hex then none else some 0
      | c :: more => if c.toLower == mark then exponentPart? more else none
    expo?.map fun e =>
      if hex then nearestBinary m (e - 4 * frac) else scaledFloat m (e - frac)

/-- A double written as a floating-point literal or a special word; none when the text is not
one or its value is beyond the largest double. -/
def parseFloat? (s : String) : Option Float :=
  let cs := s.toList
  let (neg, rest) := splitSign cs
  let word := asciiLower rest
  let signed (x : Float) : Float := if neg then -x else x
  if word == "inf".toList || word == "infinity".toList then some (signed (1.0 / 0.0))
  else if word == "nan".toList then
    (if cs.head? == some '-' || cs.head? == some '+' then none else some (0.0 / 0.0))
  else if !underscoresOk cs then none
  else
    match magnitude? rest with
    | some x => if x.isInf then none else some (signed x)
    | none => none

end Number

end MissionControl
