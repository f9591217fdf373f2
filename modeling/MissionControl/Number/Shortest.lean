/-!
# Shortest decimal digits of a double

A finite double is `m · 2^e` for a natural mantissa `m` and an integer exponent `e`. The reals
that round to it under round-half-to-even form an interval around it: halfway to each
neighbouring double, with both ends included exactly when `m` is even. The gap below is half
the gap above at the bottom of a binade other than the lowest.

`shortestDigits` chooses, among the decimals `c · 10^p` in that interval, one with the fewest
significant digits: for 1, 2, … 17 digits it tests the two neighbours of the value on the
grid of that many digits, and the first grid with a neighbour in the interval wins. Of two
neighbours in the interval it takes the nearer, and the one with the even last digit when they
are equally near. All comparisons are exact, in natural numbers.
-/

namespace MissionControl

namespace Number

/-- A finite double as `mantissa · 2^exponent`, with whether the gap to the double below is
half the gap to the double above. -/
structure Binary where
  mantissa : Nat
  exponent : Int
  narrowBelow : Bool

/-- The mantissa and exponent of a finite double; the sign is ignored. -/
def Binary.ofFloat (x : Float) : Binary :=
  let bits : Nat := x.toBits.toNat
  let frac : Nat := bits % Nat.pow 2 52
  let biased : Nat := bits / Nat.pow 2 52 % 2048
  if biased = 0 then ⟨frac, -1074, false⟩
  else ⟨frac + Nat.pow 2 52, (biased : Int) - 1075, frac = 0 && biased > 1⟩

/-- Compares `n · 2^a · 10^b` with `k · 2^c · 10^d` exactly. -/
def compareScaled (n : Nat) (a b : Int) (k : Nat) (c d : Int) : Ordering :=
  compare (n * Nat.pow 2 (a - c).toNat * Nat.pow 10 (b - d).toNat)
    (k * Nat.pow 2 (c - a).toNat * Nat.pow 10 (d - b).toNat)

/-- The number of decimal digits of a natural number (one for zero). -/
def digitCount (n : Nat) : Nat := (Nat.toDigits 10 n).length

/-- `⌊n · 2^a · 10^b⌋`. -/
def floorScaled (n : Nat) (a b : Int) : Nat :=
  n * Nat.pow 2 a.toNat * Nat.pow 10 b.toNat / (Nat.pow 2 (-a).toNat * Nat.pow 10 (-b).toNat)

/-- The exponent `t` with `10^t ≤ m · 2^e < 10^(t+1)`, for `m` positive. Every double is at
least `10^-324`, so shifting it by `10^400` gives an integer part with the same leading
digits. -/
def decimalExponent (m : Nat) (e : Int) : Int :=
  (digitCount (floorScaled m e 400) : Int) - 1 - 400

/-- Removes trailing zero digits, moving them into the exponent. -/
def stripZeros (c : Nat) (p : Int) : Nat × Int :=
  if h : c ≠ 0 ∧ c % 10 = 0 then stripZeros (c / 10) (p + 1) else (c, p)
termination_by c
decreasing_by exact Nat.div_lt_self (Nat.pos_of_ne_zero h.1) (by decide)

/-- The decimal with `k` significant digits chosen for the double `b`, if a neighbour of the
value on that grid lies in its rounding interval. -/
def digitsAt (b : Binary) (t : Int) (k : Nat) : Option (Nat × Int) :=
  let m := b.mantissa
  let e := b.exponent
  let hiN := 4 * m + 2
  let loN := if b.narrowBelow then 4 * m - 1 else 4 * m - 2
  let closed := m % 2 == 0
  let inside (c : Nat) (p : Int) : Bool :=
    let lo := compareScaled c 0 p loN (e - 2) 0
    let hi := compareScaled c 0 p hiN (e - 2) 0
    (lo == .gt || (closed && lo == .eq)) && (hi == .lt || (closed && hi == .eq))
  let p := t - (k : Int) + 1
  let d := floorScaled m e (-p)
  match inside d p, inside (d + 1) p with
  | true, true =>
    match compareScaled (2 * m) e 0 (2 * d + 1) 0 p with
    | .lt => some (d, p)
    | .gt => some (d + 1, p)
    | .eq => some (if d % 2 == 0 then d else d + 1, p)
  | true, false => some (d, p)
  | false, true => some (d + 1, p)
  | false, false => none

/-- The shortest decimal `c · 10^p` that reads back as the double (its sign ignored), with no
trailing zero in `c`; zero gives `(0, 0)`. -/
def shortestDigits (x : Float) : Nat × Int :=
  let b := Binary.ofFloat x
  if b.mantissa = 0 then (0, 0)
  else
    let t := decimalExponent b.mantissa b.exponent
    match (List.range 17).findSome? (fun i => digitsAt b t (i + 1)) with
    | some (c, p) => stripZeros c p
    | none => stripZeros (floorScaled b.mantissa b.exponent (16 - t)) (t - 16)

end Number

end MissionControl
