import MissionControl.Number.Shortest

/-!
# Writing doubles

A double is written from its shortest digits (`Number.Shortest`), either positionally or in
scientific form. Two formats are used:

* the general format (`general`): scientific form when the decimal exponent is below -4 or at
  least 6, positional otherwise; a scientific exponent has a sign and at least two digits
  (`1e+06`, `1.5e-07`); not-a-number is `NaN` and the infinities are `+Inf` and `-Inf`;
* the JSON format (`json`): scientific form below `10^-6` and from `10^21` on, positional
  otherwise, with the exponent written without padding (`1e-7`, `1e+21`). An integral double
  below `10^21` is therefore written as an integer.

A negative double, including negative zero, is written with a leading minus sign.
-/

namespace MissionControl

namespace Number

/-- The significant digits of a decimal and the position of its decimal point, counted from
the left end of the digits. -/
structure Digits where
  digits : List Char
  point : Int

/-- The shortest digits of a finite double, its sign ignored; zero is the single digit 0 with
the point after it. -/
def Digits.ofFloat (x : Float) : Digits :=
  let (c, p) := shortestDigits x
  let ds := Nat.toDigits 10 c
  ⟨ds, (ds.length : Int) + p⟩

/-- The decimal exponent of the first digit. -/
def Digits.exponent (d : Digits) : Int := d.point - 1

/-- Scientific form `d.ddd` `e` sign exponent, the exponent padded to `width` digits. -/
def Digits.scientific (d : Digits) (width : Nat) : String :=
  let mant := match d.digits with
    | c :: rest@(_ :: _) => String.ofList (c :: '.' :: rest)
    | ds => String.ofList ds
  let sign := if d.exponent < 0 then "-" else "+"
  let ed := Nat.toDigits 10 d.exponent.natAbs
  mant ++ "e" ++ sign ++ String.ofList (List.replicate (width - ed.length) '0' ++ ed)

/-- Positional form with no more digits than the decimal holds. -/
def Digits.positional (d : Digits) : String :=
  let n := d.digits.length
  if d.point ≤ 0 then
    "0." ++ String.ofList (List.replicate d.point.natAbs '0' ++ d.digits)
  else if n ≤ d.point.toNat then
    String.ofList (d.digits ++ List.replicate (d.point.toNat - n) '0')
  else
    String.ofList (d.digits.take d.point.toNat ++ '.' :: d.digits.drop d.point.toNat)

/-- Whether the sign bit of a double is set. -/
def signBit (x : Float) : Bool := x.toBits >>> 63 == 1

/-- The general format of a double. -/
def general (x : Float) : String :=
  if x.isNaN then "NaN"
  else if x.isInf then (if signBit x then "-Inf" else "+Inf")
  else
    let d := Digits.ofFloat x
    let body := if d.exponent < -4 || d.exponent ≥ 6 then d.scientific 2 else d.positional
    (if signBit x then "-" else "") ++ body

/-- The JSON number text of a finite double. -/
def json (x : Float) : String :=
  let d := Digits.ofFloat x
  let zero := d.digits == ['0']
  let body :=
    if !zero && (d.exponent < -6 || d.exponent ≥ 21) then d.scientific 1 else d.positional
  (if signBit x then "-" else "") ++ body

end Number

end MissionControl
