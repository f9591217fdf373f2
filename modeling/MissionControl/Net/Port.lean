/-!
# Ports

A port is given as a decimal number with an optional sign, or as the name of a service.

A number is read digit by digit until its value reaches `2^30`; what follows then no longer
matters, since the value is far beyond any port either way (a positive one stands for
`2^30 - 1`, a negative one for `-2^30`). The empty text is port 0. A character that is not a
digit before that point makes the text a service name, looked up in any letter case among the
services every resolver knows. A number outside `0..65535` is refused.
-/

namespace MissionControl

namespace Net

/-- The service names every resolver knows, with their tcp ports. -/
def knownServices : List (String × Nat) :=
  [("ftp", 21), ("ftps", 990), ("gopher", 70), ("http", 80), ("https", 443), ("imap2", 143),
   ("imap3", 220), ("imaps", 993), ("pop3", 110), ("pop3s", 995), ("smtp", 25),
   ("submissions", 465), ("ssh", 22), ("telnet", 23)]

/-- The value at which reading the digits of a port stops. -/
def portCutoff : Nat := Nat.pow 2 30

/-- The value of the digits of a port, read until it reaches the cutoff (then the rest is not
looked at); `none` when a character that is not a digit comes first. -/
def portDigits : List Char → Nat → Option Nat
  | [], n => some n
  | d :: rest, n =>
    if !d.isDigit then none
    else if n ≥ portCutoff then some n
    else portDigits rest (n * 10 + (d.toNat - '0'.toNat))

/-- A port written as a number: its value with the cutoff applied, or `none` when the text is a
service name. -/
def numericPort? (port : String) : Option Int :=
  if port.isEmpty then some 0
  else
    let (negative, digits) := match port.toList with
      | '+' :: ds => (false, ds)
      | '-' :: ds => (true, ds)
      | ds => (false, ds)
    (portDigits digits 0).map fun n =>
      if negative then -((min n portCutoff : Nat) : Int) else ((min n (portCutoff - 1) : Nat) : Int)

/-- The number of a tcp port, or why there is none: an unknown service name, or a number out of
range. -/
def lookupPort (port : String) : Except String Nat := do
  let n ← match numericPort? port with
    | some n => pure n
    | none =>
      match knownServices.lookup (String.ofList (port.toList.map Char.toLower)) with
      | some n => pure (n : Int)
      | none => throw ("lookup tcp/" ++ port ++ ": unknown port")
  if n < 0 || n > 65535 then throw ("address " ++ port ++ ": invalid port")
  pure n.toNat

end Net

end MissionControl
