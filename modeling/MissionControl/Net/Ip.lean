import MissionControl.Text.Bytes
/-!
# IP addresses

An IP literal is read the way the resolver reads one before it asks any name service. What
decides the family is the first dot, colon or percent sign: a dot makes it an IPv4 address, a
colon an IPv6 address, and a percent sign first is a zone without an address.

* An IPv4 address is four decimal fields separated by dots, each at most 255 and without
  leading zeros.
* An IPv6 address may carry a zone after its first `%`, which must not be empty. The rest is
  groups of one to four hexadecimal digits separated by colons, at most eight of them, where
  one `::` stands for one or more groups of zeros; an IPv4 address may stand for the last two
  groups, once six groups (or a `::`) came before it.

A text that does not read is refused with the reason and, where it helps, the rest of the text
at the place where reading stopped.

An address is kept as sixteen bytes, an IPv4 address in its IPv4-mapped form, together with
whether it was written as an IPv4 address. The resolver counts every address of the mapped
form as an IPv4 address and writes it in dotted decimal; any other address is written in the
canonical IPv6 text: lower-case groups without leading zeros, and the first longest run of two
or more zero groups written as `::`.
-/

namespace MissionControl

namespace Net

/-- An IP address as sixteen bytes, with its zone (empty for none) and whether it was written
as an IPv4 address. -/
structure IpAddr where
  bytes : List Nat
  zone : String := ""
  written4 : Bool := false
  deriving BEq, Inhabited

/-- The bytes that put an IPv4 address into the IPv6 space. -/
def mappedPrefix : List Nat := List.replicate 10 0 ++ [255, 255]

/-- Why a text is not an IP address: the text, the reason, and the rest of the text where
reading stopped (shown only when there is some). -/
structure AddrError where
  input : List UInt8
  reason : String
  rest : List UInt8 := []

/-- The message of a refused address. -/
def AddrError.message (e : AddrError) : String :=
  "ParseAddr(" ++ Text.quoteBytes e.input ++ "): " ++ e.reason ++
    (if e.rest.isEmpty then "" else " (at " ++ Text.quoteBytes e.rest ++ ")")

/-- Whether a byte is a decimal digit. -/
def isDigitByte (b : UInt8) : Bool := 48 ≤ b.toNat && b.toNat ≤ 57

/-- The value of a hexadecimal digit byte. -/
def hexValue? (b : UInt8) : Option Nat :=
  let n := b.toNat
  if 48 ≤ n && n ≤ 57 then some (n - 48)
  else if 97 ≤ n && n ≤ 102 then some (n - 87)
  else if 65 ≤ n && n ≤ 70 then some (n - 55)
  else none

/-- The four fields of an IPv4 address, read from `s`, where `prev` is the byte before (none at
the start), `fields` the fields read so far, `value` the field being read and `digits` its
digits so far. A refusal names `input`, the whole text. -/
def v4Fields (input : List UInt8) :
    List UInt8 → Option UInt8 → List Nat → Nat → Nat → Except AddrError (List Nat)
  | [], _, fields, value, _ =>
    if fields.length < 3 then .error { input, reason := "IPv4 address too short" }
    else .ok (fields ++ [value])
  | b :: rest, prev, fields, value, digits =>
    if isDigitByte b then
      if digits == 1 && value == 0 then
        .error { input, reason := "IPv4 field has octet with leading zero" }
      else
        let value := value * 10 + (b.toNat - 48)
        if value > 255 then .error { input, reason := "IPv4 field has value >255" }
        else v4Fields input rest (some b) fields value (digits + 1)
    else if b == 46 then
      if prev.isNone || rest.isEmpty || prev == some 46 then
        .error { input, reason := "IPv4 field must have at least one digit", rest := b :: rest }
      else if fields.length == 3 then .error { input, reason := "IPv4 address too long" }
      else v4Fields input rest (some b) (fields ++ [value]) 0 0
    else .error { input, reason := "unexpected character", rest := b :: rest }

/-- A run of hexadecimal digits at the front of a group: its value, how many digits it has,
and what follows. A fifth digit refuses the group, shown from `group`, its start. -/
def hexRun (input group : List UInt8) :
    List UInt8 → Nat → Nat → Except AddrError (Nat × Nat × List UInt8)
  | [], value, count => .ok (value, count, [])
  | b :: rest, value, count =>
    match hexValue? b with
    | none => .ok (value, count, b :: rest)
    | some d =>
      if count ≥ 4 then
        .error { input, reason := "each colon-separated field must have at most 4 hex digits",
                 rest := group }
      else hexRun input group rest (value * 16 + d) (count + 1)

/-- The groups of an IPv6 address without its zone, each step reading one group and the colons
after it, for at most `fuel` groups: the bytes read, where the `::` stood (if one did), and the
text left over. Eight groups fill the address, so eight steps are enough. -/
def v6Groups (input : List UInt8) :
    Nat → List UInt8 → List Nat → Option Nat → Except AddrError (List Nat × Option Nat × List UInt8)
  | 0, s, ip, ellipsis => .ok (ip, ellipsis, s)
  | fuel + 1, s, ip, ellipsis =>
    if ip.length ≥ 16 then .ok (ip, ellipsis, s)
    else do
      let (value, count, after) ← hexRun input s s 0 0
      if count == 0 then
        throw { input, reason := "each colon-separated field must have at least one digit", rest := s }
      if after.head? == some 46 then
        if ellipsis.isNone && ip.length != 12 then
          throw { input, reason := "embedded IPv4 address must replace the final 2 fields of the address",
                  rest := s }
        if ip.length + 4 > 16 then
          throw { input, reason := "too many hex fields to fit an embedded IPv4 at the end of the address",
                  rest := s }
        let fields ← v4Fields input s none [] 0 0
        return (ip ++ fields, ellipsis, [])
      let ip := ip ++ [value / 256, value % 256]
      match after with
      | [] => return (ip, ellipsis, [])
      | c :: more =>
        if c != 58 then throw { input, reason := "unexpected character, want colon", rest := after }
        match more with
        | [] => throw { input, reason := "colon must be followed by more characters", rest := after }
        | 58 :: more2 =>
          if ellipsis.isSome then throw { input, reason := "multiple :: in address", rest := more }
          if more2.isEmpty then return (ip, some ip.length, [])
          v6Groups input fuel more2 ip (some ip.length)
        | _ => v6Groups input fuel more ip ellipsis

/-- An IPv6 address with an optional zone. -/
def parseV6 (input : List UInt8) : Except AddrError IpAddr := do
  let (s, zone) ← match input.span (· != 37) with
    | (s, []) => pure (s, "")
    | (s, _ :: z) =>
      if z.isEmpty then throw { input, reason := "zone must be a non-empty string" }
      else pure (s, Text.lossy z)
  let (s, ellipsis) := match s with
    | 58 :: 58 :: more => (more, some 0)
    | _ => (s, none)
  if s.isEmpty then return { bytes := List.replicate 16 0, zone }
  let (ip, ellipsis, rest) ← v6Groups input 8 s [] ellipsis
  if !rest.isEmpty then throw { input, reason := "trailing garbage after address", rest }
  if ip.length < 16 then
    match ellipsis with
    | none => throw { input, reason := "address string too short" }
    | some e => return { bytes := ip.take e ++ List.replicate (16 - ip.length) 0 ++ ip.drop e, zone }
  else if ellipsis.isSome then
    throw { input, reason := "the :: must expand to at least one field of zeros", rest }
  else return { bytes := ip, zone }

/-- An IP literal given as bytes, or why it is not one. -/
def parseAddrBytes (input : List UInt8) : Except AddrError IpAddr :=
  match input.find? fun b => b == 46 || b == 58 || b == 37 with
  | some 46 => (v4Fields input input none [] 0 0).map fun bs =>
      { bytes := mappedPrefix ++ bs, written4 := true }
  | some 58 => parseV6 input
  | some _ => .error { input, reason := "missing IPv6 address" }
  | none => .error { input, reason := "unable to parse IP" }

/-- An IP literal, when the text is one. -/
def parseIp? (s : String) : Option IpAddr :=
  (parseAddrBytes s.toUTF8.toList).toOption

/-- Whether an address is an IPv4 address, in its IPv4-mapped form. -/
def IpAddr.isV4 (a : IpAddr) : Bool := a.bytes.take 12 == mappedPrefix

/-- The longest run of zero groups (at least two), as its first index and length; the first
such run when several are longest. -/
def longestZeroRun (groups : List Nat) : Option (Nat × Nat) :=
  let step (acc : Option (Nat × Nat) × Nat × Nat) (ig : Nat × Nat) :=
    let (best, start, len) := acc
    let (g, i) := ig
    if g == 0 then
      let start := if len == 0 then i else start
      let len := len + 1
      let better : Bool := match best with
        | some (_, l) => decide (len > l)
        | none => decide (len ≥ 2)
      (if better then some (start, len) else best, start, len)
    else (best, start, 0)
  (groups.zipIdx.foldl step (none, 0, 0)).1

/-- The text of an address. -/
def IpAddr.text (a : IpAddr) : String :=
  let body :=
    if a.isV4 then ".".intercalate ((a.bytes.drop 12).map toString)
    else
      let rec pairs : List Nat → List Nat
        | hi :: lo :: rest => (hi * 256 + lo) :: pairs rest
        | _ => []
      let groups := pairs a.bytes
      let hex (g : Nat) : String := String.ofList (Nat.toDigits 16 g)
      match longestZeroRun groups with
      | some (start, len) =>
        ":".intercalate ((groups.take start).map hex) ++ "::" ++
          ":".intercalate ((groups.drop (start + len)).map hex)
      | none => ":".intercalate (groups.map hex)
  if a.zone.isEmpty then body else body ++ "%" ++ a.zone

/-- A host and a port as one address, the host in brackets when it has a colon. -/
def joinHostPort (host port : String) : String :=
  if host.contains ':' then "[" ++ host ++ "]:" ++ port else host ++ ":" ++ port

end Net

end MissionControl
