import MissionControl.Net.Ip
/-!
# Request targets

A request target is read as a URL. It may not hold control characters and may not be empty; `*`
stands alone. A leading scheme (letters, then letters, digits, `+`, `-` or `.`, then a colon)
is lower-cased. The query is whatever follows the first `?`. What remains must start with `/`,
unless there is a scheme, in which case it is kept whole as a rootless part. After a scheme,
`//` starts an authority (up to the next `/`): user information up to the last `@`, then a
host with an optional numeric port. Percent escapes in the path, the user information and the
host are decoded; an escape must have two hexadecimal digits, and in a host it may only stand
for a byte above ASCII (or be `%25`). A fragment is not split off.

A host in brackets must be the whole host but for its port, and must hold an IPv6 address (an
IPv4 address written in IPv6 form included, a plain IPv4 address not). In brackets, `%25`
starts the zone, whose escapes may stand for any byte that a host could hold as it is, or for
a space. A `[` anywhere but at the front of the host is refused.

A URL is written back with its parts escaped again, each by its own rules, and its query as
it was read.
-/

namespace MissionControl

namespace Http

/-- The parts of a URL whose escapes follow their own rules; the zone is the part of a bracketed
host after its `%25`. -/
inductive UrlPart where
  | path | host | zone | userinfo
  deriving BEq

/-- Whether a byte is written escaped in a part of a URL. Letters, digits and `-_.~` never
are; a host keeps the sub-delimiters, the colon, brackets, angle brackets and the double quote;
a path keeps every reserved character but `?`; user information keeps those but `@/?:`. -/
def mustEscape (part : UrlPart) (b : UInt8) : Bool :=
  let c := Char.ofNat b.toNat
  if b.toNat ≥ 128 then true
  else if c.isAlphanum || "-_.~".toList.contains c then false
  else if (part == .host || part == .zone) && "!$&'()*+,;=:[]<>\"".toList.contains c then false
  else if "$&+,/:;=?@".toList.contains c then
    match part with
    | .path => c == '?'
    | .userinfo => c == '@' || c == '/' || c == '?' || c == ':'
    | .host | .zone => true
  else true

/-- The value of a hexadecimal digit byte. -/
def hexDigit? (b : UInt8) : Option Nat :=
  let n := b.toNat
  if 48 ≤ n && n ≤ 57 then some (n - 48)
  else if 65 ≤ n && n ≤ 70 then some (n - 55)
  else if 97 ≤ n && n ≤ 102 then some (n - 87)
  else none

/-- The refusal of a malformed escape, shown by its first three bytes. -/
def escapeError (bs : List UInt8) : String := "invalid URL escape " ++ Text.quoteBytes bs

/-- Whether an escape may stand for a byte in a part: in a host only a byte above ASCII or the
percent sign itself; in a zone the percent sign, a space, or any byte a host holds as it is. -/
def escapeAllowed (part : UrlPart) (hi lo : Nat) : Bool :=
  let percent := hi == 2 && lo == 5
  match part with
  | .host => hi ≥ 8 || percent
  | .zone => percent || hi * 16 + lo == 32 || !mustEscape .host (hi * 16 + lo).toUInt8
  | _ => true

/-- The bytes of a part with their escapes decoded, or why they cannot be: an escape without
two hexadecimal digits, an escape the part does not allow, or an ASCII byte in a host or zone
that would have to be escaped. -/
def unescape (part : UrlPart) : List UInt8 → Except String (List UInt8)
  | [] => .ok []
  | b :: rest =>
    if b == 37 then
      match rest with
      | x :: y :: more =>
        match hexDigit? x, hexDigit? y with
        | some hi, some lo =>
          if !escapeAllowed part hi lo then .error (escapeError [b, x, y])
          else (((hi * 16 + lo).toUInt8) :: ·) <$> unescape part more
        | _, _ => .error (escapeError [b, x, y])
      | _ => .error (escapeError (b :: rest))
    else if (part == .host || part == .zone) && b.toNat < 128 && mustEscape .host b then
      .error ("invalid character " ++ Text.quoteBytes [b] ++ " in host name")
    else (b :: ·) <$> unescape part rest

/-- A part written with the bytes its rules escape as `%HH`, upper-case digits. -/
def escape (part : UrlPart) (bs : List UInt8) : String :=
  String.join (bs.map fun b =>
    if mustEscape part b then
      let d (n : Nat) := if n < 10 then Char.ofNat (48 + n) else Char.ofNat (55 + n)
      String.ofList ['%', d (b.toNat / 16), d (b.toNat % 16)]
    else (Char.ofNat b.toNat).toString)

/-- A request target read as a URL. -/
structure Target where
  scheme : String := ""
  /-- What follows a scheme when it does not start with `/`. -/
  rootless : String := ""
  /-- The user name and, after a colon, the password, both decoded. -/
  user : Option (List UInt8 × Option (List UInt8)) := none
  host : List UInt8 := []
  /-- Whether a scheme was followed by a path with no authority. -/
  omitHost : Bool := false
  path : List UInt8 := []
  /-- The text after the first `?`, when there is one. -/
  query : Option String := none
  deriving Inhabited

/-- The scheme at the front of a URL and the rest, reading the characters in `acc` (reversed)
as read so far; no scheme when a character that cannot be in one comes first. -/
def schemeOf : List Char → List Char → Except String (List Char × List Char)
  | acc, [] => .ok ([], acc.reverse)
  | acc, c :: rest =>
    if c.isAlpha then schemeOf (c :: acc) rest
    else if c.isDigit || c == '+' || c == '-' || c == '.' then
      if acc.isEmpty then .ok ([], c :: rest) else schemeOf (c :: acc) rest
    else if c == ':' then
      if acc.isEmpty then .error "missing protocol scheme" else .ok (acc.reverse, rest)
    else .ok ([], acc.reverse ++ c :: rest)

/-- The position of the last occurrence of a character. -/
def lastIndexOf (cs : List Char) (c : Char) : Option Nat :=
  (cs.zipIdx.filter (·.1 == c)).getLast?.map (·.2)

/-- Whether a port suffix is empty or a colon followed by digits. -/
def validPort : List Char → Bool
  | [] => true
  | ':' :: ds => ds.all Char.isDigit
  | _ => false

/-- The position of the first occurrence of `%25`. -/
def zoneStart : List Char → Nat → Option Nat
  | '%' :: '2' :: '5' :: _, i => some i
  | _ :: rest, i => zoneStart rest (i + 1)
  | [], _ => none

/-- The bytes of a text. -/
def bytesOf (cs : List Char) : List UInt8 := (String.ofList cs).toUTF8.toList

/-- A bracketed host with its optional port, decoded: the address in brackets must read as an
IPv6 address, its zone decoded by the zone's rules. -/
def parseBracketed (host : List Char) : Except String (List UInt8) := do
  let close ← match lastIndexOf host ']' with
    | some i => pure i
    | none => throw "missing ']' in host"
  let port := host.drop (close + 1)
  if !validPort port then throw ("invalid port " ++ Text.quote (String.ofList port) ++ " after host")
  let inside := (host.take close).drop 1
  let name ← match zoneStart inside 0 with
    | some z => do
      let addr ← unescape .host (bytesOf (inside.take z))
      let zone ← unescape .zone (bytesOf (inside.drop z))
      pure (addr ++ zone)
    | none => unescape .host (bytesOf inside)
  match Net.parseAddrBytes name with
  | .error e => throw ("invalid host: " ++ e.message)
  | .ok a =>
    if a.written4 then throw "invalid IP-literal"
    pure ([91] ++ name ++ [93] ++ bytesOf port)

/-- A host with its optional port: a bracketed address, or a name with a numeric port or none,
then decoded. -/
def parseHost (host : List Char) : Except String (List UInt8) := do
  match lastIndexOf host '[' with
  | some 0 => parseBracketed host
  | some _ => throw "invalid IP-literal"
  | none =>
    let port := match lastIndexOf host ':' with
      | some i => host.drop i
      | none => []
    if !validPort port then throw ("invalid port " ++ Text.quote (String.ofList port) ++ " after host")
    unescape .host (bytesOf host)

/-- Whether user information uses only letters, digits and `-._:~!$&'()*+,;=%@`. -/
def validUserinfo (cs : List Char) : Bool :=
  cs.all fun c => (c.toNat < 128 && c.isAlphanum) || "-._:~!$&'()*+,;=%@".toList.contains c

/-- An authority: the user information before its last `@`, and the host. -/
def parseAuthority (auth : List Char) :
    Except String (Option (List UInt8 × Option (List UInt8)) × List UInt8) := do
  match lastIndexOf auth '@' with
  | none => pure (none, ← parseHost auth)
  | some i =>
    let host ← parseHost (auth.drop (i + 1))
    let info := auth.take i
    if !validUserinfo info then throw "net/url: invalid userinfo"
    if info.contains ':' then
      let name ← unescape .userinfo (bytesOf (info.takeWhile (· != ':')))
      let password ← unescape .userinfo (bytesOf ((info.dropWhile (· != ':')).drop 1))
      pure (some (name, some password), host)
    else
      pure (some (← unescape .userinfo (bytesOf info), none), host)

/-- A request target read as a URL, or why it does not read. -/
def parseTarget (raw : String) : Except String Target :=
  let fail (m : String) : String := "parse " ++ Text.quote raw ++ ": " ++ m
  (read raw.toList).mapError fail
where
  read (cs : List Char) : Except String Target := do
    if cs.any fun c => c.toNat < 0x20 || c.toNat == 0x7f then
      throw "net/url: invalid control character in URL"
    if cs.isEmpty then throw "empty url"
    if cs == ['*'] then return { path := [42] }
    let (scheme, rest) ← schemeOf [] cs
    let scheme := String.ofList (scheme.map Char.toLower)
    let (rest, query) :=
      if rest.contains '?' then
        (rest.takeWhile (· != '?'), some (String.ofList ((rest.dropWhile (· != '?')).drop 1)))
      else (rest, none)
    if rest.head? != some '/' then
      if scheme.isEmpty then throw "invalid URI for request"
      return { scheme, rootless := String.ofList rest, query }
    if !scheme.isEmpty && rest.take 2 == ['/', '/'] then
      let auth := (rest.drop 2).takeWhile (· != '/')
      let pathPart := (rest.drop 2).dropWhile (· != '/')
      let (user, host) ← parseAuthority auth
      return { scheme, user, host, path := ← unescape .path (bytesOf pathPart), query }
    return { scheme, omitHost := !scheme.isEmpty, path := ← unescape .path (bytesOf rest), query }

/-- A URL written back with `path` for its path. -/
def Target.render (t : Target) (path : String) : String :=
  let schemePart := if t.scheme.isEmpty then "" else t.scheme ++ ":"
  let userPart := match t.user with
    | some (name, password) =>
      escape .userinfo name ++ (match password with
        | some p => ":" ++ escape .userinfo p
        | none => "") ++ "@"
    | none => ""
  let authority :=
    if t.scheme.isEmpty && t.host.isEmpty && t.user.isNone then ""
    else if t.omitHost && t.host.isEmpty && t.user.isNone then ""
    else
      (if !t.host.isEmpty || !path.isEmpty || t.user.isSome then "//" else "") ++ userPart ++
        escape .host t.host
  let queryPart := match t.query with
    | some q => "?" ++ q
    | none => ""
  schemePart ++ authority ++ escape .path (bytesOf path.toList) ++ queryPart

end Http

end MissionControl
