import MissionControl.Text.Quoted
import MissionControl.Text.Bytes
import MissionControl.Net.Host
import MissionControl.Text.Blank

/-!
# Bus addresses

A connection is made to a bus named `session`, `system` (both recognised after trimming; the
empty name is the session bus too) or by an address.

* The session bus is at `DBUS_SESSION_BUS_ADDRESS` when that is set and not `autolaunch:`;
  otherwise its address would have to be asked of a launcher, which is not installed.
* The system bus is at `DBUS_SYSTEM_BUS_ADDRESS` when set, else at the well-known socket.

An address is a list of alternatives separated by `;`, tried in order: the first that connects
wins, otherwise the last failure is reported. An alternative is `transport:key=value,...`, with
`%XX` escapes in values (a bad escape reads as an empty value); the transports are `unix`,
`tcp` and `nonce-tcp`. Only the bus daemon's own address connects; every other unix socket path
is missing, and no tcp connection gets through (see the host's network in `Net.Host`). A tcp
connection is made over the network the address's family names (any family when it names
none) to the first of the host's addresses in that family.
-/

namespace MissionControl

namespace Wire

/-- The address of the system bus when none is configured. -/
def defaultSystemAddress : String := "unix:path=/var/run/dbus/system_bus_socket"

/-- The failure of looking for the session bus launcher. -/
def launcherMissing : String := "exec: \"dbus-launch\": executable file not found in $PATH"

/-- The value of an environment variable; missing reads as empty. -/
def envValue (env : List (String × String)) (name : String) : String := (env.lookup name).getD ""

/-- The address a bus name stands for. -/
def busAddress (env : List (String × String)) (bus : String) : Except String String :=
  let name := Text.trim bus
  if name.isEmpty || name == "session" then
    let a := envValue env "DBUS_SESSION_BUS_ADDRESS"
    if !a.isEmpty && a != "autolaunch:" then .ok a else .error launcherMissing
  else if name == "system" then
    let a := envValue env "DBUS_SYSTEM_BUS_ADDRESS"
    .ok (if a.isEmpty then defaultSystemAddress else a)
  else .ok bus

/-- The value of a hexadecimal digit. -/
def hexValue? (c : Char) : Option Nat :=
  if '0' ≤ c && c ≤ '9' then some (c.toNat - '0'.toNat)
  else if 'a' ≤ c && c ≤ 'f' then some (c.toNat - 'a'.toNat + 10)
  else if 'A' ≤ c && c ≤ 'F' then some (c.toNat - 'A'.toNat + 10)
  else none

/-- The bytes of an address value with its `%XX` escapes decoded, if they are all good. -/
def unescape : List Char → Option (List UInt8)
  | [] => some []
  | '%' :: a :: b :: rest => do
    let hi ← hexValue? a
    let lo ← hexValue? b
    let more ← unescape rest
    pure ((hi * 16 + lo).toUInt8 :: more)
  | '%' :: _ => none
  | c :: rest => ((String.singleton c).toUTF8.toList ++ ·) <$> unescape rest

/-- The bytes of the value of a key among `key=value` pairs separated by commas; empty when
missing or badly escaped. -/
def keyBytes (keys key : String) : List UInt8 :=
  let named (kv : String) : Bool :=
    match kv.toList.span (· != '=') with
    | (k, _ :: _) => String.ofList k == key
    | (_, []) => false
  match (keys.splitOn ",").find? named with
  | some kv => (unescape (kv.toList.drop (key.length + 1))).getD []
  | none => []

/-- The value of a key as text, a byte that is not well-formed UTF-8 read as the replacement
character. -/
def keyValue (keys key : String) : String := Text.lossy (keyBytes keys key)

/-- The longest socket path a unix address may name, plus one. -/
def socketPathLimit : Nat := 108

/-- Dialling a tcp address over a network (`tcp`, `tcp4` or `tcp6`): the port is read, the
host's addresses are kept to the network's family, and the first of them cannot be reached. -/
def dialTcp (network host port : String) : String :=
  let attempt : Except String String := do
    let n ← Net.lookupPort port
    let addrs ← Net.resolve host
    let fits (a : Net.IpAddr) : Bool :=
      if network == "tcp4" then a.isV4 else if network == "tcp6" then !a.isV4 else true
    match addrs.filter fits with
    | a :: _ =>
      pure (network ++ " " ++ Net.joinHostPort a.text (toString n) ++ ": connect: " ++
        Net.connectFailure a)
    | [] => throw ("address " ++ host ++ ": no suitable address found")
  match attempt with
  | .ok m => "dial " ++ m
  | .error m => "dial " ++ network ++ ": " ++ m

/-- The network a tcp address's family names, or why the family is not one. -/
def tcpNetwork (keys : String) : Except String String :=
  let family := keyValue keys "family"
  if family == "" then .ok "tcp"
  else if family == "ipv4" then .ok "tcp4"
  else if family == "ipv6" then .ok "tcp6"
  else .error "dbus: invalid tcp family (must be ipv4 or ipv6)"

/-- Connecting through one alternative of an address, which is not the daemon's. -/
def connectAlternative (alt : String) : Except String Unit :=
  match alt.toList.span (· != ':') with
  | (_, []) => .error "dbus: invalid bus address (no transport)"
  | (transport, _ :: rest) =>
    let keys := String.ofList rest
    let kind := String.ofList transport
    if kind == "unix" then
      let abstract := keyBytes keys "abstract"
      let path := keyBytes keys "path"
      if abstract.isEmpty && path.isEmpty then
        .error "dbus: invalid address (neither path nor abstract set)"
      else if !abstract.isEmpty && !path.isEmpty then
        .error "dbus: invalid address (both path and abstract set)"
      else if !abstract.isEmpty then
        .error ("dial unix @" ++ Text.lossy abstract ++ ": connect: connection refused")
      else if path.length ≥ socketPathLimit then
        .error ("dial unix " ++ Text.lossy path ++ ": connect: invalid argument")
      else .error ("dial unix " ++ Text.lossy path ++ ": connect: no such file or directory")
    else if kind == "tcp" then
      let host := keyValue keys "host"
      let port := keyValue keys "port"
      if host.isEmpty || port.isEmpty then
        .error "dbus: unsupported address (must set host and port)"
      else do
        let network ← tcpNetwork keys
        .error (dialTcp network host port)
    else if kind == "nonce-tcp" then
      let host := keyValue keys "host"
      let port := keyValue keys "port"
      if host.isEmpty || port.isEmpty || (keyValue keys "noncefile").isEmpty then
        .error "dbus: unsupported address (must set host, port and noncefile)"
      else do
        let network ← tcpNetwork keys
        .error (dialTcp network host port)
    else .error "dbus: invalid bus address (invalid or unsupported transport)"

/-- How dialled addresses name the bus daemon, which listens on a unix socket. -/
inductive DaemonName where
  /-- An address that is exactly this word is the daemon's. -/
  | word (w : String)
  /-- This mark stands for the daemon's address wherever it appears in an address: the unix
  socket whose path is the mark itself. -/
  | mark (m : String)
  deriving BEq, Inhabited

/-- The daemon's address that a mark stands for. -/
def markedAddress (m : String) : String := "unix:path=" ++ m

/-- Connecting through the alternatives of an address in turn: the first that connects wins,
otherwise the last failure is reported. A unix alternative whose path is `socket` reaches the
daemon. -/
def connectAlternatives (socket : Option String) (address : String) : Except String Unit :=
  (address.splitOn ";").foldl (fun acc alt =>
    match acc with
    | .ok () => .ok ()
    | .error _ =>
      match socket with
      | some p =>
        if alt.startsWith "unix:" && keyBytes (alt.drop 5).toString "path" == (String.toUTF8 p).toList &&
            keyBytes (alt.drop 5).toString "abstract" == [] then .ok ()
        else connectAlternative alt
      | none => connectAlternative alt) (.error "dbus: invalid bus address (no transport)")

/-- Connecting to an address. An address that is the daemon's word connects; a daemon's mark
is read as the daemon's address wherever it stands, and the daemon's address is written back
as the mark in the failure. -/
def connectAddress (daemon : Option DaemonName) (address : String) : Except String Unit :=
  match daemon with
  | some (.word w) => if address == w then .ok () else connectAlternatives none address
  | some (.mark m) =>
    (connectAlternatives (some m) (address.replace m (markedAddress m))).mapError
      (·.replace (markedAddress m) m)
  | none => connectAlternatives none address

/-- Connecting to a bus by name or address; the error says which bus could not be reached. -/
def connectBus (env : List (String × String)) (daemon : Option DaemonName) (bus : String) :
    Except String Unit :=
  match busAddress env bus >>= connectAddress daemon with
  | .ok () => .ok ()
  | .error e => .error ("bus: connect " ++ Text.quote bus ++ ": " ++ e)

end Wire

end MissionControl
