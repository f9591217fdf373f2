import MissionControl.Net.Host
/-!
# Listening addresses

The metrics endpoint listens on a TCP address `host:port`. The address is split at its last
colon; a host in brackets must close right before that colon. The port is read as `Net.Port`
says (empty is 0, any free port). The host is empty (every interface) or resolved as
`Net.Host` says, the first IPv4 address preferred; the address is then bound, which the host's
network may refuse.

A problem with the address is reported after `listen tcp: `; a refused bind after
`listen tcp <address>: bind: `, the address written with the port's number.
-/

namespace MissionControl

namespace Http

/-- The host and port of an address, or what is wrong with its shape. -/
def splitHostPort (hostport : String) : Except String (String × String) :=
  let cs := hostport.toList
  let bad (why : String) : Except String (String × String) := .error ("address " ++ hostport ++ ": " ++ why)
  match cs.reverse.span (· != ':') with
  | (_, []) => bad "missing port in address"
  | (portRev, _ :: hostRev) =>
    let port := String.ofList portRev.reverse
    let hostPart := hostRev.reverse
    let checkRest (host : String) (afterOpen afterClose : List Char) : Except String (String × String) :=
      if afterOpen.contains '[' then bad "unexpected '[' in address"
      else if afterClose.contains ']' then bad "unexpected ']' in address"
      else .ok (host, port)
    match cs with
    | '[' :: rest =>
      match rest.span (· != ']') with
      | (_, []) => bad "missing ']' in address"
      | (inner, _ :: after) =>
        match after with
        | [] => bad "missing port in address"
        | ':' :: more =>
          if more.contains ':' then bad "too many colons in address"
          else checkRest (String.ofList inner) rest after
        | _ => bad "missing port in address"
    | _ =>
      if hostPart.contains ':' then bad "too many colons in address"
      else checkRest (String.ofList hostPart) cs cs

/-- Why a listener does not start: its address does not read, or binding the address (shown
with its port's number) is refused. -/
inductive ListenFault where
  | address (message : String)
  | bind (shown reason : String)

/-- The message of a listener that does not start. -/
def ListenFault.message : ListenFault → String
  | .address m => "listen tcp: " ++ m
  | .bind shown reason => "listen tcp " ++ shown ++ ": bind: " ++ reason

/-- The address a listener binds, and how it is shown: every interface for an empty host,
otherwise the host's first IPv4 address, or its first address when it has none. -/
def bindTarget (host : String) : Except String (String × Net.IpAddr) :=
  if host.isEmpty then .ok ("", { bytes := List.replicate 16 0 })
  else do
    let addrs ← Net.resolve host
    let a := (addrs.find? (·.isV4)).getD (addrs.headD default)
    pure (a.text, a)

/-- What stops a listener on a TCP address, if anything. -/
def listenFault? (addr : String) : Option ListenFault :=
  if addr.isEmpty then none
  else
    let target : Except String (String × Net.IpAddr × Nat) := do
      let (host, port) ← splitHostPort addr
      let n ← Net.lookupPort port
      let (shown, a) ← bindTarget host
      pure (shown, a, n)
    match target with
    | .error m => some (.address m)
    | .ok (shown, a, n) => (Net.bindFailure a n).map (.bind (Net.joinHostPort shown (toString n)))

/-- The message of what stops a listener on a TCP address, if anything. -/
def listenProblem (addr : String) : Option String := (listenFault? addr).map (·.message)

end Http

end MissionControl
