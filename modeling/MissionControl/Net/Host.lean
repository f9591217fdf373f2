import MissionControl.Net.Ip
import MissionControl.Net.Port
/-!
# The host's network

Names and sockets behave here as on a machine whose network is cut off: the loopback
interface `lo` is there but down, with no address of its own, and no route leads anywhere.

* A host name is an IP literal, or `localhost` (the IPv4 and then the IPv6 loopback address);
  any other name would need a name service, and none answers.
* Connecting to an IPv4 address finds no network. Connecting to the IPv6 loopback (or
  unspecified) address finds no such address here; a link-local address without an interface
  is not a valid destination; any other IPv6 address finds no network.
* Binding an IPv4 address always succeeds as far as the address goes (addresses need not be
  local), but a port below 1024 needs privileges the program does not have. Binding an IPv6
  address checks, in this order: a multicast address is not valid, a port below 1024 needs
  privileges, a link-local address needs an interface (`lo`, or its index 1), and only the
  unspecified address is at hand.
-/

namespace MissionControl

namespace Net

/-- The addresses a host stands for: an IP literal is itself; `localhost` is the IPv4 and then
the IPv6 loopback address; any other name would have to be looked up, and no name service
answers. -/
def resolve (host : String) : Except String (List IpAddr) :=
  match parseIp? host with
  | some a => .ok [a]
  | none =>
    if host == "localhost" then
      .ok [{ bytes := mappedPrefix ++ [127, 0, 0, 1], written4 := true },
           { bytes := List.replicate 15 0 ++ [1] }]
    else .error ("lookup " ++ host ++ ": no such host")

/-- Whether an address is the unspecified IPv6 address. -/
def IpAddr.isUnspecified (a : IpAddr) : Bool := a.bytes.all (· == 0)

/-- Whether an address is the IPv6 loopback address. -/
def IpAddr.isLoopback6 (a : IpAddr) : Bool := a.bytes == List.replicate 15 0 ++ [1]

/-- Whether an address is an IPv6 multicast address. -/
def IpAddr.isMulticast6 (a : IpAddr) : Bool := !a.isV4 && a.bytes.head? == some 0xff

/-- Whether an address is an IPv6 link-local unicast address, which only means something
together with an interface. -/
def IpAddr.isLinkLocal6 (a : IpAddr) : Bool :=
  match a.bytes with
  | b0 :: b1 :: _ => b0 == 0xfe && b1 / 64 == 2
  | _ => false

/-- The interface a zone names: `lo` and its index 1, other numbers as they are, and none (0)
for any other name. -/
def zoneIndex (zone : String) : Nat :=
  if zone == "lo" then 1
  else if !zone.isEmpty && zone.all Char.isDigit then zone.toNat?.getD 0
  else 0

/-- Why connecting to an address fails. -/
def connectFailure (a : IpAddr) : String :=
  if a.isV4 then "network is unreachable"
  else if a.isLoopback6 || a.isUnspecified then "cannot assign requested address"
  else if a.isLinkLocal6 && zoneIndex a.zone == 0 then "invalid argument"
  else "network is unreachable"

/-- The ports below this one need privileges to be bound. -/
def privilegedPorts : Nat := 1024

/-- Why binding an address and port fails, if it does. -/
def bindFailure (a : IpAddr) (port : Nat) : Option String :=
  let privileged := port != 0 && port < privilegedPorts
  if a.isV4 then (if privileged then some "permission denied" else none)
  else if a.isMulticast6 then some "invalid argument"
  else if privileged then some "permission denied"
  else if a.isUnspecified then none
  else if a.isLinkLocal6 && zoneIndex a.zone == 0 then some "invalid argument"
  else if a.isLinkLocal6 && zoneIndex a.zone != 1 then some "no such device"
  else some "cannot assign requested address"

end Net

end MissionControl
