import MissionControl.Bus.Properties
import MissionControl.Bus.Signal
import MissionControl.Client.Name

/-!
# Client proxies

A client is a process owning a well-known client name. Its proxy records what is known of it:
whether the name has an owner (active) and who that is, whether the name can be activated, the
interfaces the client declares, and for each declared role (handler, approver, observer) what
that role's interface says: channel filters, and for a handler whether it bypasses approval and
which capability tokens it has.

The proxy is ready once its client interface has been fetched and, if that succeeded, every role
interface it declares has been determined. A proxy whose name loses its owner while the name
cannot be activated is gone; a gone proxy stays gone.

A role fetch overwrites the fields it builds; a field whose property is missing or of another
type becomes absent.
-/

namespace MissionControl

namespace Client

/-- The client interface. -/
def clientInterface : String := "org.freedesktop.Telepathy.Client"

/-- The handler role interface. -/
def handlerInterface : String := clientInterface ++ ".Handler"

/-- The approver role interface. -/
def approverInterface : String := clientInterface ++ ".Approver"

/-- The observer role interface. -/
def observerInterface : String := clientInterface ++ ".Observer"

/-- The object type under which client interfaces are registered. -/
def objectType : String := "client"

/-- The role interfaces, in the order they are waited for. -/
def roleInterfaces : List String := [handlerInterface, approverInterface, observerInterface]

/-- The four client interfaces. -/
def allInterfaces : List String := clientInterface :: roleInterfaces

/-- The error of a client whose name lost its owner. -/
def goneMessage (name : String) : String := "client: name has no owner: " ++ name

/-- What is known of one client. -/
structure Proxy where
  name : String
  uniqueName : String
  activatable : Bool
  active : Bool
  /-- Why the proxy can no longer be used. -/
  gone : Option String := none
  interfaces : List String := []
  handlerFilters : Option (List (Option Properties)) := none
  approverFilters : Option (List (Option Properties)) := none
  observerFilters : Option (List (Option Properties)) := none
  bypassApproval : Bool := false
  capabilities : List String := []
  started : Bool := false
  ready : Bool := false
  deriving Inhabited

namespace Proxy

/-- A proxy for a name first seen with this owner (empty: none known) and activatability. A
name is active when it has a known owner or cannot be activated. -/
def create (name uniqueName : String) (activatable : Bool) : Proxy :=
  { name, uniqueName, activatable, active := !uniqueName.isEmpty || !activatable }

/-- The object path of the client. -/
def path (p : Proxy) : String := objectPathForName p.name

/-- Whether the client declares an interface. -/
def hasInterface (p : Proxy) (iface : String) : Bool := p.interfaces.contains iface

/-- Whether the client declares the handler role. -/
def isHandler (p : Proxy) : Bool := p.hasInterface handlerInterface

/-- The role interfaces the client declares, in role order. -/
def roles (p : Proxy) : List String := roleInterfaces.filter p.hasInterface

/-- The proxy after its name was seen with an owner (empty: owner unknown). -/
def setActive (p : Proxy) (uniqueName : String) : Proxy :=
  { p with active := true, uniqueName := if uniqueName.isEmpty then p.uniqueName else uniqueName }

/-- The proxy's fields built from the client interface. -/
def buildCore (p : Proxy) (props : Properties) : Proxy :=
  { p with interfaces := ((props.strings? "Interfaces").getD none).getD [] }

/-- The proxy's fields built from the handler interface. -/
def buildHandler (p : Proxy) (props : Properties) : Proxy :=
  { p with
    handlerFilters := props.maps? "HandlerChannelFilter"
    bypassApproval := (props.bool? "BypassApproval").getD false
    capabilities := ((props.strings? "Capabilities").getD none).getD [] }

/-- The proxy's fields built from the approver interface. -/
def buildApprover (p : Proxy) (props : Properties) : Proxy :=
  { p with approverFilters := props.maps? "ApproverChannelFilter" }

/-- The proxy's fields built from the observer interface. -/
def buildObserver (p : Proxy) (props : Properties) : Proxy :=
  { p with observerFilters := props.maps? "ObserverChannelFilter" }

/-- A handler's capability snapshot: its filters (none: an empty list; an absent filter map
stays absent) and its sorted capability tokens. -/
def handlerCapabilities (p : Proxy) : List (Option Properties) × List String :=
  (p.handlerFilters.getD [], p.capabilities.mergeSort (fun a b => !(b < a)))

end Proxy

end Client

end MissionControl
