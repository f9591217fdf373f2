import MissionControl.Hub.World
import MissionControl.Request.Notation

/-!
# Reporting a session

After each step a session reports the notes taken during the step and a snapshot of the world.

Notes are written one object each. A group of notes of undefined order is written in the order
of the notes' canonical texts, so that the report does not depend on an order nobody chose.

The snapshot lists the unanswered calls, the number of live subscriptions and, when there are
any, the labelled objects with their interfaces' readiness, the labelled owners, the labelled
waiters' cancellation, the accounts, and the registry with its clients in discovery order. An
interface is `fetching`, `ready`, or `ready: ` followed by the error its fetch completed with.
-/

namespace MissionControl

namespace Hub

open Request Readiness

mutual
/-- The report of one note; a group yields its members in canonical order. -/
def Note.report : Note → List Json
  | .built s iface props => [.obj [("build", .str s), ("iface", .str iface), ("props", encodePropsOpt props)]]
  | .watched s iface => [.obj [("monitor", .str s), ("iface", .str iface)]]
  | .fired label s err => [.obj [("ready", .str label), ("obj", .str s), ("err", .ofOption err)]]
  | .released label => [.obj [("release", .str label)]]
  | .finished label s err => [.obj [("final", .str label), ("obj", .str s), ("err", .ofOption err)]]
  | .allReleased label => [.obj [("mrelease", .str label)]]
  | .acted kind r => [.obj [("action", .str kind), ("r", r)]]
  | .added name => [.obj [("added", .str name)]]
  | .registryReady => [.obj [("registry_ready", .bool true)]]
  | .raw j => [j]
  | .warned .. | .releasedBelowZero => []
  | .unordered notes => Json.sortByText (Note.reportAll notes)

/-- The reports of notes, in order. -/
def Note.reportAll : List Note → List Json
  | [] => []
  | n :: rest => Note.report n ++ Note.reportAll rest
end

/-- The note of a session's own method call: the reply body, or the error. -/
def callReport (a : Bus.Answer) : Json :=
  match a with
  | .failure m => .obj [("reply", .null), ("err", .str m)]
  | .values body => .obj [("reply", .arr (encodeItems body)), ("err", .null)]
  | .properties p => .obj [("reply", .arr [encodePropsOpt p]), ("err", .null)]

/-- The note of a session's own property fetch. -/
def propertiesReport (a : Bus.Answer) : Json :=
  match a.properties? with
  | .ok p => .obj [("props", encodePropsOpt p), ("err", .null)]
  | .error m => .obj [("props", .null), ("err", .str m)]

/-- The note of a session's own name listing. -/
def namesReport (a : Bus.Answer) : Json :=
  match a.strings? with
  | .ok names => .obj [("names", .ofStrings names), ("err", .null)]
  | .error m => .obj [("names", .null), ("err", .str m)]

/-- The note of a signal delivered to a session's own subscription. -/
def signalReport (label : Json) (sig : Signal) : Json :=
  .obj [("sig", label), ("signal", .obj [("sender", .str sig.sender), ("path", .str sig.path),
    ("name", .str sig.name), ("body", .arr (encodeItems sig.body))])]

/-- The readiness of every interface of a status that has any. -/
def statusReport (st : Status) : Json :=
  .obj (st.pending.map (fun e => (e.1, .str "fetching")) ++
    st.ready.map fun e => (e.1, .str (match e.2 with
      | none => "ready"
      | some err => "ready: " ++ err)))

/-- The unanswered calls, with their global indices. -/
def callsReport (h : World) : Json :=
  .arr ((h.bus.calls.toList.zipIdx.filter fun e => !e.1.answered).map fun (c, i) =>
    .obj [("i", .ofNat i), ("dest", .str c.dest), ("path", .str c.path),
      ("method", .str c.method), ("args", .arr (encodeItems c.args))])

/-- An account's report. -/
def accountReport (a : AccountObject) : Json :=
  .obj [("unique_name", .str (Account.uniqueName a.path)),
    ("invalidated", .ofOption a.removed),
    ("status", statusReport a.status),
    ("props", .obj [("DisplayName", .str a.props.displayName), ("Icon", .str a.props.icon),
      ("Nickname", .str a.props.nickname), ("NormalizedName", .str a.props.normalizedName),
      ("Valid", .bool a.props.valid), ("Enabled", .bool a.props.enabled),
      ("ConnectionStatus", .ofNat a.props.connectionStatus),
      ("Parameters", encodeProps a.props.parameters)]),
    ("avatar", .obj [("data", .str (hexText a.avatar.data)), ("mime", .str a.avatar.mime)])]

/-- Channel filters, or null when there are none. -/
def filtersReport : Option (List (Option Properties)) → Json
  | some fs => .arr (fs.map encodePropsOpt)
  | none => .null

/-- A list of strings, or null when it is empty. -/
def namesOrNull (xs : List String) : Json := if xs.isEmpty then .null else .ofStrings xs

/-- A client's report. -/
def clientReport (c : ClientObject) : Json :=
  let p := c.proxy
  .obj [("name", .str p.name), ("unique", .str p.uniqueName), ("active", .bool p.active),
    ("activatable", .bool p.activatable), ("ready", .bool p.ready), ("gone", .ofOption p.gone),
    ("interfaces", namesOrNull p.interfaces), ("handler", .bool p.isHandler),
    ("bypass", .bool p.bypassApproval), ("handler_filters", filtersReport p.handlerFilters),
    ("approver_filters", filtersReport p.approverFilters),
    ("observer_filters", filtersReport p.observerFilters),
    ("status", statusReport c.status)]

/-- The clients of the registry, in discovery order. -/
def registeredClients (h : World) (r : Registry) : List ClientObject :=
  r.entries.map fun e => h.clients.getD e.client default

/-- The registry's report. -/
def registryReport (h : World) (r : Registry) : Json :=
  .obj [("ready", .bool r.startedUp), ("lock", .ofNat r.startupLock),
    ("len", .ofNat r.entries.length),
    ("clients", .arr ((registeredClients h r).map clientReport))]

/-- A member when its list of members is not empty. -/
def nonEmpty (key : String) (members : List (String × Json)) : List (String × Json) :=
  if members.isEmpty then [] else [(key, .obj members)]

/-- The snapshot of the world after a step. -/
def snapshot (h : World) : Json :=
  .obj ([("calls", callsReport h), ("subs", .ofNat h.bus.liveCount)] ++
    nonEmpty "objects" (h.plainLabels.map fun (l, i) => (l, statusReport (h.plains.getD i default).status)) ++
    nonEmpty "owners" (h.ownerLabels.map fun (l, i) =>
      let o := h.owners.getD i default
      (l, .obj [("pending", .ofNat o.pendingCount), ("closed", .bool o.closed)])) ++
    nonEmpty "cancelled" (h.waiterLabels.map fun (l, i) => (l, .bool (h.waiters.getD i default).cancelled)) ++
    nonEmpty "accounts" (h.accountLabels.map fun (l, i) => (l, accountReport (h.accounts.getD i default))) ++
    match h.registry with
    | some r => [("registry", registryReport h r)]
    | none => [])

/-- The registry's handler capabilities, client by client in discovery order. -/
def capabilitiesReport (h : World) (r : Registry) : Json :=
  .arr ((registeredClients h r).map fun c =>
    let (filters, tokens) := c.proxy.handlerCapabilities
    .obj [("name", .str c.proxy.name), ("filters", .arr (filters.map encodePropsOpt)),
      ("tokens", namesOrNull tokens)])

end Hub

end MissionControl
