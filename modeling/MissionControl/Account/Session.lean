import MissionControl.Account.Connector
import MissionControl.Request.Notation

/-!
# Filter chain and connector sessions

A filter chain session registers named filters and looks them up by position; each step reports
its answer with the chain's size and names.

A connector session sets up one account's connector (its parameters, scripted filters and
manager, and whether attempts use the session's chain) and then starts attempts, asks to be
online, advances attempts by hand, resumes kept continuations and manager completions,
registers filters, listens to attempts' ends and changes the account's parameters. Each step
reports its answer, the notes taken, the connection state and the chain's names.
-/

namespace MissionControl

namespace Account

open Request

/-- The step kind a step document names. -/
def kindOf (j : Json) : String :=
  match j.field? "do" with
  | some (.str s) => s
  | _ => ""

/-- The action a filter's script names; an empty or missing kind accepts. -/
def filterAction (j : Json) : Decode FilterAction := do
  let kind ← strField j "kind"
  if kind == "accept" || kind == "" then return .accept
  else if kind == "reject" then return .reject
  else if kind == "defer" then return .defer
  else if kind == "twice" then return .twice ((← strField j "second") != "reject")
  else if kind == "set" then
    return .set (← strField j "key") (← decodeValue ((j.member? "value").getD .null))
  else if kind == "delete" then return .delete (← strField j "key")
  else if kind == "begin" then return .begin
  else if kind == "proceed" then
    return .proceed (← boolField j "success" true) (← boolField j "then" true)
  else throw ("unknown filter kind " ++ Text.quote kind)

/-- A scripted filter of a request; `none` for a name registered without a filter. A script
that cannot be read is still registered, and fails when the filter runs. -/
def decodeFilter (j : Json) : Decode (Option FilterAction) := do
  if ← boolField j "nil" then return none
  match filterAction j with
  | .ok a => return some a
  | .error m => return some (.unreadable m)

/-! ## Filter chain sessions -/

/-- One filter chain step; its answer. -/
def chainStep (c : Chain Unit) (j : Json) : Chain Unit × Json :=
  let kind := kindOf j
  if kind == "register" then
    match strField j "name", boolField j "nil" with
    | .ok name, .ok nothing => (c.register name (if nothing then none else some ()), .null)
    | .error m, _ | _, .error m => (c, badInput m)
  else if kind == "at" then
    match intField j "i" with
    | .ok i =>
      match c.at? i with
      | some (name, f) => (c, .obj [("name", .str name), ("ok", .bool true), ("has_filter", .bool f.isSome)])
      | none => (c, .obj [("name", .str ""), ("ok", .bool false), ("has_filter", .bool false)])
    | .error m => (c, badInput m)
  else (c, badInput ("unknown step " ++ Text.quote kind))

/-- The reports of filter chain steps run one after another. -/
def chainRuns (c : Chain Unit) : List Json → List Json
  | [] => []
  | j :: rest =>
    let (c', r) := chainStep c j
    .obj [("r", r), ("len", .ofNat c'.size), ("names", .ofStrings c'.names)] :: chainRuns c' rest

/-- The answer of a filter chain session. -/
def chainSessionAnswer (j : Json) : Decode Json := do
  pure (.obj [("steps", .arr (chainRuns {} (← listField j "steps")))])

/-! ## Connector sessions -/

/-- The report of a connector note. -/
def ConnectorNote.report : ConnectorNote → Json
  | .filtered name account params =>
    .obj [("filter", .str name), ("account", .str account), ("params", encodeProps params)]
  | .deferred k => .obj [("deferred", .ofNat k)]
  | .processed id success => .obj [("process", .ofInt id), ("success", .bool success)]
  | .online id err => .obj [("online", .ofInt id), ("err", .ofOption err)]
  | .managed account params => .obj [("manager", .str account), ("params", encodeProps params)]
  | .managerDeferred k => .obj [("manager_deferred", .ofNat k)]

/-- The steps one top-level step of a connector may take: three for each filter of its chain and
two more, which is as deep as an attempt can go before it stops. -/
def stepBudget (c : Connector) : Nat := 3 * c.chain.size + 2

/-- The session's handler ids by the session's own ids. -/
abbrev HandlerLabels := List (Int × Nat)

/-- One connector step; its answer. -/
def connectorStep (labels : HandlerLabels) (j : Json) : ConnectorM (HandlerLabels × Json) := do
  let kind := kindOf j
  let bad (m : String) : ConnectorM (HandlerLabels × Json) := pure (labels, badInput m)
  if kind == "begin" then
    beginAttempt (stepBudget (← get))
    return (labels, .null)
  else if kind == "request_online" then
    match intField j "id" with
    | .error m => bad m
    | .ok id =>
      modify fun c => { c with online := c.online ++ [id] }
      beginAttempt (stepBudget (← get))
      return (labels, .null)
  else if kind == "proceed" then
    match boolField j "success" true with
    | .error m => bad m
    | .ok success =>
      proceed (stepBudget (← get)) success
      return (labels, .null)
  else if kind == "continue" then
    match intField j "k", boolField j "success" true with
    | .ok k, .ok success =>
      match (← get).deferred[k.toNat]? with
      | some cont =>
        if k < 0 then bad ("no deferred continuation " ++ toString k) else
        resume (stepBudget (← get)) cont success
        return (labels, .null)
      | none => bad ("no deferred continuation " ++ toString k)
    | .error m, _ | _, .error m => bad m
  else if kind == "manager_done" then
    match intField j "k", optionalError j with
    | .ok k, .ok err =>
      if k < 0 || k ≥ (← get).managerCalls then bad ("no deferred manager call " ++ toString k)
      else
        completeOnline err
        return (labels, .null)
    | .error m, _ | _, .error m => bad m
  else if kind == "register" then
    match strField j "name", decodeFilter j with
    | .ok name, .ok f =>
      modify fun c => { c with chain := c.chain.register name f }
      return (labels, .null)
    | .error m, _ | _, .error m => bad m
  else if kind == "on_process" then
    match intField j "id" with
    | .error m => bad m
    | .ok id =>
      let hid ← modifyGet fun c => let (l, hid) := c.process.connect id; (hid, { c with process := l })
      return ((id, hid) :: labels.filter (·.1 != id), .null)
  else if kind == "off_process" then
    match intField j "id" with
    | .error m => bad m
    | .ok id =>
      modify fun c => { c with process := c.process.disconnect ((labels.lookup id).getD 0) }
      return (labels, .null)
  else if kind == "set_param" then
    match strField j "key", decodeValue ((j.member? "value").getD .null) with
    | .ok key, .ok value =>
      match (← get).params with
      | some p =>
        modify fun c => { c with params := some (p.set key value) }
        return (labels, .null)
      | none => throw (.panic "assignment to entry in nil map")
    | .error m, _ | _, .error m => bad m
  else bad ("unknown step " ++ Text.quote kind)
where
  /-- The error a manager completion reports, if any. -/
  optionalError (j : Json) : Decode (Option String) :=
    match j.field? "error" with
    | none => pure none
    | some (.str e) => pure (some e)
    | some _ => throw "field error must be a string"

/-- A step of a connector session: it runs on the connector with its notes cleared, and a fault
becomes the step's answer. -/
def connectorTurn (c : Connector) (labels : HandlerLabels) (j : Json) :
    (HandlerLabels × Json) × Connector :=
  match (connectorStep labels j).run { c with notes := #[] } with
  | .ok v c' => (v, c')
  | .error (.panic m) c' => ((labels, errorAnswer "panic" m), c')
  | .error (.badInput m) c' => ((labels, badInput m), c')

/-- The reports of connector steps run one after another. -/
def connectorRuns (c : Connector) (labels : HandlerLabels) : List Json → List Json
  | [] => []
  | j :: rest =>
    let ((labels', r), c') := connectorTurn c labels j
    .obj [("r", r), ("ev", .arr (c'.notes.toList.map ConnectorNote.report)),
      ("state", .str c'.state.name), ("filters", .ofStrings c'.chain.names)] ::
      connectorRuns c' labels' rest

/-- The manager of a connector request. -/
def decodeManager (j : Json) : Decode (Option ManagerMode) := do
  match ← optStr with
  | none => pure none
  | some m => pure (some (if m == "ok" then .succeed else if m == "defer" then .defer else .fail m))
where
  optStr : Decode (Option String) :=
    match j.field? "manager" with
    | none => pure none
    | some (.str s) => pure (some s)
    | some _ => throw "field manager must be a string"

/-- The answer of a connector session. -/
def connectorSessionAnswer (j : Json) : Decode Json := do
  let account ← strField j "account"
  let params ← propsField j "params"
  let manager ← decodeManager j
  let filters ← listField j "filters"
  let chain ← filters.foldlM (fun (c : Chain FilterAction) f => do
    pure (c.register (← strField f "name") (← decodeFilter f))) {}
  let detached ← boolField j "nil_chain"
  let c : Connector := { account, params, chain, usesChain := !detached, manager }
  let steps ← listField j "steps"
  pure (.obj [("steps", .arr (connectorRuns c [] steps))])

end Account

end MissionControl
