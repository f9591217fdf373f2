import MissionControl.Hub.Link
import MissionControl.Hub.Session

/-!
# Transport sessions

A transport session talks to the bus daemon through a real connection. It dials (once), makes
its own method calls, property fetches, name listings, subscriptions and ownership watches, has
the daemon emit signals, and may build the service core (descriptors, broker and client
registry) over the connection and start, query and close it. The daemon's script may be given
up front and extended by a step.

After each step the dispatch loop runs every piece of waiting work. Each step reports its
answer, the notes taken (those of emitting and closing in canonical order, since their order
is not defined) and the calls the daemon received, sorted; once a core exists, also whether it
is ready and the registry.
-/

namespace MissionControl

namespace Hub

open Request

/-- The address that stands for the daemon in a transport session. -/
def fakeAddress : Wire.DaemonName := .word "fake"

/-- Reads a scripted reply. -/
def decodeReply (j : Json) : Decode Wire.Reply := do
  match j.field? "error" with
  | some e => pure (.error (← strField e "name") (← strField e "message"))
  | none =>
    match j.field? "body" with
    | some (.arr items) =>
      let values ← decodeItems items
      if !Wire.sendableAll values then throw "body holds a value that cannot be sent"
      pure (.body values)
    | some _ => throw "field body must be an array"
    | none =>
      match j.field? "names" with
      | some v => .names <$> decodeStrings "names" v
      | none =>
        match ← propsField j "props" with
        | some p =>
          if !Wire.sendableEntries p then throw "props hold a value that cannot be sent"
          pure (.props p)
        | none => pure (.body [])

/-- Reads an object of replies by key. -/
def decodeReplies (j : Json) (key : String) : Decode (List (String × Wire.Reply)) :=
  match j.field? key with
  | none => pure []
  | some (.obj ms) => ms.foldlM (fun acc (k, v) => do pure (Wire.setEntry acc k (← decodeReply v))) []
  | some _ => throw ("field " ++ key ++ " must be an object")

/-- Reads an optional reply. -/
def decodeOptReply (j : Json) (key : String) : Decode (Option Wire.Reply) :=
  match j.field? key with
  | none => pure none
  | some v => some <$> decodeReply v

/-- Reads a daemon script. -/
def decodeScript (j : Json) : Decode Wire.Script := do
  let getAll ← match j.field? "getall" with
    | none => pure []
    | some (.obj ms) => ms.foldlM (fun acc (dest, t) => do
        pure (Wire.setEntry acc dest (← decodeReplies (.obj [("t", t)]) "t"))) []
    | some _ => throw "field getall must be an object"
  pure { names := ← decodeOptReply j "names", activatable := ← decodeOptReply j "activatable",
         getAll, methods := ← decodeReplies j "methods" }

/-- Reads the variables of a request. -/
def decodeEnv (j : Json) (key : String) : Decode (List (String × String)) :=
  match j.field? key with
  | none => pure []
  | some (.obj ms) => ms.mapM fun (k, v) =>
    match v with
    | .str s => pure (k, s)
    | _ => throw ("variable " ++ k ++ " must be a string")
  | some _ => throw ("field " ++ key ++ " must be an object")

/-- Reads a match rule. -/
def decodeRule (j : Json) : Decode MatchRule := do
  pure { sender := ← strField j "sender", path := ← strField j "path",
         interface := ← strField j "interface", member := ← strField j "member",
         arg0 := ← strField j "arg0" }

/-- The values of a body that must be sent. -/
def sendableItems (j : Json) (key : String) : Decode (List Value) := do
  let values ← decodeItems (← listField j key)
  if !Wire.sendableAll values then throw (key ++ " holds a value that cannot be sent")
  pure values

/-- What is wrong with the names of a signal, if anything. -/
def signalProblem (path iface member : String) : Option String :=
  if !Wire.validPath path then some "invalid path name"
  else if !Wire.validInterface iface then some "invalid interface name"
  else if !Wire.validMember member then some "invalid member name"
  else none

/-- The answer when a step needs the core and there is none. -/
def noCore : Json := badInput "no core"

/-- A step that needs the core: its answer, or the refusal without one. -/
def withCore (f : Registry → HubM Json) : HubM Json := do
  match (← get).registry with
  | some r => f r
  | none => return noCore

/-- The answer of a decoding failure or of a step. -/
def decoded {α : Type} (d : Decode α) (f : α → HubM Json) : HubM Json :=
  match d with
  | .ok a => f a
  | .error m => return badInput m

/-- Dials with retries; the unique name, or why it failed. -/
def dialRetry (env : List (String × String)) (bus : String) (attempts : Int) :
    HubM (Except String String) := do
  match (retryPlan env (some fakeAddress) bus attempts false).2 with
  | .ok () => return .ok (← greet)
  | .error e => return .error e

/-- One step of a transport session that needs a connection. -/
def linkedStep (kind : String) (j : Json) : HubM Json := do
  if kind == "call" then
    decoded (do pure (← strField j "dest", ← strField j "path", ← strField j "method",
        ← sendableItems j "args")) fun (dest, path, method, args) => do
      call workBudget dest path method args .tapCall
      return .null
  else if kind == "get_all" then
    decoded (do pure (← strField j "dest", ← strField j "path", ← strField j "iface"))
      fun (dest, path, iface) => do
        call workBudget dest path Bus.getAllMethod [.str iface] .tapProperties
        return .null
  else if kind == "list_names" || kind == "list_activatable" then
    let method := if kind == "list_names" then Bus.listNamesMethod else Bus.listActivatableMethod
    call workBudget Bus.daemonName Bus.daemonPath method [] .tapNames
    return .null
  else if kind == "subscribe" then
    decoded (do pure (← decodeRule ((j.field? "match").getD (.obj [])),
        (← listField j "unsubscribe_on_signal"))) fun (rule, drops) => do
      let label := (j.field? "id").getD .null
      let id ← subscribe rule (.tapSignal label drops)
      modify fun h => { h with tapLabels := bindLabel h.tapLabels label.render id }
      return .null
  else if kind == "watch" then
    decoded (strField j "name") fun name => do
      let label := (j.field? "id").getD .null
      let id ← subscribe (Bus.ownershipRule name) (.tapOwner label)
      modify fun h => { h with tapLabels := bindLabel h.tapLabels label.render id }
      return .null
  else if kind == "unsubscribe" then
    let label := (j.field? "id").getD .null
    match (← get).tapLabels.lookup label.render with
    | some id =>
      unsubscribe id
      return .null
    | none => return badInput ("unknown subscription " ++ label.render)
  else if kind == "emit" then
    decoded (do pure (← strField j "sender", ← strField j "path", ← strField j "iface",
        ← strField j "member", ← sendableItems j "body")) fun (sender, path, iface, member, body) => do
      match signalProblem path iface member with
      | some problem => return errorAnswer "bad_signal" (Wire.invalidMessage problem)
      | none =>
        if ← linkOpen then
          post (.signal { sender, path, name := iface ++ "." ++ member, body := body.map Wire.delivered })
        return .null
  else if kind == "unique_name" then
    return .obj [("unique", .str (← get).bus.unique)]
  else if kind == "close" then
    closeLink
    return .obj [("err", .null)]
  else if kind == "core" then
    decoded (strField j "prefix") fun pre => do
      let descriptors := ((({} : Readiness.DescriptorTable).addAll Client.objectType
        clientDescriptors).1.addAll Account.objectType accountDescriptors).1
      let reg : Registry := { clientPrefix := if pre.isEmpty then Client.nameBase else pre }
      modify fun h => { h with descriptors := descriptors, registry := some reg }
      return .null
  else if kind == "core_start" then
    withCore fun _ => do
      startRegistry workBudget
      return .null
  else if kind == "core_close" then
    withCore fun _ => do
      closeRegistry
      return .null
  else if kind == "handlers" || kind == "caps" then
    withCore fun _ => decoded (Step.decode j) (perform workBudget 0)
  else if kind == "ensure_client" then
    withCore fun r =>
      decoded (do pure (← strField j "name", ← strField j "iface")) fun (name, iface) => do
        match r.entries.find? (·.name == name) with
        | some e => return .obj [("found", .bool true),
            ("ready", .bool (((← get).status (.client e.client)).isReady iface))]
        | none => return .obj [("found", .bool false)]
  else return badInput ("unknown step " ++ Text.quote kind)

/-- One step of a transport session. -/
def transportStep (j : Json) : HubM Json := do
  let kind := stepKind j
  if kind == "dial" || kind == "dial_retry" then
    if (← get).link.isSome then return errorAnswer "bad_step" "already connected"
    let request : Decode (String × List (String × String) × Int) := do
      pure (← strField j "address", ← decodeEnv j "env", ← intField j "attempts" 1)
    decoded request fun (address, env, attempts) => do
      let result ← if kind == "dial" then dial env (some fakeAddress) address
        else dialRetry [] address attempts
      match result with
      | .ok u => return .obj [("unique", .str u)]
      | .error e => return errorAnswer "error" e
  else if kind == "script" then
    decoded (decodeScript j) fun s => do
      modify fun h => { h with daemon := { h.daemon with script := h.daemon.script.merge s } }
      return .null
  else if (← get).link.isNone then return badInput "not connected"
  else linkedStep kind j

/-- One step of a transport session run on a world, the loop's work included: its report and
the world after it. -/
def transportTop (h : World) (j : Json) : Json × World :=
  let start := { h with notes := #[], daemon := { h.daemon with log := #[] } }
  let kind := stepKind j
  let act : HubM Json := do
    let r ← transportStep j
    drainPosted drainBudget none
    if kind == "emit" || kind == "close" then groupNotesFrom 0
    return r
  let (r, h') := match act.run start with
    | .ok r h' => (r, h')
    | .error f h' => (faultAnswer f, h')
  let calls := h'.daemon.log.toList.mergeSort fun a b => a ≤ b
  let core := match h'.registry with
    | some reg => [("core_ready", Json.bool reg.startedUp), ("registry", registryReport h' reg)]
    | none => []
  (.obj ([("r", r), ("ev", .arr (Note.reportAll h'.notes.toList)), ("bus", .ofStrings calls)] ++
    core), h')

/-- The reports of transport steps run one after another from a world. -/
def transportAll (h : World) : List Json → List Json
  | [] => []
  | j :: rest => let (e, h') := transportTop h j; e :: transportAll h' rest

/-- The answer of a transport session request. -/
def transportAnswer (j : Json) : Decode Json := do
  let script ← match j.field? "bus" with
    | some s => decodeScript s
    | none => pure {}
  let steps ← listField j "steps"
  pure (.obj [("steps", .arr (transportAll { daemon := { script } } steps))])

end Hub

end MissionControl
