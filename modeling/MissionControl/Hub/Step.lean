import MissionControl.Request.Pure
import MissionControl.Registry.Handlers
import MissionControl.Bus.Scripted

/-!
# Session steps

A session on the scripted bus is a list of steps. A step builds objects, owners and waiters,
waits for interfaces, answers calls, installs responders, emits signals, disposes of objects,
drives accounts and the client registry, or inspects the bus. A callback made by a step may
carry further steps to run when it fires; those are kept as written and read when they run, so
a bad nested step spoils only itself.

Reading a step fails with the message of its first bad field; a missing field takes its
default, and null counts as missing.
-/

namespace MissionControl

namespace Hub

open Request

/-- Which call a reply answers: the call with an index, or the first unanswered call matching
every non-empty field (the interface being the call's first argument). -/
inductive CallPick where
  | index (i : Int)
  | first (method dest path iface : String)
  deriving Inhabited

/-- One step of a session. -/
inductive Step where
  | addDescriptor (type name : String) (build watch : Bool)
  | lookupDescriptor (type iface : String)
  | object (label busName path : String)
  | owner (label : String)
  | closeOwner (label : String)
  /-- Waits for one interface. `waiter` is the new waiter's label, `none` for no waiter at all;
  `callback` false makes a waiter without a callback. -/
  | ensure (obj type iface : String) (waiter owner : Option String) (release callback : Bool)
      (actions : List Json)
  | cancel (waiter : Option String)
  | waitAll (obj type : String) (ifaces : List String) (label : String) (owner : Option String)
      (final release : Bool) (actions : List Json)
  | reply (pick : CallPick) (answer : Bus.Answer)
  | respond (dest : String) (table : List (String × Option Properties)) (failure : String)
  | respondNames (method : String) (answer : Bus.Answer)
  | emit (signal : Signal)
  | ownerChanged (name old new : String)
  | invalidate (obj reason : String)
  | dispose (obj : String)
  | isReady (obj iface : String)
  | account (path : String)
  | whenReady (obj label : String) (owner : Option String) (actions : List Json)
  | remove (obj : String)
  | accountSignal (path : String) (avatar : Bool) (body : List Value)
  | start
  | close
  | lookup (name : String)
  | caps
  | handlers (request : Option Registry.Request) (channels : List Registry.Channel)
      (unique : String)
  | uniqueName
  | pendingCount (dest method : String)
  | callCount (dest method : String)
  | brokerLookup (type iface : String)
  | registerDescriptors (accounts : Bool)
  deriving Inhabited

/-- The text of the unknown-interface error a responder gives by default. -/
def unknownInterface : String := "org.freedesktop.DBus.Error.UnknownInterface"

/-- An optional string field. -/
def optStrField (j : Json) (key : String) : Decode (Option String) :=
  match j.field? key with
  | none => pure none
  | some (.str s) => pure (some s)
  | some _ => throw ("field " ++ key ++ " must be a string")

/-- The strings of an optional list field, empty when missing. -/
def strsField (j : Json) (key : String) : Decode (List String) :=
  match j.field? key with
  | none => pure []
  | some v => decodeStrings key v

/-- The answer a reply or a name responder gives: an error, names, a raw body, or else a
property map. -/
def decodeAnswer (j : Json) (withBody : Bool) : Decode Bus.Answer := do
  match j.field? "error" with
  | some (.str e) => pure (.failure e)
  | some _ => throw "field error must be a string"
  | none =>
    match j.field? "names" with
    | some v => do
      let names ← decodeStrings "names" v
      pure (.values [.strs (some names)])
    | none =>
      match withBody, j.field? "body" with
      | true, some (.arr items) => .values <$> decodeItems items
      | true, some _ => throw "field body must be an array"
      | _, _ => .properties <$> propsField j "props"

/-- The interface table of a responder: property maps (or null) by interface. -/
def decodeTable (j : Json) : Decode (List (String × Option Properties)) :=
  match j.field? "table" with
  | none => pure []
  | some (.obj ms) => ms.foldlM (fun acc (k, v) => do
      let p ← decodeProps v
      pure ((k, p) :: acc.filter (·.1 != k))) []
  | some _ => throw "field table must be an object"

/-- A channel request of a handler query. -/
def decodeRequest (j : Json) : Decode Registry.Request := do
  let props ← propsField j "props"
  pure { path := ← strField j "path", props := props.getD [], preferred := ← strField j "preferred" }

/-- The channels of a handler query. -/
def decodeChannels (j : Json) : Decode (List Registry.Channel) := do
  let items ← listField j "channels"
  items.mapM fun c => do
    let props ← propsField c "props"
    pure { path := ← strField c "path", props := props.getD [] }

/-- The call a reply picks. -/
def decodePick (j : Json) : Decode CallPick := do
  match j.field? "call" with
  | some _ => .index <$> intField j "call"
  | none =>
    pure (.first (Bus.fullMethod (← strField j "method")) (← strField j "dest")
      (← strField j "path") (← strField j "iface"))

/-- The step kind a step document names. -/
def stepKind (j : Json) : String :=
  match j.field? "do" with
  | some (.str s) => s
  | _ => ""

/-- Reads one step. -/
def Step.decode (j : Json) : Decode Step := do
  let kind := stepKind j
  if kind == "add_descriptor" then
    pure (.addDescriptor (← strField j "type") (← strField j "name") (← boolField j "build" true)
      (← boolField j "monitor"))
  else if kind == "lookup_descriptor" then
    pure (.lookupDescriptor (← strField j "type") (← strField j "iface"))
  else if kind == "object" then
    pure (.object (← strField j "id") (← strField j "bus_name") (← strField j "path"))
  else if kind == "owner" then pure (.owner (← strField j "id"))
  else if kind == "close_owner" then pure (.closeOwner (← strField j "owner"))
  else if kind == "ensure" then do
    let nilWaiter ← boolField j "nil_waiter"
    let label ← strField j "w"
    pure (.ensure (← strField j "obj") (← strField j "type") (← strField j "iface")
      (if nilWaiter then none else some label) (← optStrField j "owner")
      (← boolField j "release" true) (!(← boolField j "no_callback")) (← listField j "on_ready"))
  else if kind == "cancel" then pure (.cancel (← optStrField j "w"))
  else if kind == "wait_all" then
    pure (.waitAll (← strField j "obj") (← strField j "type") (← strsField j "ifaces")
      (← strField j "id") (← optStrField j "owner") (← boolField j "final" true)
      (← boolField j "release" true) (← listField j "on_final"))
  else if kind == "reply" then pure (.reply (← decodePick j) (← decodeAnswer j true))
  else if kind == "respond" then
    pure (.respond (← strField j "dest") (← decodeTable j) (← strField j "fail" unknownInterface))
  else if kind == "respond_names" then
    pure (.respondNames (Bus.fullMethod (← strField j "method")) (← decodeAnswer j false))
  else if kind == "emit" then pure (.emit (← decodeSignal j))
  else if kind == "owner_changed" then
    pure (.ownerChanged (← strField j "name") (← strField j "old") (← strField j "new"))
  else if kind == "invalidate" then pure (.invalidate (← strField j "obj") (← strField j "reason"))
  else if kind == "dispose" then pure (.dispose (← strField j "obj"))
  else if kind == "is_ready" then pure (.isReady (← strField j "obj") (← strField j "iface"))
  else if kind == "account" then pure (.account (← strField j "path"))
  else if kind == "when_ready" then
    pure (.whenReady (← strField j "obj") (← strField j "id") (← optStrField j "owner")
      (← listField j "on_final"))
  else if kind == "remove" then pure (.remove (← strField j "obj"))
  else if kind == "account_signal" then do
    let which ← strField j "kind" "account"
    let body ← listField j "body"
    if which != "account" && which != "avatar" then
      throw ("unknown signal kind " ++ Text.quote which)
    pure (.accountSignal (← strField j "path") (which == "avatar") (← decodeItems body))
  else if kind == "start" then pure .start
  else if kind == "close" then pure .close
  else if kind == "lookup" then pure (.lookup (← strField j "name"))
  else if kind == "caps" then pure .caps
  else if kind == "handlers" then do
    let request ← match j.field? "request" with
      | some r => some <$> decodeRequest r
      | none => pure none
    pure (.handlers request (← decodeChannels j) (← strField j "unique"))
  else if kind == "unique_name" then pure .uniqueName
  else if kind == "pending_count" then
    pure (.pendingCount (← strField j "dest") (Bus.fullMethod (← strField j "method")))
  else if kind == "call_count" then
    pure (.callCount (← strField j "dest") (Bus.fullMethod (← strField j "method")))
  else if kind == "broker_lookup" then
    pure (.brokerLookup (← strField j "type") (← strField j "iface"))
  else if kind == "register_descriptors" then do
    let which ← strField j "which"
    if which == "client" then pure (.registerDescriptors false)
    else if which == "account" then pure (.registerDescriptors true)
    else throw ("unknown descriptors " ++ Text.quote which)
  else throw ("unknown step " ++ Text.quote kind)

end Hub

end MissionControl
