import MissionControl.Json.Basic
import MissionControl.Readiness.Descriptor
import MissionControl.Readiness.Status
import MissionControl.Bus.Scripted
import MissionControl.Account.Props
import MissionControl.Client.Proxy
import MissionControl.Wire.Daemon
import MissionControl.Wire.Names

/-!
# The hub's world

Everything a session on the scripted bus holds: the descriptor table, the bus connection, the
objects whose interfaces are fetched (plain objects of the session, accounts, clients), the
readiness records (waiters, owners, fetches, latches), the client registry, the labels the
session gave to its objects, waiters and owners, and the notes taken so far.

Records refer to one another by their index in the world's tables, so that a waiter can name
its fetch, a fetch its waiters and an owner its waiters without any of them holding another.
A record that a table does not have reads as its default; the operations only ever use indices
they were given by the world.

Callbacks are data: a waiter's reaction, a latch's finale and a release say what is to happen,
and the hub's interpreter does it. The actions of a session's own callbacks are kept as the
request documents that describe them.
-/

namespace MissionControl

namespace Hub

open Readiness

/-- An object whose interfaces are fetched. -/
inductive Subject where
  | plain (index : Nat)
  | account (index : Nat)
  | client (index : Nat)
  deriving BEq, Inhabited

/-- What a waiter does when its interface is determined. -/
inductive Reaction where
  /-- A session callback: it is noted under `label`, then runs `actions` one level deeper. -/
  | script (label : String) (depth : Nat) (actions : List Json)
  /-- Counts towards latch `index`. -/
  | latch (index : Nat)
  /-- A client learns the outcome of its client-interface fetch. -/
  | clientFetched (client : Nat)
  deriving Inhabited

/-- What runs once a waiter is finished with. -/
inductive Release where
  | silent
  /-- A session release hook, noted under `label`. -/
  | script (label : String)
  /-- Counts towards the release of latch `index`. -/
  | latch (index : Nat)
  deriving Inhabited

/-- One registered continuation for one interface of one object. -/
structure Waiter where
  /-- `none`: the waiter has no callback and is refused. -/
  reaction : Option Reaction
  release : Release := .silent
  owner : Option Nat := none
  /-- The fetch the waiter is registered on. -/
  fetch : Option Nat := none
  cancelled : Bool := false
  done : Bool := false
  released : Bool := false
  deriving Inhabited

/-- A fetch in progress for one interface of one object. -/
structure Fetch where
  subject : Subject
  descriptor : Descriptor
  waiters : Array Nat := #[]
  firing : Bool := false
  disposed : Bool := false
  deriving Inhabited

/-- What runs when every interface of a multi-interface wait has been determined. -/
inductive Finale where
  | silent
  /-- A session callback: noted under `label`, then runs `actions` one level deeper. -/
  | script (label : String) (depth : Nat) (actions : List Json)
  /-- A client whose role interfaces are all determined becomes ready. -/
  | clientRoles (client : Nat)
  deriving Inhabited

/-- The shared state of the per-interface waiters of one multi-interface wait. -/
structure Latch where
  finale : Finale
  /-- The label noted once every per-interface waiter is released. -/
  release : Option String := none
  firstError : Option String := none
  toFire : Countdown
  toRelease : Countdown
  deriving Inhabited

/-- A plain object of the session. -/
structure PlainObject where
  label : String
  busName : String
  path : String
  invalid : Option String := none
  status : Status := {}
  deriving Inhabited

/-- An account object. -/
structure AccountObject where
  path : String
  removed : Option String := none
  subscriptions : List Nat := []
  props : Account.Props := {}
  avatar : Account.Avatar := {}
  status : Status := {}
  deriving Inhabited

/-- A client object: its proxy and the hub's links to it. -/
structure ClientObject where
  proxy : Client.Proxy
  /-- The owner of the client's own waiters. -/
  owner : Nat
  nameWatch : Option Nat := none
  /-- Whether the registry listens to the client becoming ready. -/
  readyLinked : Bool := false
  /-- Whether the registry listens to the client going away. -/
  goneLinked : Bool := false
  status : Status := {}
  deriving Inhabited

/-- A client known to the registry. -/
structure RegistryEntry where
  name : String
  client : Nat
  /-- Whether the client holds a share of the startup lock. -/
  lockHeld : Bool
  deriving Inhabited

/-- The client registry: clients in discovery order and the startup lock. -/
structure Registry where
  clientPrefix : String
  entries : List RegistryEntry := []
  startupLock : Nat := 1
  startedUp : Bool := false
  started : Bool := false
  closed : Bool := false
  nameWatch : Option Nat := none
  /-- Whether the session listens to clients being added and to startup completing. -/
  listening : Bool := true
  deriving Inhabited

/-- Where the reply to a call goes. -/
inductive Route where
  | fetch (index : Nat)
  | names
  | activatableNames
  | avatar (account : Nat)
  /-- A session's own method call: the reply is noted as it came. -/
  | tapCall
  /-- A session's own property fetch: the properties are noted. -/
  | tapProperties
  /-- A session's own name listing: the names are noted. -/
  | tapNames
  deriving Inhabited

/-- Where a signal goes. -/
inductive Listener where
  | registry
  | client (index : Nat)
  | accountChanged (account : Nat)
  | avatarChanged (account : Nat)
  /-- A session's own subscription, noted under `label`; once noted it ends the session's
  subscriptions labelled `drops`. -/
  | tapSignal (label : Json) (drops : List Json)
  /-- A session's own watch of ownership changes, noted under `label`. -/
  | tapOwner (label : Json)
  deriving Inhabited

/-- What the session notes as it runs. -/
inductive Note where
  | built (subject iface : String) (props : Option Properties)
  | watched (subject iface : String)
  | fired (label subject : String) (err : Option String)
  | released (label : String)
  | finished (label subject : String) (err : Option String)
  | allReleased (label : String)
  | acted (kind : String) (result : Json)
  | added (name : String)
  | registryReady
  /-- The registry was asked to give back a share of its startup lock with none left: an error
  for the service's log, which sessions do not report. -/
  | releasedBelowZero
  /-- A note reported as it is written. -/
  | raw (report : Json)
  /-- A warning for the service's log, from the named components, about `error`, with more
  text fields; sessions do not report it. -/
  | warned (components : List String) (error : String) (fields : List (String × String))
      (message : String)
  /-- Notes whose order is not defined; they are reported in a canonical order. -/
  | unordered (notes : List Note)
  deriving Inhabited

/-- Work the transport hands to the dispatch loop. -/
inductive Posted where
  /-- The answer to call `call`. -/
  | reply (call : Nat) (answer : Bus.Answer)
  /-- A signal that arrived. -/
  | signal (sig : Signal)
  deriving Inhabited

/-- A connection to the bus daemon: its unique name, whether it is closed, and the work waiting
for the dispatch loop, oldest first. -/
structure Link where
  unique : String
  closed : Bool := false
  posted : List Posted := []
  deriving Inhabited

/-- The world of a session. -/
structure World where
  descriptors : DescriptorTable := {}
  bus : Bus.Scripted Route Listener := {}
  plains : Array PlainObject := #[]
  accounts : Array AccountObject := #[]
  clients : Array ClientObject := #[]
  waiters : Array Waiter := #[]
  owners : Array Owner := #[]
  fetches : Array Fetch := #[]
  latches : Array Latch := #[]
  registry : Option Registry := none
  plainLabels : List (String × Nat) := []
  accountLabels : List (String × Nat) := []
  waiterLabels : List (String × Nat) := []
  ownerLabels : List (String × Nat) := []
  notes : Array Note := #[]
  /-- The bus daemon behind the transport. -/
  daemon : Wire.Daemon := {}
  /-- The transport's connection; without one, calls go to the scripted bus. -/
  link : Option Link := none
  /-- The session's own subscriptions, by the text of their labels. -/
  tapLabels : List (String × Nat) := []
  deriving Inhabited

/-- Why a run stopped. -/
inductive Fault where
  /-- The program gave up with this message. -/
  | panic (message : String)
  /-- The step budget ran out. -/
  | exhausted
  deriving Inhabited

/-- Computations on the world that may stop with a fault; the world reached so far is kept. -/
abbrev HubM := EStateM Fault World

/-- A label bound to a value, replacing an earlier binding. -/
def bindLabel (labels : List (String × Nat)) (label : String) (i : Nat) : List (String × Nat) :=
  (label, i) :: labels.filter (·.1 != label)

namespace World

/-- The readiness status of a subject. -/
def status (h : World) : Subject → Status
  | .plain i => (h.plains.getD i default).status
  | .account i => (h.accounts.getD i default).status
  | .client i => (h.clients.getD i default).status

/-- The world with a subject's readiness status replaced. -/
def setStatus (h : World) (s : Subject) (st : Status) : World :=
  match s with
  | .plain i => { h with plains := h.plains.modify i fun o => { o with status := st } }
  | .account i => { h with accounts := h.accounts.modify i fun o => { o with status := st } }
  | .client i => { h with clients := h.clients.modify i fun o => { o with status := st } }

/-- Why a subject can no longer be used, if it cannot. -/
def invalidated (h : World) : Subject → Option String
  | .plain i => (h.plains.getD i default).invalid
  | .account i => (h.accounts.getD i default).removed
  | .client i => (h.clients.getD i default).proxy.gone

/-- The bus name and object path of a subject. -/
def target (h : World) : Subject → String × String
  | .plain i => let o := h.plains.getD i default; (o.busName, o.path)
  | .account i => (Account.managerName, (h.accounts.getD i default).path)
  | .client i => let p := (h.clients.getD i default).proxy; (p.name, p.path)

/-- The name a subject is noted under. -/
def subjectName (h : World) : Subject → String
  | .plain i => (h.plains.getD i default).label
  | .account i => (h.accounts.getD i default).path
  | .client i => (h.clients.getD i default).proxy.name

end World

/-! ## Reading and changing records -/

/-- A note taken. -/
def note (n : Note) : HubM Unit := modify fun h => { h with notes := h.notes.push n }

/-- A waiter. -/
def waiter (w : Nat) : HubM Waiter := return (← get).waiters.getD w default

/-- A waiter changed. -/
def modifyWaiter (w : Nat) (f : Waiter → Waiter) : HubM Unit :=
  modify fun h => { h with waiters := h.waiters.modify w f }

/-- A new waiter, and its index. -/
def newWaiter (wt : Waiter) : HubM Nat :=
  modifyGet fun h => (h.waiters.size, { h with waiters := h.waiters.push wt })

/-- An owner. -/
def owner (o : Nat) : HubM Owner := return (← get).owners.getD o default

/-- An owner changed. -/
def modifyOwner (o : Nat) (f : Owner → Owner) : HubM Unit :=
  modify fun h => { h with owners := h.owners.modify o f }

/-- A new open owner, and its index. -/
def newOwner : HubM Nat :=
  modifyGet fun h => (h.owners.size, { h with owners := h.owners.push {} })

/-- A fetch. -/
def fetch (f : Nat) : HubM Fetch := return (← get).fetches.getD f default

/-- A fetch changed. -/
def modifyFetch (f : Nat) (g : Fetch → Fetch) : HubM Unit :=
  modify fun h => { h with fetches := h.fetches.modify f g }

/-- A new fetch, and its index. -/
def newFetch (fs : Fetch) : HubM Nat :=
  modifyGet fun h => (h.fetches.size, { h with fetches := h.fetches.push fs })

/-- A latch. -/
def latch (m : Nat) : HubM Latch := return (← get).latches.getD m default

/-- A latch changed. -/
def modifyLatch (m : Nat) (f : Latch → Latch) : HubM Unit :=
  modify fun h => { h with latches := h.latches.modify m f }

/-- A new latch, and its index. -/
def newLatch (l : Latch) : HubM Nat :=
  modifyGet fun h => (h.latches.size, { h with latches := h.latches.push l })

/-- A client object. -/
def client (c : Nat) : HubM ClientObject := return (← get).clients.getD c default

/-- A client object changed. -/
def modifyClient (c : Nat) (f : ClientObject → ClientObject) : HubM Unit :=
  modify fun h => { h with clients := h.clients.modify c f }

/-- A client's proxy changed. -/
def modifyProxy (c : Nat) (f : Client.Proxy → Client.Proxy) : HubM Unit :=
  modifyClient c fun x => { x with proxy := f x.proxy }

/-- An account object. -/
def account (a : Nat) : HubM AccountObject := return (← get).accounts.getD a default

/-- An account object changed. -/
def modifyAccount (a : Nat) (f : AccountObject → AccountObject) : HubM Unit :=
  modify fun h => { h with accounts := h.accounts.modify a f }

/-- The registry changed, if there is one. -/
def modifyRegistry (f : Registry → Registry) : HubM Unit :=
  modify fun h => { h with registry := h.registry.map f }

/-! ## The transport -/

/-- A call to the bus daemon's own interface, answered at once. -/
def daemonCall (member : String) (args : List Value) : HubM Unit :=
  modify fun h => { h with daemon := (h.daemon.receive Bus.daemonName Bus.daemonPath
    Bus.daemonInterface member args).1 }

/-- Whether the transport has an open connection. -/
def linkOpen : HubM Bool := do
  match (← get).link with
  | some k => return !k.closed
  | none => return false

/-- Work handed to the dispatch loop, after the work already waiting. -/
def post (p : Posted) : HubM Unit :=
  modify fun h => { h with link := h.link.map fun k => { k with posted := k.posted ++ [p] } }

/-- The next work waiting for the dispatch loop, taken off the queue. -/
def takePosted : HubM (Option Posted) := do
  match (← get).link with
  | some k =>
    match k.posted with
    | p :: rest =>
      modify fun h => { h with link := some { k with posted := rest } }
      return some p
    | [] => return none
  | none => return none

/-- The error of a call to a missing destination or a malformed path. -/
def invalidTarget (dest path : String) : String := "bus: invalid call target: " ++ dest ++ " " ++ path

/-- The error of a call on a closed connection. -/
def closedMessage : String := "bus: connection closed"

/-- Call `i` sent through the transport. A bad target or a closed connection fails without
reaching the daemon, and so does a message with malformed names; otherwise the daemon answers.
Either way the answer waits for the dispatch loop. -/
def transmit (i : Nat) (dest path method : String) (args : List Value) : HubM Unit := do
  let some k := (← get).link | return
  if dest.isEmpty || !Wire.validPath path then post (.reply i (.failure (invalidTarget dest path)))
  else if k.closed then post (.reply i (.failure closedMessage))
  else
    let (iface, member) := Wire.splitMethod method
    match Wire.namesProblem path iface member with
    | some problem => post (.reply i (.failure (Wire.invalidMessage problem)))
    | none =>
      let a ← modifyGet fun h =>
        let (d, a) := h.daemon.receive dest path iface member args
        (a, { h with daemon := d })
      post (.reply i a)

/-- A subscription made on the bus, and its id. An open transport also asks the daemon to route
the matching signals. -/
def subscribe (rule : MatchRule) (l : Listener) : HubM Nat := do
  let id ← modifyGet fun h => let (b, id) := h.bus.subscribe rule l; (id, { h with bus := b })
  if ← linkOpen then daemonCall "AddMatch" [.str (Wire.ruleText rule)]
  return id

/-- A subscription ended, once. An open transport also tells the daemon. -/
def unsubscribe (id : Nat) : HubM Unit := do
  let b := (← get).bus
  if !b.isLive id then return
  modify fun h => { h with bus := h.bus.unsubscribe id }
  if ← linkOpen then
    daemonCall "RemoveMatch" [.str (Wire.ruleText (b.subscriptions.getD (id - 1) default).rule)]

/-- The transport's connection closed, once: the daemon stops routing for every live
subscription, and every subscription ends. -/
def closeLink : HubM Unit := do
  if !(← linkOpen) then return
  let subs := (← get).bus.subscriptions.toList
  for s in subs do
    if s.live then daemonCall "RemoveMatch" [.str (Wire.ruleText s.rule)]
  modify fun h => { h with
    link := h.link.map fun k => { k with closed := true }
    bus := { h.bus with subscriptions := h.bus.subscriptions.map fun s => { s with live := false } } }

end Hub

end MissionControl
