import MissionControl.Hub.Proxies
import MissionControl.Hub.Step
import MissionControl.Hub.Snapshot

/-!
# Running a session

The interpreter of the hub. Everything that can call back into a session, a client or the
registry is here, in one block of mutually recursive operations sharing a step budget: each
operation spends one step and hands the rest to what it calls.

* Waiting for an interface (`ensureReady`): a waiter without a callback is refused; an
  unregistered interface fires the waiter with an error at once; a closed owner cancels it; an
  invalid object or an interface already determined fires it at once (with the object's
  invalidation, never an old fetch error) and finishes it. Otherwise the waiter joins the fetch
  in progress, or a new fetch is started and its request sent, which may be answered before the
  request returns. Only a new fetch reports true, and then the interface starts being watched.
* Completing a fetch (`complete`): a forgotten fetch does nothing. A successful one builds
  object state first. Then every waiter on the fetch fires in registration order, including
  waiters joining while it fires; if the object was disposed of meanwhile nothing more
  happens, otherwise the interface becomes ready and every waiter not cancelled is finished.
* Waiting for several interfaces (`waitEach`): one waiter per interface, all counting on one
  latch that runs the finale with the first error once all have fired, and the release once all
  are released.
* Signals go to the live subscriptions that select them when they are emitted, in subscription
  order, skipping those that ended meanwhile.
* A session callback notes that it fired and runs its actions one level deeper, up to
  `maxDepth` levels; each action is noted with its answer after it ran.
-/

namespace MissionControl

namespace Hub

open Readiness Request

/-- The components of the readiness broker's log. -/
def readinessLog : List String := ["daemon", "readiness"]

/-- The components of the client registry's log. -/
def registryLog : List String := ["daemon", "registry"]

/-- Session callbacks nest at most this deep. -/
def maxDepth : Nat := 8

/-- The error of an interface without a descriptor. -/
def unregisteredMessage (iface type : String) : String :=
  "readiness: interface not registered for type: " ++ iface ++ " on " ++ type

/-- The error of waiting for no interface at all. -/
def noInterfacesMessage (busName type : String) : String :=
  "readiness: no interfaces to wait for: " ++ busName ++ " on " ++ type

/-- The panic of a registry step in a session without a registry. -/
def nilRegistry : Fault := .panic "runtime error: invalid memory address or nil pointer dereference"

/-- Waiter `w` joins fetch `f` and its owner. -/
def attach (f w : Nat) (o : Option Nat) : HubM Unit := do
  modifyWaiter w fun x => { x with fetch := some f }
  modifyFetch f fun x => { x with waiters := x.waiters.push w }
  match o with
  | some o => modifyOwner o (·.track w)
  | none => pure ()

/-- A new fetch of the interface of `d` on `s`, in progress from now on, with waiter `w` (owned
by `o`) as its first waiter; its index. -/
def openFetch (s : Subject) (d : Descriptor) (w : Nat) (o : Option Nat) : HubM Nat := do
  let f ← newFetch { subject := s, descriptor := d }
  modify fun h => h.setStatus s ((h.status s).start d.name f)
  attach f w o
  return f

/-- What a completed fetch leaves behind before its waiters fire: the object's state built from
the properties, or a warning about the failure. -/
def absorbResult (fs : Fetch) : Except String (Option Properties) → HubM Unit
  | .ok props => build fs.subject fs.descriptor props
  | .error e => do
    note (.warned readinessLog e [("bus_name", ((← get).target fs.subject).1),
      ("interface", fs.descriptor.name)] "property fetch failed")

/-- The end of a fetch whose waiters have all fired: unless the object was disposed of
meanwhile, the interface becomes ready with outcome `err` and every waiter neither cancelled nor
done is finished. -/
def settleFetch (f : Nat) (err : Option String) : HubM Unit := do
  modifyFetch f fun x => { x with firing := false }
  let fs ← fetch f
  if fs.disposed then return
  modify fun h => h.setStatus fs.subject ((h.status fs.subject).markReady fs.descriptor.name err)
  for w in fs.waiters do
    let wt ← waiter w
    if !wt.cancelled && !wt.done then finish w
  modifyFetch f fun x => { x with waiters := #[] }

/-- A client first seen under `name`, with owner `u` and activatability `act`, added to registry
`r`: it gets a proxy and an owner, holds a share of the startup lock if startup is not complete,
is linked to the registry and announced; its index. -/
def enroll (r : Registry) (name u : String) (act : Bool) : HubM Nat := do
  let o ← newOwner
  let fresh : ClientObject := { proxy := Client.Proxy.create name u act, owner := o }
  let c ← modifyGet fun h => (h.clients.size, { h with clients := h.clients.push fresh })
  let held := !r.startedUp
  modifyRegistry fun x =>
    { x with entries := x.entries ++ [{ name, client := c, lockHeld := held }],
             startupLock := if held then x.startupLock + 1 else x.startupLock }
  modifyClient c fun x => { x with readyLinked := true, goneLinked := true }
  if r.listening then note (.added name)
  return c

/-- The registry marks itself started and watches every ownership change on the bus. -/
def openRegistry : HubM Unit := do
  modifyRegistry fun x => { x with started := true }
  let id ← subscribe (Bus.ownershipRule "") .registry
  modifyRegistry fun x => { x with nameWatch := some id }

/-- Client `c`, known under `name`, marks itself started and watches the ownership of its
name. -/
def openClient (c : Nat) (name : String) : HubM Unit := do
  modifyProxy c fun p => { p with started := true }
  let id ← subscribe (Bus.ownershipRule name) (.client c)
  modifyClient c fun x => { x with nameWatch := some id }

/-- The first unanswered call that matches every non-empty field of a pick. -/
def findCall (calls : Array (Bus.Call Route)) (method dest path iface : String) : Option Nat :=
  (calls.toList.zipIdx.find? fun (c, _) =>
    !c.answered && (method.isEmpty || c.method == method) && (dest.isEmpty || c.dest == dest) &&
      (path.isEmpty || c.path == path) &&
      (iface.isEmpty || match c.args with
        | .str a :: _ => a == iface
        | _ => false)).map (·.2)

/-- The subject a session label names: a plain object first, then an account. -/
def subjectOf? (label : String) : HubM (Option Subject) := do
  let h ← get
  match h.plainLabels.lookup label with
  | some i => return some (.plain i)
  | none => return (h.accountLabels.lookup label).map .account

/-- The answer naming an unknown label. -/
def unknownLabel (what label : String) : Json := badInput ("unknown " ++ what ++ " " ++ Text.quote label)

/-- The owner a session label names; `none` for no label, an error answer for an unknown one. -/
def ownerOf? : Option String → HubM (Except Json (Option Nat))
  | none => return .ok none
  | some label => do
    match (← get).ownerLabels.lookup label with
    | some o => return .ok (some o)
    | none => return .error (unknownLabel "owner" label)

/-- An error answer of a descriptor registration. -/
def descriptorErrorAnswer (e : DescriptorError) : Json :=
  errorAnswer (match e with
    | .duplicate .. => "ErrDuplicateDescriptor"
    | _ => "ErrInvalidDescriptor") e.message

/-- The client descriptors: the client interface and the three roles. -/
def clientDescriptors : List (String × Builder × Option Watcher) :=
  [(Client.clientInterface, .clientCore, none), (Client.handlerInterface, .clientHandler, none),
    (Client.approverInterface, .clientApprover, none), (Client.observerInterface, .clientObserver, none)]

/-- The account descriptors: the account and avatar interfaces, both watched. -/
def accountDescriptors : List (String × Builder × Option Watcher) :=
  [(Account.accountInterface, .accountCore, some .account),
    (Account.avatarInterface, .accountAvatar, some .account)]

/-- Registers descriptors of an object type; the answer reports the first failure. -/
def registerAll (type : String) (ds : List (String × Builder × Option Watcher)) : HubM Json := do
  let (t, err) := (← get).descriptors.addAll type ds
  modify fun h => { h with descriptors := t }
  match err with
  | some e => return descriptorErrorAnswer e
  | none => return .obj [("ok", .bool true)]

/-- The answer of a descriptor lookup. -/
def lookupAnswer (d? : Option Descriptor) (withWatch : Bool) : Json :=
  match d? with
  | none => .obj [("found", .bool false)]
  | some d =>
    .obj ([("found", .bool true), ("name", .str d.name)] ++
      if withWatch then [("monitor", .bool d.watch.isSome)] else [])

/-- The registry, or the panic of a session without one. -/
def theRegistry : HubM Registry := do
  match (← get).registry with
  | some r => return r
  | none => throw nilRegistry

/-- The steps that never call back into the session. -/
def performPlain (step : Step) : HubM Json := do
  match step with
  | .addDescriptor type name build watch =>
    match (← get).descriptors.add type name (if build then some .record else none)
        (if watch then some .record else none) with
    | .ok t =>
      modify fun h => { h with descriptors := t }
      return .obj [("ok", .bool true)]
    | .error e => return descriptorErrorAnswer e
  | .lookupDescriptor type iface => return lookupAnswer ((← get).descriptors.lookup? type iface) true
  | .brokerLookup type iface => return lookupAnswer ((← get).descriptors.lookup? type iface) false
  | .registerDescriptors accounts =>
    if accounts then registerAll Account.objectType accountDescriptors
    else registerAll Client.objectType clientDescriptors
  | .object label busName path =>
    modify fun h =>
      { h with plains := h.plains.push { label, busName, path },
               plainLabels := bindLabel h.plainLabels label h.plains.size }
    return .null
  | .owner label =>
    let o ← newOwner
    modify fun h => { h with ownerLabels := bindLabel h.ownerLabels label o }
    return .null
  | .closeOwner label =>
    match (← get).ownerLabels.lookup label with
    | some o =>
      closeOwner o
      return .null
    | none => return unknownLabel "owner" label
  | .cancel none => return .null
  | .cancel (some label) =>
    match (← get).waiterLabels.lookup label with
    | some w =>
      let _ ← cancelWaiter w
      return .null
    | none => return unknownLabel "waiter" label
  | .respond dest table failure =>
    modify fun h => { h with bus := h.bus.respond dest Bus.getAllMethod (.table table failure) }
    return .null
  | .respondNames method answer =>
    modify fun h => { h with bus := h.bus.respond "" method (.fixed answer) }
    return .null
  | .invalidate obj reason =>
    match (← get).plainLabels.lookup obj with
    | some i =>
      modify fun h => { h with plains := h.plains.modify i fun o =>
        { o with invalid := if reason.isEmpty then none else some reason } }
      return .null
    | none => return unknownLabel "object" obj
  | .dispose obj =>
    let start := (← get).notes.size
    match ← subjectOf? obj with
    | some (.account a) => disposeAccount a
    | some s => disposeFetches s
    | none => return unknownLabel "object" obj
    groupNotesFrom start
    return .null
  | .remove obj =>
    match (← get).accountLabels.lookup obj with
    | some a =>
      let start := (← get).notes.size
      removeAccount a
      groupNotesFrom start
      return .null
    | none => return unknownLabel "account" obj
  | .isReady obj iface =>
    match ← subjectOf? obj with
    | some s => return .obj [("ready", .bool (((← get).status s).isReady iface))]
    | none => return unknownLabel "object" obj
  | .account path =>
    modify fun h =>
      { h with accounts := h.accounts.push { path },
               accountLabels := bindLabel h.accountLabels path h.accounts.size }
    return .null
  | .close =>
    let _ ← theRegistry
    closeRegistry
    return .null
  | .lookup name =>
    let r ← theRegistry
    match r.entries.find? (·.name == name) with
    | some e => return .obj [("found", .bool true), ("name", .str e.name)]
    | none => return .obj [("found", .bool false)]
  | .caps => return capabilitiesReport (← get) (← theRegistry)
  | .handlers request channels unique =>
    let h ← get
    let r ← theRegistry
    let proxies := (registeredClients h r).map (·.proxy)
    -- the registry runs with the default match function
    return .obj [("handlers",
      match Registry.possibleHandlers Client.matchFilters proxies request channels unique with
      | some names => .ofStrings names
      | none => .null)]
  | .uniqueName => return .obj [("unique", .str (← get).bus.unique)]
  | .pendingCount dest method => return .obj [("n", .ofNat ((← get).bus.pendingCount dest method))]
  | .callCount dest method => return .obj [("n", .ofNat ((← get).bus.callCount dest method))]
  | _ => return badInput "step needs the interpreter"

mutual

/-- Waiter `w` fires for subject `s` with outcome `err`, unless it is cancelled or done. -/
def fire : Nat → Nat → Subject → Option String → HubM Unit
  | 0, _, _, _ => throw .exhausted
  | n + 1, w, s, err => do
    let wt ← waiter w
    if wt.cancelled || wt.done then return
    match wt.reaction with
    | none => pure ()
    | some (.script label depth actions) =>
      note (.fired label ((← get).subjectName s) err)
      if depth < maxDepth then runActions n (depth + 1) actions
    | some (.latch m) => latchFired n m s err
    | some (.clientFetched c) => clientFetched n c err

/-- Latch `m` counts one of its waiters fired; the last one runs the finale with the first
error seen. -/
def latchFired : Nat → Nat → Subject → Option String → HubM Unit
  | 0, _, _, _ => throw .exhausted
  | n + 1, m, s, err => do
    let l ← latch m
    let firstError := if l.firstError.isNone then err else l.firstError
    let (c, hit) := l.toFire.tick
    modifyLatch m fun x => { x with firstError, toFire := c }
    if hit then
      match l.finale with
      | .silent => pure ()
      | .script label depth actions =>
        note (.finished label ((← get).subjectName s) firstError)
        if depth < maxDepth then runActions n (depth + 1) actions
      | .clientRoles c => becomeReady c

/-- Client `c` learns how its client-interface fetch went: after a failure, or with no role
declared, it is ready; otherwise it waits for every declared role. -/
def clientFetched : Nat → Nat → Option String → HubM Unit
  | 0, _, _ => throw .exhausted
  | n + 1, c, err => do
    match err with
    | some _ => becomeReady c
    | none =>
      let cl ← client c
      let roles := cl.proxy.roles
      if roles.isEmpty then becomeReady c
      else
        let m ← newLatch
          { finale := .clientRoles c, toFire := ⟨roles.length⟩, toRelease := ⟨roles.length⟩ }
        waitEach n (.client c) Client.objectType roles m (some cl.owner)

/-- One waiter counting on latch `m` for each interface, in order. -/
def waitEach : Nat → Subject → String → List String → Nat → Option Nat → HubM Unit
  | 0, _, _, _, _, _ => throw .exhausted
  | _ + 1, _, _, [], _, _ => pure ()
  | n + 1, s, type, iface :: rest, m, o => do
    let w ← newWaiter { reaction := some (.latch m), release := .latch m, owner := o }
    let _ ← ensureReady n s type iface (some w)
    waitEach n s type rest m o

/-- Waits for `iface` of `s` with waiter `w`; whether this started the fetch. -/
def ensureReady : Nat → Subject → String → String → Option Nat → HubM Bool
  | 0, _, _, _, _ => throw .exhausted
  | n + 1, s, type, iface, w? => do
    let some w := w? | return false
    let wt ← waiter w
    if wt.reaction.isNone then return false
    match (← get).descriptors.lookup? type iface with
    | none =>
      fire n w s (some (unregisteredMessage iface type))
      finish w
      return false
    | some d =>
      let first ← ensureFetch n s d w
      if first then
        match d.watch with
        | some k => watch s d.name k
        | none => pure ()
      return first

/-- Registers waiter `w` for the interface of `d` on `s`, starting the fetch if none is in
progress; whether it started one. -/
def ensureFetch : Nat → Subject → Descriptor → Nat → HubM Bool
  | 0, _, _, _ => throw .exhausted
  | n + 1, s, d, w => do
    let wt ← waiter w
    let closed ← ownerClosed wt.owner
    if closed then
      let _ ← cancelWaiter w
      return false
    match (← get).invalidated s with
    | some e =>
      fire n w s (some e)
      finish w
      return false
    | none =>
      let st := (← get).status s
      if st.isReady d.name then
        fire n w s ((← get).invalidated s)
        finish w
        return false
      match st.fetching? d.name with
      | some f =>
        attach f w wt.owner
        return false
      | none =>
        let f ← openFetch s d w wt.owner
        let (dest, path) := (← get).target s
        call n dest path Bus.getAllMethod [.str d.name] (.fetch f)
        return true

/-- A call sent on the bus: through the transport when there is one, otherwise on the scripted
bus, where a responder for it answers at once. -/
def call : Nat → String → String → String → List Value → Route → HubM Unit
  | 0, _, _, _, _, _ => throw .exhausted
  | n + 1, dest, path, method, args, route => do
    let i ← modifyGet fun h =>
      let (b, i) := h.bus.record dest path method args route
      (i, { h with bus := b })
    if (← get).link.isSome then transmit i dest path method args
    else
      match (← get).bus.responderFor? dest method with
      | some r => answerCall n i (r.answer args)
      | none => pure ()

/-- Call `i` answered; its reply goes where the call said. Answering twice panics. -/
def answerCall : Nat → Nat → Bus.Answer → HubM Unit
  | 0, _, _ => throw .exhausted
  | n + 1, i, a => do
    let c := (← get).bus.calls.getD i default
    if c.answered then
      throw (.panic ("bustest: " ++ c.method ++ " to " ++ c.dest ++ " answered twice"))
    modify fun h => { h with bus := h.bus.markAnswered i }
    match c.route with
    | .fetch f => complete n f a.properties?
    | .names => namesListed n a.strings?
    | .activatableNames => activatableListed n a.strings?
    | .avatar acc =>
      match a.properties? with
      | .ok p => modifyAccount acc fun x => { x with avatar := x.avatar.apply (p.getD []) }
      | .error _ => pure ()
    | .tapCall => note (.raw (callReport a))
    | .tapProperties => note (.raw (propertiesReport a))
    | .tapNames => note (.raw (namesReport a))

/-- Fetch `f` completes with properties or an error. -/
def complete : Nat → Nat → Except String (Option Properties) → HubM Unit
  | 0, _, _ => throw .exhausted
  | n + 1, f, result => do
    let fs ← fetch f
    if fs.disposed then return
    let err := match result with
      | .ok _ => none
      | .error e => some e
    absorbResult fs result
    modifyFetch f fun x => { x with firing := true }
    fanOut n f 0 fs.subject err
    settleFetch f err

/-- The waiters of fetch `f` from position `i` on fire, the list being read afresh each time. -/
def fanOut : Nat → Nat → Nat → Subject → Option String → HubM Unit
  | 0, _, _, _, _ => throw .exhausted
  | n + 1, f, i, s, err => do
    match (← fetch f).waiters[i]? with
    | some w =>
      fire n w s err
      fanOut n f (i + 1) s err
    | none => pure ()

/-- A signal emitted on the bus. -/
def emit : Nat → Signal → HubM Unit
  | 0, _ => throw .exhausted
  | n + 1, sig => do deliverEach n ((← get).bus.selecting sig) sig

/-- A signal delivered to the subscriptions chosen when it was emitted, each if still live. -/
def deliverEach : Nat → List Nat → Signal → HubM Unit
  | 0, _, _ => throw .exhausted
  | _ + 1, [], _ => pure ()
  | n + 1, id :: rest, sig => do
    let b := (← get).bus
    if b.isLive id then
      match (b.subscriptions.getD (id - 1) default).listener with
      | .registry =>
        match Bus.ownershipChange? sig with
        | some (name, old, new) => registryOwnerChanged n name old new
        | none => pure ()
      | .client c =>
        match Bus.ownershipChange? sig with
        | some (name, _, new) => clientOwnerChanged c name new
        | none => pure ()
      | .accountChanged a => applyAccountChange a sig.body
      | .avatarChanged a =>
        let acc ← account a
        call n Account.managerName acc.path Bus.getAllMethod [.str Account.avatarInterface] (.avatar a)
      | .tapSignal label drops =>
        note (.raw (signalReport label sig))
        for d in drops do
          match (← get).tapLabels.lookup d.render with
          | some id => unsubscribe id
          | none => pure ()
      | .tapOwner label =>
        match Bus.ownershipChange? sig with
        | some (name, old, new) =>
          note (.raw (.obj [("noc", label), ("name", .str name), ("old", .str old), ("new", .str new)]))
        | none => pure ()
    deliverEach n rest sig

/-- The registry starts, once: it watches every ownership change and lists the names. -/
def startRegistry : Nat → HubM Unit
  | 0 => throw .exhausted
  | n + 1 => do
    let r ← theRegistry
    if r.started then return
    openRegistry
    call n Bus.daemonName Bus.daemonPath Bus.listNamesMethod [] .names

/-- The registry receives the owned names (an error lists none), then lists the activatable
ones. -/
def namesListed : Nat → Except String (List String) → HubM Unit
  | 0, _ => throw .exhausted
  | n + 1, result => do
    let some r ← registry? | return
    if r.closed then return
    if let .error e := result then note (.warned registryLog e [] "list names failed")
    registerEach n (match result with
      | .ok xs => xs
      | .error _ => []) "" false
    call n Bus.daemonName Bus.daemonPath Bus.listActivatableMethod [] .activatableNames

/-- The registry receives the activatable names (an error lists none) and releases the lock's
first share. -/
def activatableListed : Nat → Except String (List String) → HubM Unit
  | 0, _ => throw .exhausted
  | n + 1, result => do
    let some r ← registry? | return
    if r.closed then return
    if let .error e := result then note (.warned registryLog e [] "list activatable names failed")
    registerEach n (match result with
      | .ok xs => xs
      | .error _ => []) "" true
    releaseStartupLock

/-- The registry hears that `name` passed from `old` to `new`; a name gaining its first owner
is a sighting. -/
def registryOwnerChanged : Nat → String → String → String → HubM Unit
  | 0, _, _, _ => throw .exhausted
  | n + 1, name, old, new => do
    let some r ← registry? | return
    if r.closed then return
    if old.isEmpty && !new.isEmpty then register n name new false

/-- Sightings of several names with the same owner and activatability, in order. -/
def registerEach : Nat → List String → String → Bool → HubM Unit
  | 0, _, _, _ => throw .exhausted
  | _ + 1, [], _, _ => pure ()
  | n + 1, name :: rest, u, act => do
    register n name u act
    registerEach n rest u act

/-- A sighting of a name with an owner (empty: none known) and activatability. Only valid
client names count. A known client is updated; a new one gets a proxy, which holds a share of
the startup lock if startup is not complete, is announced and starts. -/
def register : Nat → String → String → Bool → HubM Unit
  | 0, _, _, _ => throw .exhausted
  | n + 1, name, u, act => do
    let some r ← registry? | return
    if !name.startsWith r.clientPrefix then return
    match Client.checkName (String.ofList (name.toList.drop r.clientPrefix.length)) with
    | .error e =>
      note (.warned registryLog e.message [("name", name)] "ignoring client")
    | .ok () =>
      match r.entries.find? (·.name == name) with
      | some e =>
        if act then modifyProxy e.client fun p => { p with activatable := true }
        else modifyProxy e.client (·.setActive u)
      | none => startClient n (← enroll r name u act)

/-- Client `c` starts, once: it watches its name and waits for its client interface. -/
def startClient : Nat → Nat → HubM Unit
  | 0, _ => throw .exhausted
  | n + 1, c => do
    let cl ← client c
    if cl.proxy.started then return
    openClient c cl.proxy.name
    let w ← newWaiter { reaction := some (.clientFetched c), owner := some cl.owner }
    let _ ← ensureReady n (.client c) Client.objectType Client.clientInterface (some w)

/-- Actions of a callback, at `depth`, each noted with its answer after it ran. -/
def runActions : Nat → Nat → List Json → HubM Unit
  | 0, _, _ => throw .exhausted
  | _ + 1, _, [] => pure ()
  | n + 1, depth, a :: rest => do
    let r ← runStep n depth a
    note (.acted (stepKind a) r)
    runActions n depth rest

/-- One step at `depth`, read from its document; the answer. -/
def runStep : Nat → Nat → Json → HubM Json
  | 0, _, _ => throw .exhausted
  | n + 1, depth, j =>
    match Step.decode j with
    | .error m => pure (badInput m)
    | .ok step => perform n depth step

/-- One step at `depth`; the answer. -/
def perform : Nat → Nat → Step → HubM Json
  | 0, _, _ => throw .exhausted
  | n + 1, depth, step => do
    match step with
    | .ensure obj type iface label ownerLabel release callback actions =>
      let some s ← subjectOf? obj | return unknownLabel "object" obj
      match ← ownerOf? ownerLabel with
      | .error a => return a
      | .ok o =>
        let w? ← match label with
          | none => pure none
          | some l => do
            let w ← newWaiter {
              reaction := if callback then some (.script l depth actions) else none
              release := if release then .script l else .silent
              owner := o }
            modify fun h => { h with waiterLabels := bindLabel h.waiterLabels l w }
            pure (some w)
        let first ← ensureReady n s type iface w?
        return .obj [("first", .bool first)]
    | .waitAll obj type ifaces label ownerLabel final release actions =>
      let some s ← subjectOf? obj | return unknownLabel "object" obj
      match ← ownerOf? ownerLabel with
      | .error a => return a
      | .ok o =>
        if ifaces.isEmpty then
          return errorAnswer "ErrNoInterfaces" (noInterfacesMessage ((← get).target s).1 type)
        let m ← newLatch {
          finale := if final then .script label depth actions else .silent
          release := if release then some label else none
          toFire := ⟨ifaces.length⟩, toRelease := ⟨ifaces.length⟩ }
        waitEach n s type ifaces m o
        return .obj [("ok", .bool true)]
    | .whenReady obj label ownerLabel actions =>
      let some a := (← get).accountLabels.lookup obj | return unknownLabel "account" obj
      match ← ownerOf? ownerLabel with
      | .error j => return j
      | .ok o =>
        let ifaces := [Account.accountInterface, Account.avatarInterface]
        let m ← newLatch { finale := .script label depth actions, toFire := ⟨2⟩, toRelease := ⟨2⟩ }
        waitEach n (.account a) Account.objectType ifaces m o
        return .obj [("err", .null)]
    | .reply pick answer =>
      let calls := (← get).bus.calls
      match pick with
      | .index i =>
        if i < 0 || i ≥ calls.size then return badInput ("no call " ++ toString i)
        answerCall n i.toNat answer
        return .null
      | .first method dest path iface =>
        match findCall calls method dest path iface with
        | none => return .obj [("error", .str "no_such_call")]
        | some i =>
          answerCall n i answer
          return .null
    | .emit sig =>
      emit n sig
      return .null
    | .ownerChanged name old new =>
      emit n (Bus.ownershipSignal name old new)
      return .null
    | .accountSignal path avatar body =>
      let (iface, member) := if avatar then (Account.avatarInterface, Account.avatarChangedMember)
        else (Account.accountInterface, Account.changedMember)
      emit n { sender := Account.managerName, path, name := iface ++ "." ++ member, body }
      return .null
    | .start =>
      startRegistry n
      return .null
    | other => performPlain other

end

end Hub

end MissionControl
