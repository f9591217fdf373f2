import MissionControl.Hub.Settle

/-!
# Proxies and the registry, without callbacks

What clients, accounts and the registry do that never runs a waiter's reaction:

* building object state from a completed fetch, and starting to watch an interface;
* an account applying a change signal, being removed (once) and being disposed of;
* a client becoming ready (once), changing owner, going away (once) and being disposed of;
* the registry releasing its startup lock, forgetting a client and closing.

The startup lock starts at one, for the listing of activatable names; each client found before
startup completed holds one more share until it is ready or forgotten. When the lock reaches
zero startup is complete, which is noted once; after that the lock no longer moves.
-/

namespace MissionControl

namespace Hub

open Readiness

/-- The panic of a builder or watcher applied to an object of the wrong kind. -/
def conversionPanic (s : Subject) (wanted : String) : Fault :=
  let actual := match s with
    | .plain _ => "*main.object"
    | .account _ => "*account.Proxy"
    | .client _ => "*client.Proxy"
  .panic ("interface conversion: readiness.Object is " ++ actual ++ ", not " ++ wanted)

/-- A completed fetch's properties turned into the state of `s`, as the descriptor says. -/
def build (s : Subject) (d : Descriptor) (props : Option Properties) : HubM Unit := do
  let p := props.getD []
  match d.build, s with
  | .record, _ => note (.built ((← get).subjectName s) d.name props)
  | .clientCore, .client c => modifyProxy c (·.buildCore p)
  | .clientHandler, .client c => modifyProxy c (·.buildHandler p)
  | .clientApprover, .client c => modifyProxy c (·.buildApprover p)
  | .clientObserver, .client c => modifyProxy c (·.buildObserver p)
  | .accountCore, .account a => modifyAccount a fun x => { x with props := x.props.apply p }
  | .accountAvatar, .account a => modifyAccount a fun x => { x with avatar := x.avatar.apply p }
  | .accountCore, _ | .accountAvatar, _ => throw (conversionPanic s "*account.Proxy")
  | _, _ => throw (conversionPanic s "*client.Proxy")

/-- Account `a` subscribes to the change signal of `iface`. -/
def watchAccount (a : Nat) (iface : String) : HubM Unit := do
  let acc ← account a
  let avatar := iface == Account.avatarInterface
  let rule : MatchRule :=
    if avatar then
      { sender := Account.managerName, path := acc.path, interface := Account.avatarInterface,
        member := Account.avatarChangedMember }
    else
      { sender := Account.managerName, path := acc.path, interface := Account.accountInterface,
        member := Account.changedMember }
  let id ← subscribe rule (if avatar then .avatarChanged a else .accountChanged a)
  modifyAccount a fun x => { x with subscriptions := x.subscriptions ++ [id] }

/-- Watching `iface` of `s` begins, as the descriptor's watcher says. -/
def watch (s : Subject) (iface : String) : Watcher → HubM Unit
  | .record => do note (.watched ((← get).subjectName s) iface)
  | .account =>
    match s with
    | .account a => watchAccount a iface
    | _ => throw (conversionPanic s "*account.Proxy")

/-- Account `a` applies a change signal whose body is one plain map. -/
def applyAccountChange (a : Nat) (body : List Value) : HubM Unit :=
  match body with
  | [.map m] => modifyAccount a fun x => { x with props := x.props.apply (m.getD []) }
  | _ => pure ()

/-- Account `a` disposed of: its subscriptions end and its fetches are forgotten. -/
def disposeAccount (a : Nat) : HubM Unit := do
  let acc ← account a
  for id in acc.subscriptions do unsubscribe id
  modifyAccount a fun x => { x with subscriptions := [] }
  disposeFetches (.account a)

/-- Account `a` removed, once: it becomes invalid and is disposed of. -/
def removeAccount (a : Nat) : HubM Unit := do
  let acc ← account a
  if acc.removed.isSome then return
  modifyAccount a fun x => { x with removed := some Account.removedMessage }
  disposeAccount a

/-- The registry, if there is one. -/
def registry? : HubM (Option Registry) := return (← get).registry

/-- One share of the startup lock released; the last one completes startup. Nothing moves once
startup is complete, and the lock never goes below zero: a release with no share left is logged
as an error and changes nothing. -/
def releaseStartupLock : HubM Unit := do
  let some r ← registry? | return
  if r.startedUp then return
  if r.startupLock == 0 then
    note .releasedBelowZero
    return
  let lock := r.startupLock - 1
  modifyRegistry fun x => { x with startupLock := lock }
  if lock > 0 then return
  modifyRegistry fun x => { x with startedUp := true }
  if r.listening then note .registryReady

/-- The registry learns that client `c` is ready: its share of the lock is released. -/
def registryClientReady (c : Nat) : HubM Unit := do
  let some r ← registry? | return
  match r.entries.find? (·.client == c) with
  | some e =>
    if e.lockHeld then
      modifyRegistry fun x =>
        { x with entries := x.entries.map fun y => if y.client == c then { y with lockHeld := false } else y }
      releaseStartupLock
  | none => pure ()

/-- Client `c` ready, once; the registry is told if it listens. -/
def becomeReady (c : Nat) : HubM Unit := do
  let cl ← client c
  if cl.proxy.ready then return
  modifyProxy c fun p => { p with ready := true }
  if cl.readyLinked then registryClientReady c

/-- Client `c` disposed of: its name watch ends, its waiters are cancelled, its fetches are
forgotten and nobody listens to it any more. -/
def disposeClient (c : Nat) : HubM Unit := do
  let cl ← client c
  match cl.nameWatch with
  | some id =>
    unsubscribe id
    modifyClient c fun x => { x with nameWatch := none }
  | none => pure ()
  closeOwner cl.owner
  disposeFetches (.client c)
  modifyClient c fun x => { x with readyLinked := false, goneLinked := false }

/-- The registry forgets the client named `name`; a share of the lock it held is released. -/
def registryForget (name : String) : HubM Unit := do
  let some r ← registry? | return
  match r.entries.find? (·.name == name) with
  | none => pure ()
  | some e =>
    modifyClient e.client fun x => { x with readyLinked := false, goneLinked := false }
    modifyRegistry fun x => { x with entries := x.entries.filter (·.name != name) }
    disposeClient e.client
    if e.lockHeld then releaseStartupLock

/-- Client `c` gone, once, for `reason`: its waiters are cancelled and the registry, if it
listens, forgets it. -/
def invalidateClient (c : Nat) (reason : String) : HubM Unit := do
  let cl ← client c
  if cl.proxy.gone.isSome then return
  modifyProxy c fun p => { p with gone := some reason }
  closeOwner cl.owner
  if (← client c).goneLinked then registryForget cl.proxy.name

/-- Client `c` hears that `name` passed to `new` (empty: no owner). Losing the owner makes a
client inactive, and gone unless its name can be activated. -/
def clientOwnerChanged (c : Nat) (name new : String) : HubM Unit := do
  let cl ← client c
  if name != cl.proxy.name then return
  if !new.isEmpty then
    modifyProxy c (·.setActive new)
    return
  modifyProxy c fun p => { p with active := false, uniqueName := "" }
  if cl.proxy.activatable then return
  invalidateClient c (Client.goneMessage cl.proxy.name)

/-- The registry closed, once: its name watch ends and every client is disposed of and
forgotten. Startup completion is not announced by closing. -/
def closeRegistry : HubM Unit := do
  let some r ← registry? | return
  if r.closed then return
  modifyRegistry fun x => { x with closed := true, nameWatch := none }
  match r.nameWatch with
  | some id => unsubscribe id
  | none => pure ()
  for e in r.entries do
    modifyClient e.client fun x => { x with readyLinked := false, goneLinked := false }
    disposeClient e.client
  modifyRegistry fun x => { x with entries := [], listening := false }

end Hub

end MissionControl
