import MissionControl.Proofs.Hub.Triple

/-!
# Invariants of the interpreter

The operations of the interpreter call one another with a shared step budget, and a callback
may start any operation while another one is half done: a fetch fans out to its waiters, one of
them closes an owner, whose waiters are cancelled while the fan-out goes on. An invariant of the
hub therefore cannot be checked one top-level step at a time; it has to survive every stretch of
code between two calls.

An `Invariant` says what holds of the world while a stack of operations is under way (`Frame`),
and lists its obligations: one for each stretch of the interpreter that changes the world
without calling back, stated with the facts the code has checked before it. Besides the
invariant itself it names what holds of a waiter about to fire (`Ready`), of a reaction about to
run (`Reacts`) and of a call about to be sent (`Calls`); the obligations say where each of them
comes from.

The main statement is `Invariant.kept`: at every step budget, every operation of the interpreter
keeps an invariant that meets its obligations (`Kept`). Firing a waiter needs `Ready` and
sending a call needs `Calls`; completing a fetch starts with its fan-out on the stack and ends
without it, and reading the listings of the registry likewise.
-/

set_option autoImplicit false

namespace MissionControl.Hub

open Readiness

/-- An operation under way, as far as an invariant needs to know. -/
inductive Frame where
  /-- The waiters of fetch `fetch` are firing; those before position `next` have been reached. -/
  | fanOut (fetch next : Nat)
  /-- Waiter `waiter`, registered on no fetch, fires and is finished right after. -/
  | alone (waiter : Nat)
  /-- The registry reads the names on the bus and has not yet asked for the activatable ones. -/
  | naming
  /-- The registry reads the activatable names and has not yet released the first share of its
  startup lock. -/
  | listing
  /-- A wait for several interfaces of `subject` makes its waiters, each counting on latch `latch`
  and owned by `owner`. -/
  | waiting (subject : Subject) (latch : Nat) (owner : Option Nat)
  /-- Client `client` has just been added to the registry and has not yet started. -/
  | enrolling (client : Nat)
  /-- The registry, open, registers the names it heard of. -/
  | registering

/-- The operation a reply starts, pushed on the stack. -/
def Frame.onReply : Route → List Frame → List Frame
  | .fetch f, S => .fanOut f 0 :: S
  | .names, S => .naming :: S
  | .activatableNames, S => .listing :: S
  | _, S => S

/-- Asking for the activatable names ends the reading of the names. -/
def Frame.onCall : Route → List Frame → List Frame
  | .activatableNames, .naming :: S => S
  | _, S => S

/-- Whether a note is one that any operation may take: neither a waiter firing nor the registry
completing its startup or giving back a share of its lock, which only their own operations note,
nor a group of notes. -/
def Note.isPlain : Note → Bool
  | .fired .. => false
  | .registryReady => false
  | .releasedBelowZero => false
  | .unordered _ => false
  | _ => true

/-- Whether a session step is one a registry is driven by from outside: it is started or
closed, a request on the bus is answered or given a responder, or a signal is emitted. -/
def Step.drivesRegistry : Step → Bool
  | .start | .close | .reply .. | .respond .. | .respondNames .. | .emit _ | .ownerChanged .. => true
  | _ => false

/-- Every step a document reads as drives a registry. -/
def Step.Drives (j : Json) : Prop := ∀ step, Step.decode j = .ok step → step.drivesRegistry = true

namespace World

/-- Waiter `w` was just made: it is the newest waiter, registered on no fetch, and neither
cancelled, done nor released. -/
def Fresh (h : World) (w : Nat) : Prop :=
  w + 1 = h.waiters.size ∧ (h.waiters.getD w default).fetch = none ∧
    (h.waiters.getD w default).cancelled = false ∧ (h.waiters.getD w default).done = false ∧
    (h.waiters.getD w default).released = false

/-- Owner `o`, if there is one, is named by a label of the session. -/
def Named (h : World) (o : Option Nat) : Prop :=
  ∀ x, o = some x → ∃ label, h.ownerLabels.lookup label = some x

/-- Waiter `w` is about to be registered for interface `iface` of `s`: it is fresh, its owner
is open, the object is valid and the interface not yet determined; the waiter has a reaction. -/
def Registering (h : World) (s : Subject) (iface : String) (w : Nat) : Prop :=
  h.Fresh w ∧ (h.waiters.getD w default).owner.any (fun o => (h.owners.getD o default).closed) = false ∧
    h.invalidated s = none ∧ (h.status s).isReady iface = false ∧
    (h.waiters.getD w default).reaction.isSome = true

/-- A live subscription of the bus goes to listener `l`. -/
def Listens (h : World) (l : Listener) : Prop :=
  ∃ id, h.bus.isLive id = true ∧ (h.bus.subscriptions.getD (id - 1) default).listener = l

/-- Where the registry hears of names: it reads a listing, or its watch of every name hears a
signal. -/
def HearsNames (h : World) (S : List Frame) : Prop :=
  (∃ S', S = .naming :: S' ∨ S = .listing :: S') ∨ h.Listens .registry

end World

/-- A new waiter without a fetch, neither cancelled, done nor released, is fresh. -/
theorem fresh_of_newWaiter {wt : Waiter} {h h' : World} {w : Nat}
    (unattached : wt.fetch = none) (live : wt.cancelled = false) (pending : wt.done = false)
    (kept : wt.released = false) (run : (newWaiter wt).run h = .ok w h') : h'.Fresh w := by
  simp only [run_newWaiter, EStateM.Result.ok.injEq] at run
  obtain ⟨rfl, rfl⟩ := run
  have made : ({ h with waiters := h.waiters.push wt } : World).waiters.getD h.waiters.size default = wt := by
    simp [Array.getD_eq_getD_getElem?]
  simp only [World.Fresh, made, Array.size_push]
  exact ⟨trivial, unattached, live, pending, kept⟩

/-- The owner a session label names is named by a label. -/
theorem named_of_ownerOf? {label? : Option String} {h h' : World} {r : Except Json (Option Nat)}
    (run : (ownerOf? label?).run h = .ok r h') : h' = h ∧ ∀ o, r = .ok o → h.Named o := by
  simp only [run_ownerOf?, EStateM.Result.ok.injEq] at run
  obtain ⟨rfl, rfl⟩ := run
  refine ⟨rfl, fun o found x named => ?_⟩
  cases label? with
  | none =>
    cases found
    cases named
  | some label =>
    simp only at found
    split at found
    · rename_i y labelled
      cases found
      cases named
      exact ⟨label, labelled⟩
    · cases found

/-- A subscription leaves the clients as they were. -/
theorem subscribe_clients {rule : MatchRule} {l : Listener} {h h' : World} {id : Nat}
    (run : (subscribe rule l).run h = .ok id h') : h'.clients = h.clients := by
  simp only [subscribe, bind_ok, run_modifyGet, run_linkOpen, EStateM.Result.ok.injEq,
    exists_returned] at run
  cases linked : h.link with
  | none =>
    simp only [linked, run_pure, EStateM.Result.ok.injEq, Bool.false_eq_true, ↓reduceIte] at run
    rw [← run.2]
  | some k =>
    simp only [linked] at run
    split at run
    · simp only [bind_ok, run_daemonCall, run_pure, EStateM.Result.ok.injEq,
        exists_returned_unit] at run
      rw [← run.2]
    · simp only [run_pure, EStateM.Result.ok.injEq] at run
      rw [← run.2]

/-- Changing a client by a function that keeps its owner keeps every client's owner. -/
theorem owner_modify (clients : Array ClientObject) (c : Nat) (g : ClientObject → ClientObject)
    (keeps : ∀ x, (g x).owner = x.owner) (c' : Nat) :
    ((clients.modify c g).getD c' default).owner = (clients.getD c' default).owner := by
  simp only [Array.getD_eq_getD_getElem?, Array.getElem?_modify]
  split <;> cases clients[c']? <;> simp [keeps]

/-- A client that starts keeps its place and its owner, and so do the others. -/
theorem openClient_clients {c : Nat} {name : String} {h h' : World} {u : Unit}
    (run : (openClient c name).run h = .ok u h') : h'.clients.size = h.clients.size ∧
      ∀ c', (h'.clients.getD c' default).owner = (h.clients.getD c' default).owner := by
  simp only [openClient, bind_ok, run_modifyProxy, run_modifyClient, EStateM.Result.ok.injEq,
    exists_returned_unit] at run
  obtain ⟨id, h₁, subscribed, -, rfl⟩ := run
  have same := subscribe_clients subscribed
  simp only at same
  refine ⟨by simp [same], fun c' => ?_⟩
  simp only [same]
  refine (owner_modify _ _ _ ?_ c').trans ((owner_modify _ _ _ ?_ c').trans rfl)
  · intro x
    rfl
  · intro x
    rfl

/-- A client added to the registry has its place among the clients, and has not started. -/
theorem enroll_fresh {r : Registry} {name u : String} {act : Bool} {h h' : World} {c : Nat}
    (run : (enroll r name u act).run h = .ok c h') :
    c < h'.clients.size ∧ (h'.clients.getD c default).proxy.started = false := by
  simp only [enroll, bind_ok, run_newOwner, run_modifyGet, run_modifyRegistry, run_modifyClient,
    EStateM.Result.ok.injEq, exists_returned, exists_returned_unit] at run
  split at run
  · simp only [bind_ok, run_note, run_pure, EStateM.Result.ok.injEq, exists_returned_unit] at run
    obtain ⟨rfl, rfl⟩ := run
    simp [Array.getElem_modify, Client.Proxy.create]
  · simp only [run_pure, EStateM.Result.ok.injEq] at run
    obtain ⟨rfl, rfl⟩ := run
    simp [Array.getElem_modify, Client.Proxy.create]

/-- A note leaves the registry as it was. -/
theorem registry_of_note {n : Note} {h h' : World} {u : Unit} (run : (note n).run h = .ok u h') :
    h'.registry = h.registry := by
  simp only [run_note, EStateM.Result.ok.injEq] at run
  rw [← run.2]

/-- A call picked among the recorded ones is one of them. -/
theorem findCall_lt {calls : Array (Bus.Call Route)} {method dest path iface : String} {i : Nat}
    (found : findCall calls method dest path iface = some i) : i < calls.size := by
  unfold findCall at found
  obtain ⟨⟨c, j⟩, picked, rfl⟩ := Option.map_eq_some_iff.mp found
  simpa using (List.mem_zipIdx' (List.mem_of_find?_eq_some picked)).1

/-- What holds of the world while operations are under way, with its obligations. -/
structure Invariant where
  /-- The invariant, while the operations of the stack are under way. -/
  Holds : List Frame → World → Prop
  /-- What holds of a waiter about to fire. -/
  Ready : List Frame → Nat → World → Prop
  /-- What holds of a reaction about to run. -/
  Reacts : List Frame → Reaction → World → Prop
  /-- What holds of a call about to be sent with a route. -/
  Calls : List Frame → Route → World → Prop
  /-- What holds of a waiter about to be made. -/
  Makes : List Frame → Waiter → World → Prop
  /-- What holds of an object about to be waited for. -/
  Waits : List Frame → Subject → World → Prop
  /-- Where the steps of a session may be performed. -/
  Performs : List Frame → Prop
  /-- Where the steps that drive a registry may be performed. -/
  Heeds : List Frame → Prop
  /-- What holds where a reply with a route is delivered. -/
  Replies : List Frame → Route → World → Prop
  /-- Where the registry may hear of names: it reads a listing or hears that a name changed
  owner. -/
  Sights : List Frame → Prop
  /-- What holds of a waiter about to be registered on a fetch, given the operations under way
  where it was made. -/
  Joins : List Frame → Nat → Prop := fun _ _ => True
  /-- A plain note. -/
  note : ∀ S n, n.isPlain = true → Keeps (Holds S) (note n)
  /-- A waiter that fires, neither cancelled nor done, runs its reaction. -/
  react : ∀ S w r h, Holds S h → Ready S w h → (h.waiters.getD w default).cancelled = false →
    (h.waiters.getD w default).done = false → (h.waiters.getD w default).reaction = some r →
    Reacts S r h
  /-- A session callback notes that it fired. -/
  fired : ∀ S label depth actions s err h, Holds S h → Reacts S (.script label depth actions) h →
    Holds S { h with notes := h.notes.push (.fired label (h.subjectName s) err) }
  /-- A session callback runs its steps where it fires. -/
  scripted : ∀ S label depth actions h, Holds S h → Reacts S (.script label depth actions) h →
    Performs S
  /-- So does the finale of a latch, run when its last waiter fires. -/
  finale : ∀ S m label depth actions h, Holds S h → Reacts S (.latch m) h →
    (h.latches.getD m default).finale = .script label depth actions → Performs S
  /-- A latch counts a waiter fired. -/
  tick : ∀ S m e c, Triple (fun h => Holds S h ∧ Reacts S (.latch m) h ∧
      c = ((h.latches.getD m default).toFire.tick).1)
    (modifyLatch m fun x => { x with firstError := e, toFire := c }) fun _ => Holds S
  becomeReady : ∀ S c, Keeps (Holds S) (becomeReady c)
  newWaiter : ∀ S wt, Triple (fun h => Holds S h ∧ Makes S wt h) (newWaiter wt) fun _ => Holds S
  /-- A waiter just made may be registered where it was made. -/
  made : ∀ S wt, Triple (fun h => Holds S h ∧ Makes S wt h) (Hub.newWaiter wt) fun w _ => Joins S w := by
    intro _ _ _ _ _ _ _
    trivial
  /-- A session makes a waiter, owned by the owner a label names, if any. -/
  sessionWaiter : ∀ S h label depth actions (callback release : Bool) o, Performs S → Holds S h →
    h.Named o →
    Makes S { reaction := if callback then some (.script label depth actions) else none,
              release := if release then .script label else .silent, owner := o } h
  /-- A wait for several interfaces makes a waiter for one of them. -/
  latchWaiter : ∀ S s m o h, Holds (.waiting s m o :: S) h →
    Makes (.waiting s m o :: S) { reaction := some (.latch m), release := .latch m, owner := o } h
  /-- A client that starts makes the waiter for its client interface. -/
  clientWaiter : ∀ S c h, Holds S h → c < h.clients.size →
    Makes S { reaction := some (.clientFetched c), owner := some (h.clients.getD c default).owner } h
  /-- A session's wait for several interfaces begins with a new latch. -/
  waitLabelled : ∀ S s o l, Performs S →
    Triple (fun h => Holds S h ∧ Waits S s h ∧ h.Named o) (newLatch l)
    fun m => Holds (.waiting s m o :: S)
  /-- A client whose client interface is known waits for its roles with a new latch. -/
  waitClient : ∀ S c l o, l.finale = .clientRoles c → Triple (fun h => Holds S h ∧
      Reacts S (.clientFetched c) h ∧ (h.clients.getD c default).owner = o) (newLatch l)
    fun m => Holds (.waiting (.client c) m (some o) :: S)
  /-- A wait for several interfaces has made all its waiters. -/
  endWait : ∀ S s m o h, Holds (.waiting s m o :: S) h → Holds S h
  /-- A session waits for the object a label names. -/
  sessionSubject : ∀ S h label s, Performs S → Holds S h → (match h.plainLabels.lookup label with
      | some i => some (.plain i)
      | none => (h.accountLabels.lookup label).map .account) = some s → Waits S s h
  /-- A session waits for the account a label names. -/
  accountSubject : ∀ S h label a, Performs S → Holds S h → h.accountLabels.lookup label = some a →
    Waits S (.account a) h
  /-- A client that starts waits for its own interface. -/
  clientSubject : ∀ S c h, Holds S h → c < h.clients.size → Waits S (.client c) h
  /-- A wait for several interfaces waits for its object. -/
  waitingSubject : ∀ S s m o h, Holds (.waiting s m o :: S) h → Waits (.waiting s m o :: S) s h
  label : ∀ S l w,
    Keeps (Holds S) (modify fun h => { h with waiterLabels := bindLabel h.waiterLabels l w })
  /-- A fresh waiter that fires at once. -/
  alone : ∀ S w h, Holds S h → h.Fresh w → Holds (.alone w :: S) h ∧ Ready (.alone w :: S) w h
  /-- A waiter that fired at once is finished. -/
  finishAlone : ∀ S w, Triple (Holds (.alone w :: S)) (finish w) fun _ => Holds S
  /-- A fresh waiter with a closed owner is cancelled. -/
  refuse : ∀ S w, Triple (fun h => Holds S h ∧ h.Fresh w) (cancelWaiter w) fun _ => Holds S
  /-- A waiter joins the fetch in progress for its interface. -/
  join : ∀ S s (d : Descriptor) w f o, Joins S w → Triple (fun h => Holds S h ∧ Waits S s h ∧
      h.Registering s d.name w ∧
      (h.waiters.getD w default).owner = o ∧ (h.status s).fetching? d.name = some f)
    (attach f w o) fun _ => Holds S
  /-- A waiter starts a fetch for its interface, whose request is sent next. -/
  start : ∀ S s (d : Descriptor) w o, Joins S w → Triple (fun h => Holds S h ∧ Waits S s h ∧
      h.Registering s d.name w ∧
      (h.waiters.getD w default).owner = o ∧ (h.status s).fetching? d.name = none)
    (openFetch s d w o) fun f h => Holds S h ∧ Calls S (.fetch f) h
  /-- Watching the interface of an object waited for. -/
  watch : ∀ S s iface k h, Waits S s h → Keeps (Holds S) (watch s iface k)
  /-- A call is recorded on the bus. -/
  record : ∀ S dest path method args route h, Holds S h → Calls S route h →
    Holds (Frame.onCall route S) { h with bus := (h.bus.record dest path method args route).1 }
  /-- A call answered as soon as it is recorded is answered where it was made. -/
  inline : ∀ S dest path method args route h, Holds S h → Calls S route h →
    Replies (Frame.onCall route S) route { h with bus := (h.bus.record dest path method args route).1 }
  /-- A session step may answer any call. -/
  replied : ∀ S route h, Performs S ∨ Heeds S → Replies S route h
  transmit : ∀ S i dest path method args, Keeps (Holds S) (transmit i dest path method args)
  /-- A call is answered, which starts the operation its route says. -/
  answer : ∀ S i h, Holds S h → i < h.bus.calls.size →
    (h.bus.calls.getD i default).answered = false →
    Replies S (h.bus.calls.getD i default).route h →
    Holds (Frame.onReply (h.bus.calls.getD i default).route S)
      { h with bus := h.bus.markAnswered i }
  /-- The registry hears of names where it reads the names on the bus, -/
  naming : ∀ S h, Replies S .names h → Sights (.naming :: S)
  /-- where it reads the activatable names, -/
  listing : ∀ S h, Replies S .activatableNames h → Sights (.listing :: S)
  /-- and where a session step emits a signal. -/
  signalled : ∀ S, Performs S ∨ Heeds S → Sights S
  avatar : ∀ S a p, Keeps (Holds S) (modifyAccount a fun x => { x with avatar := x.avatar.apply p })
  /-- An account that hears its avatar changed fetches it again. -/
  avatarCall : ∀ S a h, Holds S h → h.Listens (.avatarChanged a) → Calls S (.avatar a) h
  /-- A reply to a fetch forgotten meanwhile is ignored. -/
  skipDisposed : ∀ S f h, Holds (.fanOut f 0 :: S) h → (h.fetches.getD f default).disposed = true →
    Holds S h
  /-- A completed fetch leaves its result behind. -/
  absorb : ∀ S f fs result, Triple (fun h => Holds (.fanOut f 0 :: S) h ∧
      h.fetches.getD f default = fs ∧ fs.disposed = false)
    (absorbResult fs result) fun _ => Holds (.fanOut f 0 :: S)
  startFiring : ∀ S f,
    Keeps (Holds (.fanOut f 0 :: S)) (modifyFetch f fun x => { x with firing := true })
  /-- The fan-out reaches the waiter at its position. -/
  advance : ∀ S f i w h, Holds (.fanOut f i :: S) h →
    (h.fetches.getD f default).waiters[i]? = some w →
    Holds (.fanOut f (i + 1) :: S) h ∧ Ready (.fanOut f (i + 1) :: S) w h
  /-- A fetch whose waiters have all been reached settles. -/
  settle : ∀ S f j err, Triple (fun h => Holds (.fanOut f j :: S) h ∧
      (h.fetches.getD f default).waiters.size ≤ j) (settleFetch f err) fun _ => Holds S
  /-- A client hears that a name changed owner. -/
  ownerChanged : ∀ S c name new, Sights S → Triple (fun h => Holds S h ∧ h.Listens (.client c))
    (clientOwnerChanged c name new) fun _ => Holds S
  /-- An account hears that it changed. -/
  accountChange : ∀ S a body, Triple (fun h => Holds S h ∧ h.Listens (.accountChanged a))
    (applyAccountChange a body) fun _ => Holds S
  /-- A tap that hears a signal ends the subscriptions it was told to drop. -/
  unsubscribe : ∀ S label drops h, Holds S h → h.Listens (.tapSignal label drops) →
    ∀ id, Keeps (Holds S) (unsubscribe id)
  /-- The registry starts where it may hear of names, and asks for the names on the bus next. -/
  openRegistry : ∀ S r, Sights S → Triple (fun h => Holds S h ∧ h.registry = some r ∧
    r.started = false) openRegistry fun _ h => Holds S h ∧ Calls S .names h
  /-- Having read the names, the registry asks for the activatable ones. -/
  listCall : ∀ S h, Sights (.naming :: S) → Holds (.naming :: S) h →
    Calls (.naming :: S) .activatableNames h
  /-- A listing read by a registry that is gone or closed stops there. -/
  abandonNaming : ∀ S h, Holds (.naming :: S) h → (∀ r, h.registry = some r → r.closed = true) →
    Holds S h
  abandonListing : ∀ S h, Holds (.listing :: S) h → (∀ r, h.registry = some r → r.closed = true) →
    Holds S h
  /-- Having read the activatable names, the registry releases the first share of its lock. -/
  release : ∀ S, Triple (Holds (.listing :: S)) releaseStartupLock fun _ => Holds S
  /-- Having heard of names while open, the registry registers them, -/
  sighted : ∀ S h r, Sights S → Holds S h → h.HearsNames S → h.registry = some r →
    r.closed = false → Holds (.registering :: S) h
  /-- and is done with them. -/
  registered : ∀ S h, Holds (.registering :: S) h → Holds S h
  markActivatable : ∀ S c,
    Keeps (Holds (.registering :: S)) (modifyProxy c fun p => { p with activatable := true })
  markActive : ∀ S c u, Keeps (Holds (.registering :: S)) (modifyProxy c (·.setActive u))
  /-- A client first seen is added to the registry, and is about to start. -/
  enroll : ∀ S r name u act, Triple (fun h => Holds (.registering :: S) h ∧ h.registry = some r ∧
      r.entries.find? (·.name == name) = none) (enroll r name u act)
    fun c => Holds (.enrolling c :: .registering :: S)
  /-- A client just added starts and watches its name. -/
  openClient : ∀ S c name, Triple (fun h => Holds (.enrolling c :: S) h ∧ c < h.clients.size ∧
      (h.clients.getD c default).proxy.started = false ∧ (h.clients.getD c default).proxy.name = name)
    (openClient c name) fun _ => Holds S
  /-- A step that never calls back. -/
  plain : ∀ S step, Performs S ∨ Heeds S ∧ step.drivesRegistry = true →
    Keeps (Holds S) (performPlain step)

/-- Every operation of the interpreter, at step budget `n`, keeps the invariant. -/
structure Kept (I : Invariant) (n : Nat) : Prop where
  fire : ∀ S w s err, Triple (fun h => I.Holds S h ∧ I.Ready S w h) (fire n w s err) fun _ => I.Holds S
  latchFired : ∀ S m s err, Triple (fun h => I.Holds S h ∧ I.Reacts S (.latch m) h)
    (latchFired n m s err) fun _ => I.Holds S
  clientFetched : ∀ S c err, Triple (fun h => I.Holds S h ∧ I.Reacts S (.clientFetched c) h)
    (clientFetched n c err) fun _ => I.Holds S
  waitEach : ∀ S s type ifaces m o,
    Keeps (I.Holds (.waiting s m o :: S)) (waitEach n s type ifaces m o)
  ensureReady : ∀ S s type iface w?, Triple (fun h => I.Holds S h ∧ I.Waits S s h ∧
      ∀ w, w? = some w → h.Fresh w ∧ I.Joins S w) (ensureReady n s type iface w?)
      fun _ => I.Holds S
  ensureFetch : ∀ S s d w, I.Joins S w → Triple (fun h => I.Holds S h ∧ I.Waits S s h ∧ h.Fresh w ∧
      (h.waiters.getD w default).reaction.isSome = true) (ensureFetch n s d w) fun _ => I.Holds S
  call : ∀ S dest path method args route, Triple (fun h => I.Holds S h ∧ I.Calls S route h)
    (call n dest path method args route) fun _ => I.Holds (Frame.onCall route S)
  answerCall : ∀ S i a, Triple (fun h => I.Holds S h ∧ i < h.bus.calls.size ∧
      I.Replies S (h.bus.calls.getD i default).route h) (answerCall n i a) fun _ => I.Holds S
  complete : ∀ S f result, Triple (I.Holds (.fanOut f 0 :: S)) (complete n f result)
    fun _ => I.Holds S
  fanOut : ∀ S f i s err, Triple (I.Holds (.fanOut f i :: S)) (fanOut n f i s err)
    fun _ h => ∃ j, I.Holds (.fanOut f j :: S) h ∧ (h.fetches.getD f default).waiters.size ≤ j
  emit : ∀ S sig, I.Sights S → Keeps (I.Holds S) (emit n sig)
  deliverEach : ∀ S ids sig, I.Sights S → Keeps (I.Holds S) (deliverEach n ids sig)
  startRegistry : ∀ S, I.Sights S → Keeps (I.Holds S) (startRegistry n)
  namesListed : ∀ S result, I.Sights (.naming :: S) →
    Triple (I.Holds (.naming :: S)) (namesListed n result) fun _ => I.Holds S
  activatableListed : ∀ S result, I.Sights (.listing :: S) →
    Triple (I.Holds (.listing :: S)) (activatableListed n result) fun _ => I.Holds S
  registryOwnerChanged : ∀ S name old new, I.Sights S → Triple (fun h => I.Holds S h ∧
    h.Listens .registry) (registryOwnerChanged n name old new) fun _ => I.Holds S
  registerEach : ∀ S names u act,
    Keeps (I.Holds (.registering :: S)) (registerEach n names u act)
  register : ∀ S name u act, Keeps (I.Holds (.registering :: S)) (register n name u act)
  startClient : ∀ S c, Triple (fun h => I.Holds (.enrolling c :: S) h ∧ c < h.clients.size ∧
      (h.clients.getD c default).proxy.started = false) (startClient n c) fun _ => I.Holds S
  runActions : ∀ S depth actions, I.Performs S → Keeps (I.Holds S) (runActions n depth actions)
  runStep : ∀ S depth j, I.Performs S ∨ I.Heeds S ∧ Step.Drives j →
    Keeps (I.Holds S) (runStep n depth j)
  perform : ∀ S depth step, I.Performs S ∨ I.Heeds S ∧ step.drivesRegistry = true →
    Keeps (I.Holds S) (perform n depth step)

namespace Invariant

variable (I : Invariant)

/-- With no step budget left, no operation returns. -/
theorem kept_zero : Kept I 0 where
  fire := by intro _ _ _ _ _ _ _ _ run; simp [fire] at run
  latchFired := by intro _ _ _ _ _ _ _ _ run; simp [latchFired] at run
  clientFetched := by intro _ _ _ _ _ _ _ run; simp [clientFetched] at run
  waitEach := by intro _ _ _ _ _ _ _ _ _ _ run; simp [waitEach] at run
  ensureReady := by intro _ _ _ _ _ _ _ _ _ run; simp [ensureReady] at run
  ensureFetch := by intro _ _ _ _ _ _ _ _ _ run; simp [ensureFetch] at run
  call := by intro _ _ _ _ _ _ _ _ _ _ run; simp [call] at run
  answerCall := by intro _ _ _ _ _ _ _ run; simp [answerCall] at run
  complete := by intro _ _ _ _ _ _ _ run; simp [complete] at run
  fanOut := by intro _ _ _ _ _ _ _ _ _ run; simp [fanOut] at run
  emit := by intro _ _ _ _ _ _ _ run; simp [emit] at run
  deliverEach := by intro _ _ _ _ _ _ _ _ run; simp [deliverEach] at run
  startRegistry := by intro _ _ _ _ _ _ run; simp [startRegistry] at run
  namesListed := by intro _ _ _ _ _ _ _ run; simp [namesListed] at run
  activatableListed := by intro _ _ _ _ _ _ _ run; simp [activatableListed] at run
  registryOwnerChanged := by intro _ _ _ _ _ _ _ _ _ run; simp [registryOwnerChanged] at run
  registerEach := by intro _ _ _ _ _ _ _ _ run; simp [registerEach] at run
  register := by intro _ _ _ _ _ _ _ _ run; simp [register] at run
  startClient := by intro _ _ _ _ _ _ run; simp [startClient] at run
  runActions := by intro _ _ _ _ _ _ _ _ run; simp [runActions] at run
  runStep := by intro _ _ _ _ _ _ _ _ run; simp [runStep] at run
  perform := by intro _ _ _ _ _ _ _ _ run; simp [perform] at run

/-- A waiter made keeps the invariant and may be registered where it was made. -/
theorem newWaiter_joins (S : List Frame) (wt : Waiter) :
    Triple (fun h => I.Holds S h ∧ I.Makes S wt h) (Hub.newWaiter wt)
      fun w h => I.Holds S h ∧ I.Joins S w :=
  fun _ _ _ pre run => ⟨I.newWaiter S wt pre run, I.made S wt pre run⟩

variable {I} {n : Nat}

theorem fire_succ (ih : Kept I n) (S : List Frame) (w : Nat) (s : Subject) (err : Option String) :
    Triple (fun h => I.Holds S h ∧ I.Ready S w h) (fire (n + 1) w s err) fun _ => I.Holds S := by
  rintro h u h' ⟨holds, ready⟩ run
  simp only [fire, bind_ok, run_waiter, EStateM.Result.ok.injEq, exists_returned] at run
  split at run
  · rw [ok_pure run]
    exact holds
  · rename_i live
    simp only [Bool.or_eq_true, not_or, Bool.not_eq_true] at live
    split at run
    · rw [ok_pure run]
      exact holds
    · rename_i label depth actions reaction
      have reacts := I.react S w _ h holds ready live.1 live.2 reaction
      simp only [bind_ok, run_get, run_note, EStateM.Result.ok.injEq, exists_returned, exists_returned_unit] at run
      have noted := I.fired S label depth actions s err h holds reacts
      split at run
      · exact ih.runActions S _ _ (I.scripted S label depth actions h holds reacts) noted run
      · rw [ok_pure run]
        exact noted
    · rename_i m reaction
      exact ih.latchFired S m s err ⟨holds, I.react S w _ h holds ready live.1 live.2 reaction⟩ run
    · rename_i c reaction
      exact ih.clientFetched S c err ⟨holds, I.react S w _ h holds ready live.1 live.2 reaction⟩ run

theorem latchFired_succ (ih : Kept I n) (S : List Frame) (m : Nat) (s : Subject)
    (err : Option String) : Triple (fun h => I.Holds S h ∧ I.Reacts S (.latch m) h)
      (latchFired (n + 1) m s err) fun _ => I.Holds S := by
  rintro h u h' ⟨holds, reacts⟩ run
  simp only [latchFired, bind_ok, run_latch, EStateM.Result.ok.injEq, exists_returned] at run
  obtain ⟨⟨⟩, h₁, ticked, rest⟩ := run
  have holds₁ := I.tick S m _ _ ⟨holds, reacts, rfl⟩ ticked
  split at rest
  · split at rest
    · rw [ok_pure rest]
      exact holds₁
    · rename_i label depth actions finale
      simp only [bind_ok, run_get, EStateM.Result.ok.injEq, exists_returned] at rest
      obtain ⟨⟨⟩, h₂, wrote, more⟩ := rest
      have noted := I.note S _ (by rfl) holds₁ wrote
      split at more
      · exact ih.runActions S _ _ (I.finale S m label depth actions h holds reacts finale) noted more
      · rw [ok_pure more]
        exact noted
    · exact I.becomeReady S _ holds₁ rest
  · rw [ok_pure rest]
    exact holds₁

theorem clientFetched_succ (ih : Kept I n) (S : List Frame) (c : Nat) (err : Option String) :
    Triple (fun h => I.Holds S h ∧ I.Reacts S (.clientFetched c) h) (clientFetched (n + 1) c err)
      fun _ => I.Holds S := by
  rintro h u h' ⟨holds, reacts⟩ run
  unfold clientFetched at run
  split at run
  · exact I.becomeReady S c holds run
  · simp only [bind_ok, run_client, EStateM.Result.ok.injEq, exists_returned] at run
    split at run
    · exact I.becomeReady S c holds run
    · -- the client waits for each of its roles
      simp only [bind_ok] at run
      obtain ⟨m, h₁, made, rest⟩ := run
      have waiting := I.waitClient S c _ _ rfl ⟨holds, reacts, rfl⟩ made
      exact I.endWait S _ m _ h' (ih.waitEach S _ _ _ m _ waiting rest)

theorem waitEach_succ (ih : Kept I n) (S : List Frame) (s : Subject) (type : String)
    (ifaces : List String) (m : Nat) (o : Option Nat) :
    Keeps (I.Holds (.waiting s m o :: S)) (waitEach (n + 1) s type ifaces m o) := by
  intro h u h' holds run
  cases ifaces with
  | nil =>
    simp only [waitEach] at run
    rw [ok_pure run]
    exact holds
  | cons iface rest =>
    simp only [waitEach, bind_ok] at run
    obtain ⟨w, h₁, made, u₁, h₂, waited, more⟩ := run
    have fresh := fresh_of_newWaiter rfl rfl rfl rfl made
    obtain ⟨holds₁, joins⟩ := I.newWaiter_joins _ _ ⟨holds, I.latchWaiter S s m o h holds⟩ made
    have holds₂ := ih.ensureReady _ s type iface (some w)
      ⟨holds₁, I.waitingSubject S s m o h₁ holds₁, fun w' same => by cases same; exact ⟨fresh, joins⟩⟩
      waited
    exact ih.waitEach S s type rest m o holds₂ more

/-- A fresh waiter that fires at once, then is finished, keeps the invariant. -/
theorem fire_alone (ih : Kept I n) {S : List Frame} {w : Nat} {s : Subject} {err : Option String}
    {h h' : World} {b : Bool} (holds : I.Holds S h) (fresh : h.Fresh w)
    (run : (do fire n w s err; finish w; pure false : HubM Bool).run h = .ok b h') :
    I.Holds S h' := by
  obtain ⟨⟨⟩, h₁, fired, rest⟩ := bind_ok.mp run
  obtain ⟨⟨⟩, h₂, finished, returned⟩ := bind_ok.mp rest
  obtain ⟨alone, ready⟩ := I.alone S w h holds fresh
  rw [ok_pure returned]
  exact I.finishAlone S w (ih.fire _ w s err ⟨alone, ready⟩ fired) finished

theorem ensureReady_succ (ih : Kept I n) (S : List Frame) (s : Subject) (type iface : String)
    (w? : Option Nat) : Triple (fun h => I.Holds S h ∧ I.Waits S s h ∧
      ∀ w, w? = some w → h.Fresh w ∧ I.Joins S w) (ensureReady (n + 1) s type iface w?)
      fun _ => I.Holds S := by
  rintro h first h' ⟨holds, waits, fresh⟩ run
  unfold ensureReady at run
  split at run
  · rename_i w
    obtain ⟨fresh, joins⟩ := fresh w rfl
    simp only [bind_ok, run_waiter, EStateM.Result.ok.injEq, exists_returned] at run
    split at run
    · rw [ok_pure run]
      exact holds
    · rename_i reacts
      simp only [bind_ok, run_get, EStateM.Result.ok.injEq, exists_returned] at run
      split at run
      · -- an interface without a descriptor fires the waiter at once
        exact fire_alone ih holds fresh run
      · rename_i d found
        simp only [bind_ok] at run
        obtain ⟨started, h₁, fetched, rest⟩ := run
        have holds₁ := ih.ensureFetch S s d w joins
          ⟨holds, waits, fresh, by simpa [Option.isNone_iff_eq_none, Option.isSome_iff_ne_none] using reacts⟩
          fetched
        split at rest
        · split at rest
          · simp only [bind_ok] at rest
            obtain ⟨⟨⟩, h₂, watched, returned⟩ := rest
            rw [ok_pure returned]
            exact I.watch S s d.name _ h waits holds₁ watched
          · rw [ok_pure rest]
            exact holds₁
        · rw [ok_pure rest]
          exact holds₁
  · rw [ok_pure run]
    exact holds

theorem ensureFetch_succ (ih : Kept I n) (S : List Frame) (s : Subject) (d : Descriptor)
    (w : Nat) (joins : I.Joins S w) : Triple (fun h => I.Holds S h ∧ I.Waits S s h ∧ h.Fresh w ∧
      (h.waiters.getD w default).reaction.isSome = true) (ensureFetch (n + 1) s d w)
      fun _ => I.Holds S := by
  rintro h first h' ⟨holds, waits, fresh, reacts⟩ run
  simp only [ensureFetch, bind_ok, run_waiter, run_ownerClosed, EStateM.Result.ok.injEq,
    exists_returned] at run
  split at run
  · -- a closed owner cancels the waiter
    simp only [bind_ok] at run
    obtain ⟨_, h₁, cancelled, returned⟩ := run
    rw [ok_pure returned]
    exact I.refuse S w ⟨holds, fresh⟩ cancelled
  · rename_i ownerOpen
    simp only [bind_ok, run_get, EStateM.Result.ok.injEq, exists_returned] at run
    split at run
    · -- an invalid object fires the waiter at once
      exact fire_alone ih holds fresh run
    · rename_i valid
      simp only [bind_ok, run_get, EStateM.Result.ok.injEq, exists_returned] at run
      split at run
      · -- so does an interface already determined
        rw [bind_ok] at run
        simp only [run_get, EStateM.Result.ok.injEq, exists_returned] at run
        exact fire_alone ih holds fresh run
      · rename_i undetermined
        have registering : h.Registering s d.name w :=
          ⟨fresh, by simpa using ownerOpen, valid, by simpa using undetermined, reacts⟩
        split at run
        · -- the waiter joins the fetch in progress
          rename_i f fetching
          simp only [bind_ok] at run
          obtain ⟨⟨⟩, h₁, joined, returned⟩ := run
          rw [ok_pure returned]
          exact I.join S s d w f _ joins ⟨holds, waits, registering, rfl, fetching⟩ joined
        · -- or starts a fetch and sends its request
          rename_i idle
          simp only [bind_ok] at run
          obtain ⟨f, h₁, opened, rest⟩ := run
          obtain ⟨holds₁, calls⟩ :=
            I.start S s d w _ joins ⟨holds, waits, registering, rfl, idle⟩ opened
          simp only [run_get, EStateM.Result.ok.injEq, exists_returned] at rest
          obtain ⟨⟨⟩, h₂, sent, returned⟩ := rest
          rw [ok_pure returned]
          exact ih.call S _ _ _ _ (.fetch f) ⟨holds₁, calls⟩ sent

theorem call_succ (ih : Kept I n) (S : List Frame) (dest path method : String)
    (args : List Value) (route : Route) :
    Triple (fun h => I.Holds S h ∧ I.Calls S route h) (call (n + 1) dest path method args route)
      fun _ => I.Holds (Frame.onCall route S) := by
  rintro h u h' ⟨holds, calls⟩ run
  simp only [call, bind_ok, run_modifyGet, run_get, EStateM.Result.ok.injEq, exists_returned] at run
  have recorded := I.record S dest path method args route h holds calls
  split at run
  · -- through the transport, the answer comes later
    exact I.transmit _ _ _ _ _ _ recorded run
  · -- on the scripted bus, a responder answers at once
    simp only [bind_ok, run_get, EStateM.Result.ok.injEq, exists_returned] at run
    split at run
    · have replies := I.inline S dest path method args route h holds calls
      exact ih.answerCall _ _ _ ⟨recorded, by simp [Bus.Scripted.record],
        by simpa [Bus.Scripted.record] using replies⟩ run
    · rw [ok_pure run]
      exact recorded

theorem answerCall_succ (ih : Kept I n) (S : List Frame) (i : Nat) (a : Bus.Answer) :
    Triple (fun h => I.Holds S h ∧ i < h.bus.calls.size ∧
      I.Replies S (h.bus.calls.getD i default).route h) (answerCall (n + 1) i a)
      fun _ => I.Holds S := by
  rintro h u h' ⟨holds, recorded, replies⟩ run
  simp only [answerCall, bind_ok, run_get, EStateM.Result.ok.injEq, exists_returned] at run
  cases twice : (h.bus.calls.getD i default).answered with
  | true =>
    -- answering a call twice is a fault
    simp only [twice, ↓reduceIte] at run
    obtain ⟨_, _, thrown, -⟩ := bind_ok.mp run
    exact absurd thrown throw_not_ok
  | false =>
    simp only [twice, Bool.false_eq_true, ↓reduceIte, bind_ok, run_modify,
      EStateM.Result.ok.injEq, exists_returned_unit] at run
    have answered := I.answer S i h holds recorded twice replies
    split at run
    · rename_i f route
      rw [route] at answered
      exact ih.complete S f _ answered run
    · rename_i route
      rw [route] at answered replies
      exact ih.namesListed S _ (I.naming S h replies) answered run
    · rename_i route
      rw [route] at answered replies
      exact ih.activatableListed S _ (I.listing S h replies) answered run
    · rename_i acc route
      rw [route] at answered
      split at run
      · exact I.avatar S acc _ answered run
      · rw [ok_pure run]
        exact answered
    all_goals
      rename_i route
      rw [route] at answered
      exact I.note S _ rfl answered run

theorem complete_succ (ih : Kept I n) (S : List Frame) (f : Nat)
    (result : Except String (Option Properties)) :
    Triple (I.Holds (.fanOut f 0 :: S)) (complete (n + 1) f result) fun _ => I.Holds S := by
  intro h u h' holds run
  unfold complete at run
  simp only [bind_ok, run_fetch, EStateM.Result.ok.injEq, exists_returned] at run
  split at run
  · -- the object was disposed of: the reply is ignored
    rename_i disposed
    rw [ok_pure run]
    exact I.skipDisposed S f h holds disposed
  · rename_i live
    simp only [bind_ok] at run
    obtain ⟨⟨⟩, h₁, absorbed, ⟨⟩, h₂, firing, ⟨⟩, h₃, fanned, settled⟩ := run
    have holds₁ := I.absorb S f _ result ⟨holds, rfl, by simpa using live⟩ absorbed
    have holds₂ := I.startFiring S f holds₁ firing
    obtain ⟨j, holds₃, past⟩ := ih.fanOut S f 0 _ _ holds₂ fanned
    exact I.settle S f j _ ⟨holds₃, past⟩ settled

theorem fanOut_succ (ih : Kept I n) (S : List Frame) (f i : Nat) (s : Subject)
    (err : Option String) :
    Triple (I.Holds (.fanOut f i :: S)) (fanOut (n + 1) f i s err)
      fun _ h => ∃ j, I.Holds (.fanOut f j :: S) h ∧ (h.fetches.getD f default).waiters.size ≤ j := by
  intro h u h' holds run
  simp only [fanOut, bind_ok, run_fetch, EStateM.Result.ok.injEq, exists_returned] at run
  split at run
  · -- the waiter at position `i` fires, and the fan-out goes on after it
    rename_i w found
    obtain ⟨next, ready⟩ := I.advance S f i w h holds found
    simp only [bind_ok] at run
    obtain ⟨⟨⟩, h₁, fired, rest⟩ := run
    exact ih.fanOut S f (i + 1) s err (ih.fire _ w s err ⟨next, ready⟩ fired) rest
  · -- every waiter has been reached
    rename_i past
    rw [ok_pure run]
    exact ⟨i, holds, by simpa using past⟩

theorem emit_succ (ih : Kept I n) (S : List Frame) (sig : Signal) (sights : I.Sights S) :
    Keeps (I.Holds S) (emit (n + 1) sig) := by
  intro h u h' holds run
  simp only [emit, bind_ok, run_get, EStateM.Result.ok.injEq, exists_returned] at run
  exact ih.deliverEach S _ sig sights holds run

theorem deliverEach_succ (ih : Kept I n) (S : List Frame) (ids : List Nat) (sig : Signal)
    (sights : I.Sights S) : Keeps (I.Holds S) (deliverEach (n + 1) ids sig) := by
  intro h u h' holds run
  cases ids with
  | nil =>
    simp only [deliverEach] at run
    rw [ok_pure run]
    exact holds
  | cons id rest =>
    simp only [deliverEach, bind_ok, run_get, EStateM.Result.ok.injEq, exists_returned] at run
    split at run
    · -- a live subscription hears the signal, then the others do
      rename_i live
      split at run
      · rename_i heard
        split at run
        · simp only [bind_ok] at run
          obtain ⟨⟨⟩, h₁, changed, more⟩ := run
          exact ih.deliverEach S rest sig sights
            (ih.registryOwnerChanged S _ _ _ sights ⟨holds, id, live, heard⟩ changed) more
        · exact ih.deliverEach S rest sig sights holds run
      · rename_i c heard
        split at run
        · simp only [bind_ok] at run
          obtain ⟨⟨⟩, h₁, changed, more⟩ := run
          exact ih.deliverEach S rest sig sights
            (I.ownerChanged S c _ _ sights ⟨holds, id, live, heard⟩ changed) more
        · exact ih.deliverEach S rest sig sights holds run
      · rename_i a heard
        simp only [bind_ok] at run
        obtain ⟨⟨⟩, h₁, changed, more⟩ := run
        exact ih.deliverEach S rest sig sights (I.accountChange S a _ ⟨holds, id, live, heard⟩ changed) more
      · rename_i a heard
        simp only [bind_ok, run_account, EStateM.Result.ok.injEq, exists_returned] at run
        obtain ⟨⟨⟩, h₁, sent, more⟩ := run
        have calls := I.avatarCall S a h holds ⟨id, live, heard⟩
        exact ih.deliverEach S rest sig sights (ih.call S _ _ _ _ (.avatar a) ⟨holds, calls⟩ sent) more
      · rename_i label drops heard
        simp only [bind_ok] at run
        obtain ⟨⟨⟩, h₁, wrote, ⟨⟩, h₂, dropped, more⟩ := run
        have holds₁ := I.note S _ rfl holds wrote
        have holds₂ : I.Holds S h₂ := by
          refine Keeps.forIn _ _ (fun d _ => ?_) holds₁ dropped
          intro h₃ step h₄ holds₃ ran
          simp only [bind_ok, run_get, EStateM.Result.ok.injEq, exists_returned] at ran
          split at ran
          · simp only [bind_ok, run_pure, EStateM.Result.ok.injEq] at ran
            obtain ⟨⟨⟩, h₅, ended, rfl, rfl⟩ := ran
            exact ⟨rfl, I.unsubscribe S label drops h holds ⟨id, live, heard⟩ _ holds₃ ended⟩
          · simp only [run_pure, EStateM.Result.ok.injEq] at ran
            obtain ⟨rfl, rfl⟩ := ran
            exact ⟨rfl, holds₃⟩
        exact ih.deliverEach S rest sig sights holds₂ more
      · split at run
        · simp only [bind_ok] at run
          obtain ⟨⟨⟩, h₁, wrote, more⟩ := run
          exact ih.deliverEach S rest sig sights (I.note S _ rfl holds wrote) more
        · exact ih.deliverEach S rest sig sights holds run
    · exact ih.deliverEach S rest sig sights holds run

theorem startRegistry_succ (ih : Kept I n) (S : List Frame) (sights : I.Sights S) :
    Keeps (I.Holds S) (startRegistry (n + 1)) := by
  intro h u h' holds run
  simp only [startRegistry, bind_ok, run_theRegistry] at run
  cases registered : h.registry with
  | none => simp [registered] at run
  | some r =>
    simp only [registered, EStateM.Result.ok.injEq, exists_returned] at run
    split at run
    · rw [ok_pure run]
      exact holds
    · rename_i idle
      simp only [bind_ok] at run
      obtain ⟨⟨⟩, h₁, opened, sent⟩ := run
      obtain ⟨holds₁, calls⟩ :=
        I.openRegistry S r sights ⟨holds, registered, by simpa using idle⟩ opened
      exact ih.call S _ _ _ _ .names ⟨holds₁, calls⟩ sent

/-- A registry that is gone or closed: a listing read by it stops. -/
theorem closed_of_registry {h : World} {r : Registry} (registered : h.registry = some r)
    (closed : r.closed = true) : ∀ r', h.registry = some r' → r'.closed = true := by
  intro r' same
  rw [registered, Option.some.injEq] at same
  exact same ▸ closed

theorem namesListed_succ (ih : Kept I n) (S : List Frame)
    (result : Except String (List String)) (sights : I.Sights (.naming :: S)) :
    Triple (I.Holds (.naming :: S)) (namesListed (n + 1) result) fun _ => I.Holds S := by
  intro h u h' holds run
  unfold namesListed at run
  simp only [bind_ok, run_registry?, EStateM.Result.ok.injEq, exists_returned] at run
  split at run
  · rename_i r registered
    split at run
    · rename_i closed
      rw [ok_pure run]
      exact I.abandonNaming S h holds (closed_of_registry registered closed)
    · -- the names are registered by the open registry, then the activatable ones asked for,
      -- with or without a warning first
      rename_i open'
      have registerThenAsk : ∀ h₀ names, I.Holds (.naming :: S) h₀ → h₀.registry = some r →
          (do registerEach n names "" false
              call n Bus.daemonName Bus.daemonPath Bus.listActivatableMethod [] .activatableNames :
            HubM Unit).run h₀ = .ok u h' → I.Holds S h' := by
        intro h₀ names holds₀ registered₀ ran
        obtain ⟨⟨⟩, h₁, listed, sent⟩ := bind_ok.mp ran
        have sighting :=
          I.sighted _ h₀ r sights holds₀ (.inl ⟨S, .inl rfl⟩) registered₀ (by simpa using open')
        have holds₁ := I.registered _ h₁ (ih.registerEach _ names "" false sighting listed)
        exact ih.call (.naming :: S) _ _ _ _ .activatableNames ⟨holds₁, I.listCall S h₁ sights holds₁⟩ sent
      split at run
      · obtain ⟨⟨⟩, h₁, wrote, rest⟩ := bind_ok.mp run
        exact registerThenAsk h₁ _ (I.note _ _ rfl holds wrote)
          ((registry_of_note wrote).trans registered) rest
      · exact registerThenAsk h _ holds registered run
  · rename_i gone
    rw [ok_pure run]
    exact I.abandonNaming S h holds fun r same => absurd same (gone r)

theorem activatableListed_succ (ih : Kept I n) (S : List Frame)
    (result : Except String (List String)) (sights : I.Sights (.listing :: S)) :
    Triple (I.Holds (.listing :: S)) (activatableListed (n + 1) result) fun _ => I.Holds S := by
  intro h u h' holds run
  unfold activatableListed at run
  simp only [bind_ok, run_registry?, EStateM.Result.ok.injEq, exists_returned] at run
  split at run
  · rename_i r registered
    split at run
    · rename_i closed
      rw [ok_pure run]
      exact I.abandonListing S h holds (closed_of_registry registered closed)
    · -- the activatable names are registered by the open registry, then the lock's first share
      -- released
      rename_i open'
      have registerThenRelease : ∀ h₀ names, I.Holds (.listing :: S) h₀ → h₀.registry = some r →
          (do registerEach n names "" true; releaseStartupLock : HubM Unit).run h₀ = .ok u h' →
            I.Holds S h' := by
        intro h₀ names holds₀ registered₀ ran
        obtain ⟨⟨⟩, h₁, listed, released⟩ := bind_ok.mp ran
        have sighting :=
          I.sighted _ h₀ r sights holds₀ (.inl ⟨S, .inr rfl⟩) registered₀ (by simpa using open')
        exact I.release S (I.registered _ h₁ (ih.registerEach _ names "" true sighting listed)) released
      split at run
      · obtain ⟨⟨⟩, h₁, wrote, rest⟩ := bind_ok.mp run
        exact registerThenRelease h₁ _ (I.note _ _ rfl holds wrote)
          ((registry_of_note wrote).trans registered) rest
      · exact registerThenRelease h _ holds registered run
  · rename_i gone
    rw [ok_pure run]
    exact I.abandonListing S h holds fun r same => absurd same (gone r)

theorem registryOwnerChanged_succ (ih : Kept I n) (S : List Frame) (name old new : String)
    (sights : I.Sights S) : Triple (fun h => I.Holds S h ∧ h.Listens .registry)
      (registryOwnerChanged (n + 1) name old new) fun _ => I.Holds S := by
  intro h u h' ⟨holds, listens⟩ run
  simp only [registryOwnerChanged, bind_ok, run_registry?, EStateM.Result.ok.injEq,
    exists_returned] at run
  split at run
  · rename_i r registered
    split at run
    · rw [ok_pure run]
      exact holds
    · -- a name gaining its first owner is registered by the open registry
      rename_i open'
      split at run
      · have sighting := I.sighted S h r sights holds (.inr listens) registered (by simpa using open')
        exact I.registered S h' (ih.register S _ _ _ sighting run)
      · rw [ok_pure run]
        exact holds
  · rw [ok_pure run]
    exact holds

theorem registerEach_succ (ih : Kept I n) (S : List Frame) (names : List String) (u : String)
    (act : Bool) : Keeps (I.Holds (.registering :: S)) (registerEach (n + 1) names u act) := by
  intro h v h' holds run
  cases names with
  | nil =>
    simp only [registerEach] at run
    rw [ok_pure run]
    exact holds
  | cons name rest =>
    simp only [registerEach, bind_ok] at run
    obtain ⟨⟨⟩, h₁, registered, more⟩ := run
    exact ih.registerEach S rest u act (ih.register S name u act holds registered) more

theorem register_succ (ih : Kept I n) (S : List Frame) (name u : String) (act : Bool) :
    Keeps (I.Holds (.registering :: S)) (register (n + 1) name u act) := by
  intro h v h' holds run
  simp only [register, bind_ok, run_registry?, EStateM.Result.ok.injEq, exists_returned] at run
  split at run
  · rename_i r registered
    split at run
    · rw [ok_pure run]
      exact holds
    · split at run
      · exact I.note _ _ rfl holds run
      · split at run
        · -- a known client is updated
          split at run
          · exact I.markActivatable S _ holds run
          · exact I.markActive S _ _ holds run
        · -- a new client is added, then starts
          rename_i unknown
          simp only [bind_ok] at run
          obtain ⟨c, h₁, enrolled, started⟩ := run
          have holds₁ := I.enroll S r name u act ⟨holds, registered, unknown⟩ enrolled
          obtain ⟨valid, idle⟩ := enroll_fresh enrolled
          exact ih.startClient (.registering :: S) c ⟨holds₁, valid, idle⟩ started
  · rw [ok_pure run]
    exact holds

theorem startClient_succ (ih : Kept I n) (S : List Frame) (c : Nat) :
    Triple (fun h => I.Holds (.enrolling c :: S) h ∧ c < h.clients.size ∧
      (h.clients.getD c default).proxy.started = false) (startClient (n + 1) c)
      fun _ => I.Holds S := by
  rintro h u h' ⟨holds, valid, idle⟩ run
  simp only [startClient, bind_ok, run_client, EStateM.Result.ok.injEq, exists_returned, idle,
    Bool.false_eq_true, ↓reduceIte] at run
  obtain ⟨⟨⟩, h₁, opened, w, h₂, made, started, h₃, waited, returned⟩ := run
  have holds₁ := I.openClient S c _ ⟨holds, valid, idle, rfl⟩ opened
  -- starting keeps the client in its place, with its owner
  obtain ⟨sized, owned⟩ := openClient_clients opened
  have makes := I.clientWaiter S c h₁ holds₁ (sized ▸ valid)
  rw [owned c] at makes
  obtain ⟨holds₂, joins⟩ := I.newWaiter_joins S _ ⟨holds₁, makes⟩ made
  have fresh := fresh_of_newWaiter rfl rfl rfl rfl made
  -- the new waiter leaves the clients as they were
  have valid₂ : c < h₂.clients.size := by
    simp only [run_newWaiter, EStateM.Result.ok.injEq] at made
    rw [← made.2, sized]
    exact valid
  rw [ok_pure returned]
  exact ih.ensureReady S _ _ _ (some w)
    ⟨holds₂, I.clientSubject S c h₂ holds₂ valid₂, fun w' same => by cases same; exact ⟨fresh, joins⟩⟩
    waited

theorem runActions_succ (ih : Kept I n) (S : List Frame) (depth : Nat) (actions : List Json)
    (performs : I.Performs S) : Keeps (I.Holds S) (runActions (n + 1) depth actions) := by
  intro h u h' holds run
  cases actions with
  | nil =>
    simp only [runActions] at run
    rw [ok_pure run]
    exact holds
  | cons a rest =>
    simp only [runActions, bind_ok] at run
    obtain ⟨r, h₁, ran, ⟨⟩, h₂, wrote, more⟩ := run
    have holds₁ := ih.runStep S depth a (.inl performs) holds ran
    exact ih.runActions S depth rest performs (I.note S _ rfl holds₁ wrote) more

theorem runStep_succ (ih : Kept I n) (S : List Frame) (depth : Nat) (j : Json)
    (performs : I.Performs S ∨ I.Heeds S ∧ Step.Drives j) :
    Keeps (I.Holds S) (runStep (n + 1) depth j) := by
  intro h r h' holds run
  unfold runStep at run
  split at run
  · rw [ok_pure run]
    exact holds
  · rename_i step decoded
    exact ih.perform S depth _ (performs.imp_right fun heeds => ⟨heeds.1, heeds.2 step decoded⟩)
      holds run

/-- A step that does not drive a registry is performed only where session steps may be. -/
theorem performs_of_undriven {S : List Frame} {step : Step}
    (performs : I.Performs S ∨ I.Heeds S ∧ step.drivesRegistry = true)
    (undriven : step.drivesRegistry = false) : I.Performs S :=
  performs.resolve_right fun heeds => absurd (undriven ▸ heeds.2) Bool.false_ne_true

theorem perform_succ (ih : Kept I n) (S : List Frame) (depth : Nat) (step : Step)
    (performs : I.Performs S ∨ I.Heeds S ∧ step.drivesRegistry = true) :
    Keeps (I.Holds S) (perform (n + 1) depth step) := by
  intro h r h' holds run
  have emitted : ∀ sig, (do emit n sig; pure Json.null : HubM Json).run h = .ok r h' →
      I.Holds S h' := by
    intro sig ran
    obtain ⟨⟨⟩, h₁, delivered, returned⟩ := bind_ok.mp ran
    rw [ok_pure returned]
    exact ih.emit S sig (I.signalled S (performs.imp_right And.left)) holds delivered
  unfold perform at run
  split at run
  · -- waiting for one interface, with a new waiter when the step names one
    have session := performs_of_undriven performs rfl
    simp only [bind_ok, run_subjectOf?, EStateM.Result.ok.injEq, exists_returned] at run
    split at run
    · rename_i s found
      simp only [bind_ok] at run
      obtain ⟨owned, h₁, looked, rest⟩ := run
      obtain ⟨same, named⟩ := named_of_ownerOf? looked
      subst h₁
      split at rest
      · rw [ok_pure rest]
        exact holds
      · rename_i _ o
        split at rest
        · simp only [bind_ok, run_pure, EStateM.Result.ok.injEq, exists_returned] at rest
          obtain ⟨first, h₂, waited, -, rfl⟩ := rest
          have waits := I.sessionSubject S h _ s session holds found
          exact ih.ensureReady S _ _ _ none ⟨holds, waits, fun w unnamed => by cases unnamed⟩ waited
        · rename_i l
          simp only [bind_ok, run_pure, EStateM.Result.ok.injEq, exists_returned] at rest
          obtain ⟨w, h₂, made, ⟨⟩, h₃, labelled, first, h₄, waited, -, rfl⟩ := rest
          have fresh := fresh_of_newWaiter rfl rfl rfl rfl made
          obtain ⟨holds₂, joins⟩ := I.newWaiter_joins S _
            ⟨holds, I.sessionWaiter S h l depth _ _ _ o session holds (named o rfl)⟩ made
          have holds₃ := I.label S l w holds₂ labelled
          -- the new waiter and its label leave the object labels as they were
          simp only [run_modify, EStateM.Result.ok.injEq] at labelled
          obtain ⟨-, rfl⟩ := labelled
          simp only [run_newWaiter, EStateM.Result.ok.injEq] at made
          obtain ⟨-, rfl⟩ := made
          have waits := I.sessionSubject S _ _ s session holds₃ found
          exact ih.ensureReady S _ _ _ (some w)
            ⟨holds₃, waits, fun w' same => by cases same; exact ⟨fresh, joins⟩⟩ waited
    · rw [ok_pure run]
      exact holds
  · -- waiting for several interfaces with a latch
    have session := performs_of_undriven performs rfl
    simp only [bind_ok, run_subjectOf?, EStateM.Result.ok.injEq, exists_returned] at run
    split at run
    · rename_i s found
      simp only [bind_ok] at run
      obtain ⟨owned, h₁, looked, rest⟩ := run
      obtain ⟨same, named⟩ := named_of_ownerOf? looked
      subst h₁
      split at rest
      · rw [ok_pure rest]
        exact holds
      · rename_i _ o
        split at rest
        · simp only [bind_ok, run_get, EStateM.Result.ok.injEq, exists_returned] at rest
          rw [ok_pure rest]
          exact holds
        · simp only [bind_ok] at rest
          obtain ⟨m, h₂, made, ⟨⟩, h₃, waited, returned⟩ := rest
          rw [ok_pure returned]
          have waits := I.sessionSubject S h _ s session holds found
          have waiting := I.waitLabelled S s o _ session ⟨holds, waits, named o rfl⟩ made
          exact I.endWait S s m o h₃ (ih.waitEach S _ _ _ m o waiting waited)
    · rw [ok_pure run]
      exact holds
  · -- waiting for an account's two interfaces with a latch
    have session := performs_of_undriven performs rfl
    simp only [bind_ok, run_get, EStateM.Result.ok.injEq, exists_returned] at run
    split at run
    · rename_i a found
      simp only [bind_ok] at run
      obtain ⟨owned, h₁, looked, rest⟩ := run
      obtain ⟨same, named⟩ := named_of_ownerOf? looked
      subst h₁
      split at rest
      · rw [ok_pure rest]
        exact holds
      · rename_i _ o
        simp only [bind_ok] at rest
        obtain ⟨m, h₂, made, ⟨⟩, h₃, waited, returned⟩ := rest
        rw [ok_pure returned]
        have waits := I.accountSubject S h _ a session holds found
        have waiting := I.waitLabelled S _ o _ session ⟨holds, waits, named o rfl⟩ made
        exact I.endWait S _ m o h₃ (ih.waitEach S _ _ _ m o waiting waited)
    · rw [ok_pure run]
      exact holds
  · -- a reply to a recorded call, picked by its index or by what it asked
    simp only [bind_ok, run_get, EStateM.Result.ok.injEq, exists_returned] at run
    split at run
    · split at run
      · rw [ok_pure run]
        exact holds
      · rename_i i inside
        simp only [bind_ok] at run
        obtain ⟨⟨⟩, h₁, answered, returned⟩ := run
        rw [ok_pure returned]
        have valid : i.toNat < h.bus.calls.size := by
          simp only [Bool.or_eq_true, decide_eq_true_eq, not_or] at inside
          omega
        exact ih.answerCall S _ _ ⟨holds, valid, I.replied S _ h (performs.imp_right And.left)⟩ answered
    · split at run
      · rw [ok_pure run]
        exact holds
      · rename_i i found
        simp only [bind_ok] at run
        obtain ⟨⟨⟩, h₁, answered, returned⟩ := run
        rw [ok_pure returned]
        exact ih.answerCall S _ _
          ⟨holds, findCall_lt found, I.replied S _ h (performs.imp_right And.left)⟩ answered
  · exact emitted _ run
  · exact emitted _ run
  · exact emitted _ run
  · -- the registry started
    obtain ⟨⟨⟩, h₁, started, returned⟩ := bind_ok.mp run
    rw [ok_pure returned]
    exact ih.startRegistry S (I.signalled S (performs.imp_right And.left)) holds started
  · exact I.plain S _ performs holds run

/-- Every operation of the interpreter, at every step budget, keeps an invariant that meets its
obligations.

Proof: by induction on the budget. With none left no operation returns. With `n + 1`, an
operation is a sequence of primitive changes of the world, each covered by an obligation, and
of operations with budget `n`, covered by the induction hypothesis. -/
theorem kept (I : Invariant) : ∀ n, Kept I n
  | 0 => I.kept_zero
  | n + 1 =>
    have ih := kept I n
    { fire := fire_succ ih
      latchFired := latchFired_succ ih
      clientFetched := clientFetched_succ ih
      waitEach := waitEach_succ ih
      ensureReady := ensureReady_succ ih
      ensureFetch := ensureFetch_succ ih
      call := call_succ ih
      answerCall := answerCall_succ ih
      complete := complete_succ ih
      fanOut := fanOut_succ ih
      emit := emit_succ ih
      deliverEach := deliverEach_succ ih
      startRegistry := startRegistry_succ ih
      namesListed := namesListed_succ ih
      activatableListed := activatableListed_succ ih
      registryOwnerChanged := registryOwnerChanged_succ ih
      registerEach := registerEach_succ ih
      register := register_succ ih
      startClient := startClient_succ ih
      runActions := runActions_succ ih
      runStep := runStep_succ ih
      perform := perform_succ ih }

end Invariant

end MissionControl.Hub
