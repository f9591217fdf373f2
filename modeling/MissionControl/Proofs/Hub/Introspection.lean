import MissionControl.Proofs.Hub.Completion

/-!
# The introspection of a client

A client's proxy learns what its client is by fetches of its interfaces: first the client
interface, whose reaction (`clientFetched`) reads the roles the client declares, then one fetch
per declared role, all counting on one latch whose finale makes the proxy ready.

This module describes that work from the side of one client `c`. `World.Around` is the frame
of a piece of the work: it touches at most some fetches, waiters, requests and latches and some
interfaces of the client's status, and may add records; it keeps the client's
owner, name watch and link to the registry, keeps what the proxy knows apart from its readiness
and its role interfaces (`Client.Proxy.core`), and never makes a ready proxy unready. Every
operation below comes with the frame it stays within, built from the frames of the primitive
changes.
-/

set_option autoImplicit false

namespace MissionControl.Client.Proxy

/-- What a proxy knows of its client apart from its readiness and the contents of its role
interfaces: names, owner, activation, invalidation, declared interfaces, and whether it has
started. -/
def core (p : Proxy) : String × String × Bool × Bool × Option String × List String × Bool :=
  (p.name, p.uniqueName, p.activatable, p.active, p.gone, p.interfaces, p.started)

@[simp] theorem core_buildHandler (p : Proxy) (props : Properties) : (p.buildHandler props).core = p.core :=
  rfl

@[simp] theorem core_buildApprover (p : Proxy) (props : Properties) : (p.buildApprover props).core = p.core :=
  rfl

@[simp] theorem core_buildObserver (p : Proxy) (props : Properties) : (p.buildObserver props).core = p.core :=
  rfl

@[simp] theorem core_readied (p : Proxy) : ({ p with ready := true } : Proxy).core = p.core := rfl

end MissionControl.Client.Proxy

namespace MissionControl.Hub

open Readiness

/-- What a latch counts for: its finale and how many of its waiters are still to fire. -/
def Latch.tally (l : Latch) : Finale × Nat := (l.finale, l.toFire.remaining)

/-- Client record `x'` is `x` after work on the client's introspection: the owner, the name
watch, the link to the registry and the core of the proxy are as they were, a ready proxy is
still ready, and an unready one became ready only if `R`. -/
structure ClientObject.Kin (R : Prop) (x x' : ClientObject) : Prop where
  owner : x'.owner = x.owner
  nameWatch : x'.nameWatch = x.nameWatch
  goneLinked : x'.goneLinked = x.goneLinked
  core : x'.proxy.core = x.proxy.core
  ready : x.proxy.ready = true → x'.proxy.ready = true
  readied : x'.proxy.ready = true → x.proxy.ready = true ∨ R

namespace ClientObject.Kin

variable {R R' : Prop}

theorem refl (x : ClientObject) : x.Kin R x := ⟨rfl, rfl, rfl, rfl, id, .inl⟩

theorem trans {x y z : ClientObject} (first : x.Kin R y) (second : y.Kin R' z) : x.Kin (R ∨ R') z :=
  ⟨second.owner.trans first.owner, second.nameWatch.trans first.nameWatch,
    second.goneLinked.trans first.goneLinked, second.core.trans first.core,
    fun ready => second.ready (first.ready ready),
    fun ready => (second.readied ready).elim (fun ready => (first.readied ready).imp_right .inl)
      fun may => .inr (.inr may)⟩

theorem mono {x x' : ClientObject} (kin : x.Kin R x') (weaker : R → R') : x.Kin R' x' :=
  { kin with readied := fun ready => (kin.readied ready).imp_right weaker }

end ClientObject.Kin

/-- What a piece of work on a client may touch: fetches, waiters, requests and latches among
those the world has, interfaces of the client's status, and whether the client may become
ready. -/
structure Touch where
  fetches : Nat → Prop
  waiters : Nat → Prop
  calls : Nat → Prop
  latches : Nat → Prop
  ifaces : String → Prop
  readies : Prop

namespace Touch

/-- Touching what either touches. -/
def join (t t' : Touch) : Touch :=
  ⟨fun g => t.fetches g ∨ t'.fetches g, fun v => t.waiters v ∨ t'.waiters v,
    fun j => t.calls j ∨ t'.calls j, fun l => t.latches l ∨ t'.latches l,
    fun r => t.ifaces r ∨ t'.ifaces r, t.readies ∨ t'.readies⟩

/-- Touching at most what `t'` touches. -/
structure Le (t t' : Touch) : Prop where
  fetches : ∀ g, t.fetches g → t'.fetches g
  waiters : ∀ v, t.waiters v → t'.waiters v
  calls : ∀ j, t.calls j → t'.calls j
  latches : ∀ l, t.latches l → t'.latches l
  ifaces : ∀ r, t.ifaces r → t'.ifaces r
  readies : t.readies → t'.readies

theorem Le.refl (t : Touch) : t.Le t := ⟨fun _ => id, fun _ => id, fun _ => id, fun _ => id, fun _ => id, id⟩

theorem join_le {t t' u : Touch} (left : t.Le u) (right : t'.Le u) : (t.join t').Le u :=
  ⟨fun g => Or.rec (left.fetches g) (right.fetches g), fun v => Or.rec (left.waiters v) (right.waiters v),
    fun j => Or.rec (left.calls j) (right.calls j), fun l => Or.rec (left.latches l) (right.latches l),
    fun r => Or.rec (left.ifaces r) (right.ifaces r), Or.rec left.readies right.readies⟩

/-- Touching no record and no interface; the client may become ready if `R`. -/
def only (R : Prop) : Touch :=
  ⟨fun _ => False, fun _ => False, fun _ => False, fun _ => False, fun _ => False, R⟩

end Touch

namespace World

/-- The client the registry knows under `name`, when there is a registry and it knows one. -/
def clientNamed (h : World) (name : String) : Option Nat :=
  h.registry.bind fun r => (r.entries.find? (·.name == name)).map (·.client)

/-- World `h'` is `h` after work on client `c` that touched at most what `t` says: of the records
`h` has, only the fetches, waiters, requests and latches of `t` changed (of a latch, only what it
counts for matters), of the client's status
only the interfaces of `t`; records may be added. The client's record is kin to what it was, no
owner was opened or closed, no fetch changed its object and no request its route, every request
added is in the frame and, if it is for a fetch, for one of the world in the frame, and the
subscriptions, the clients the registry knows by name and the descriptors are as they were. -/
structure Around (c : Nat) (t : Touch) (h h' : World) : Prop where
  fetch : ∀ g < h.fetches.size, ¬t.fetches g → h'.fetches.getD g default = h.fetches.getD g default
  fetchCount : h.fetches.size ≤ h'.fetches.size
  subject : ∀ g < h.fetches.size, (h'.fetches.getD g default).subject = (h.fetches.getD g default).subject
  waiter : ∀ v < h.waiters.size, ¬t.waiters v → h'.waiters.getD v default = h.waiters.getD v default
  waiterCount : h.waiters.size ≤ h'.waiters.size
  call : ∀ j < h.bus.calls.size, ¬t.calls j → h'.bus.calls.getD j default = h.bus.calls.getD j default
  callCount : h.bus.calls.size ≤ h'.bus.calls.size
  route : ∀ j < h.bus.calls.size, (h'.bus.calls.getD j default).route = (h.bus.calls.getD j default).route
  added : ∀ j, h.bus.calls.size ≤ j → j < h'.bus.calls.size → t.calls j ∧
    ∀ g, (h'.bus.calls.getD j default).route = .fetch g → g < h'.fetches.size ∧ t.fetches g
  latch : ∀ l < h.latches.size, ¬t.latches l →
    (h'.latches.getD l default).tally = (h.latches.getD l default).tally
  latchCount : h.latches.size ≤ h'.latches.size
  fetching : ∀ r, ¬t.ifaces r → (h'.status (.client c)).fetching? r = (h.status (.client c)).fetching? r
  determined : ∀ r, ¬t.ifaces r → (h'.status (.client c)).isReady r = (h.status (.client c)).isReady r
  outcome : ∀ r, ¬t.ifaces r → (h'.status (.client c)).fetchError? r = (h.status (.client c)).fetchError? r
  client : (h.clients.getD c default).Kin t.readies (h'.clients.getD c default)
  clientCount : h'.clients.size = h.clients.size
  closed : ∀ o, (h'.owners.getD o default).closed = (h.owners.getD o default).closed
  subscriptions : h'.bus.subscriptions = h.bus.subscriptions
  named : ∀ name, h'.clientNamed name = h.clientNamed name
  descriptors : h'.descriptors = h.descriptors

namespace Around

variable {c : Nat} {t t' : Touch} {h h₁ h' : World}

theorem refl (h : World) : h.Around c t h where
  fetch _ _ _ := rfl
  fetchCount := Nat.le_refl _
  subject _ _ := rfl
  waiter _ _ _ := rfl
  waiterCount := Nat.le_refl _
  call _ _ _ := rfl
  callCount := Nat.le_refl _
  route _ _ := rfl
  added _ old new := absurd new (Nat.not_lt.mpr old)
  latch _ _ _ := rfl
  latchCount := Nat.le_refl _
  fetching _ _ := rfl
  determined _ _ := rfl
  outcome _ _ := rfl
  client := .refl _
  clientCount := rfl
  closed _ := rfl
  subscriptions := rfl
  named _ := rfl
  descriptors := rfl

/-- Two pieces of work one after the other touch what either touched. -/
theorem trans (first : h.Around c t h₁) (second : h₁.Around c t' h') : h.Around c (t.join t') h' where
  fetch g old untouched := (second.fetch g (Nat.lt_of_lt_of_le old first.fetchCount)
    fun touched => untouched (.inr touched)).trans (first.fetch g old fun touched => untouched (.inl touched))
  fetchCount := first.fetchCount.trans second.fetchCount
  subject g old := (second.subject g (Nat.lt_of_lt_of_le old first.fetchCount)).trans (first.subject g old)
  waiter v old untouched := (second.waiter v (Nat.lt_of_lt_of_le old first.waiterCount)
    fun touched => untouched (.inr touched)).trans (first.waiter v old fun touched => untouched (.inl touched))
  waiterCount := first.waiterCount.trans second.waiterCount
  call j old untouched := (second.call j (Nat.lt_of_lt_of_le old first.callCount)
    fun touched => untouched (.inr touched)).trans (first.call j old fun touched => untouched (.inl touched))
  callCount := first.callCount.trans second.callCount
  route j old := (second.route j (Nat.lt_of_lt_of_le old first.callCount)).trans (first.route j old)
  added j old new := by
    by_cases earlier : j < h₁.bus.calls.size
    · obtain ⟨call, routed⟩ := first.added j old earlier
      refine ⟨.inl call, fun g route => ?_⟩
      rw [second.route j earlier] at route
      obtain ⟨inside, touched⟩ := routed g route
      exact ⟨Nat.lt_of_lt_of_le inside second.fetchCount, .inl touched⟩
    · obtain ⟨call, routed⟩ := second.added j (Nat.not_lt.mp earlier) new
      exact ⟨.inr call, fun g route => (routed g route).imp_right .inr⟩
  latch l old untouched := (second.latch l (Nat.lt_of_lt_of_le old first.latchCount)
    fun touched => untouched (.inr touched)).trans (first.latch l old fun touched => untouched (.inl touched))
  latchCount := first.latchCount.trans second.latchCount
  fetching r untouched := (second.fetching r fun touched => untouched (.inr touched)).trans
    (first.fetching r fun touched => untouched (.inl touched))
  determined r untouched := (second.determined r fun touched => untouched (.inr touched)).trans
    (first.determined r fun touched => untouched (.inl touched))
  outcome r untouched := (second.outcome r fun touched => untouched (.inr touched)).trans
    (first.outcome r fun touched => untouched (.inl touched))
  client := first.client.trans second.client
  clientCount := second.clientCount.trans first.clientCount
  closed o := (second.closed o).trans (first.closed o)
  subscriptions := second.subscriptions.trans first.subscriptions
  named name := (second.named name).trans (first.named name)
  descriptors := second.descriptors.trans first.descriptors

/-- Work that touched little touched at most more. -/
theorem mono (around : h.Around c t h') (le : t.Le t') : h.Around c t' h' where
  fetch g old untouched := around.fetch g old fun touched => untouched (le.fetches g touched)
  waiter v old untouched := around.waiter v old fun touched => untouched (le.waiters v touched)
  call j old untouched := around.call j old fun touched => untouched (le.calls j touched)
  latch l old untouched := around.latch l old fun touched => untouched (le.latches l touched)
  fetching r untouched := around.fetching r fun touched => untouched (le.ifaces r touched)
  determined r untouched := around.determined r fun touched => untouched (le.ifaces r touched)
  outcome r untouched := around.outcome r fun touched => untouched (le.ifaces r touched)
  added j old new := (around.added j old new).imp (le.calls j) fun routed g route =>
    (routed g route).imp_right (le.fetches g)
  client := around.client.mono le.readies
  __ := around

/-- Two pieces of work with the same frame make one with that frame. -/
theorem chain (first : h.Around c t h₁) (second : h₁.Around c t h') : h.Around c t h' :=
  (first.trans second).mono (Touch.join_le (.refl t) (.refl t))

/-! ### The primitive changes -/

/-- A change that keeps every table the frame reads. -/
theorem of_eq (fetches : h'.fetches = h.fetches) (waiters : h'.waiters = h.waiters)
    (calls : h'.bus.calls = h.bus.calls) (latches : h'.latches = h.latches)
    (clients : h'.clients = h.clients) (owners : h'.owners = h.owners)
    (subscriptions : h'.bus.subscriptions = h.bus.subscriptions)
    (named : ∀ name, h'.clientNamed name = h.clientNamed name)
    (descriptors : h'.descriptors = h.descriptors) : h.Around c t h' where
  fetch _ _ _ := by rw [fetches]
  fetchCount := by rw [fetches]
  subject _ _ := by rw [fetches]
  waiter _ _ _ := by rw [waiters]
  waiterCount := by rw [waiters]
  call _ _ _ := by rw [calls]
  callCount := by rw [calls]
  route _ _ := by rw [calls]
  added _ old new := by rw [calls] at new; exact absurd new (Nat.not_lt.mpr old)
  latch _ _ _ := by rw [latches]
  latchCount := by rw [latches]
  fetching _ _ := by simp only [status, clients]
  determined _ _ := by simp only [status, clients]
  outcome _ _ := by simp only [status, clients]
  client := by rw [clients]; exact .refl _
  clientCount := by rw [clients]
  closed _ := by rw [owners]
  subscriptions := subscriptions
  named := named
  descriptors := descriptors

/-- A change of the fetches that keeps the old ones outside the frame, and the objects of all
old ones. -/
theorem of_fetches {fs : Array Fetch}
    (kept : ∀ g < h.fetches.size, ¬t.fetches g → fs.getD g default = h.fetches.getD g default)
    (subject : ∀ g < h.fetches.size, (fs.getD g default).subject = (h.fetches.getD g default).subject)
    (grows : h.fetches.size ≤ fs.size) : h.Around c t { h with fetches := fs } :=
  { (of_eq rfl rfl rfl rfl rfl rfl rfl (fun _ => rfl) rfl : h.Around c t h) with
    fetch := kept, fetchCount := grows, subject, added := fun _ old new => absurd new (Nat.not_lt.mpr old) }

/-- A change of the waiters that keeps the old ones outside the frame. -/
theorem of_waiters {ws : Array Waiter}
    (kept : ∀ v < h.waiters.size, ¬t.waiters v → ws.getD v default = h.waiters.getD v default)
    (grows : h.waiters.size ≤ ws.size) : h.Around c t { h with waiters := ws } :=
  { (of_eq rfl rfl rfl rfl rfl rfl rfl (fun _ => rfl) rfl : h.Around c t h) with
    waiter := kept, waiterCount := grows }

/-- A change of the latches that keeps what the old ones outside the frame count for. -/
theorem of_latches {ls : Array Latch}
    (kept : ∀ l < h.latches.size, ¬t.latches l → (ls.getD l default).tally = (h.latches.getD l default).tally)
    (grows : h.latches.size ≤ ls.size) : h.Around c t { h with latches := ls } :=
  { (of_eq rfl rfl rfl rfl rfl rfl rfl (fun _ => rfl) rfl : h.Around c t h) with
    latch := kept, latchCount := grows }

/-- A change of the requests that keeps the old ones outside the frame and the routes of all old
ones, and adds requests in the frame, for fetches in the frame. -/
theorem of_calls {b : Bus.Scripted Route Listener} (subscriptions : b.subscriptions = h.bus.subscriptions)
    (kept : ∀ j < h.bus.calls.size, ¬t.calls j → b.calls.getD j default = h.bus.calls.getD j default)
    (route : ∀ j < h.bus.calls.size, (b.calls.getD j default).route = (h.bus.calls.getD j default).route)
    (added : ∀ j, h.bus.calls.size ≤ j → j < b.calls.size → t.calls j ∧
      ∀ g, (b.calls.getD j default).route = .fetch g → g < h.fetches.size ∧ t.fetches g)
    (grows : h.bus.calls.size ≤ b.calls.size) : h.Around c t { h with bus := b } :=
  { (of_eq rfl rfl rfl rfl rfl rfl rfl (fun _ => rfl) rfl : h.Around c t h) with
    call := kept, callCount := grows, subscriptions, route, added }

/-- A request recorded on the bus, in the frame, and for a fetch of the world in the frame if it
is for one. -/
theorem record {dest path method : String} {args : List Value} {route : Route}
    (touched : t.calls h.bus.calls.size)
    (routed : ∀ g, route = .fetch g → g < h.fetches.size ∧ t.fetches g) :
    h.Around c t { h with bus := (h.bus.record dest path method args route).1 } :=
  of_calls rfl
    (fun _ old _ => by
      simp only [Bus.Scripted.record]
      rw [getD_push, if_neg (Nat.ne_of_lt old)])
    (fun _ old => by
      simp only [Bus.Scripted.record]
      rw [getD_push, if_neg (Nat.ne_of_lt old)])
    (fun j old new => by
      simp only [Bus.Scripted.record, Array.size_push] at new ⊢
      obtain rfl : j = h.bus.calls.size := Nat.le_antisymm (Nat.le_of_lt_succ new) old
      rw [getD_push, if_pos rfl]
      exact ⟨touched, routed⟩)
    (by simp only [Bus.Scripted.record, Array.size_push]; exact Nat.le_succ _)

/-- A change of the owners that opens and closes none. -/
theorem of_owners {os : Array Owner}
    (closed : ∀ o, (os.getD o default).closed = (h.owners.getD o default).closed) :
    h.Around c t { h with owners := os } :=
  { (of_eq rfl rfl rfl rfl rfl rfl rfl (fun _ => rfl) rfl : h.Around c t h) with closed }

/-- A change of the client's status on the interfaces of the frame. -/
theorem of_status {st : Status}
    (agrees : ∀ r, ¬t.ifaces r → st.fetching? r = (h.status (.client c)).fetching? r ∧
      st.isReady r = (h.status (.client c)).isReady r ∧
      st.fetchError? r = (h.status (.client c)).fetchError? r) :
    h.Around c t (h.setStatus (.client c) st) := by
  -- without the client, its status reads as the empty one before and after
  have agrees' : ∀ r, ¬t.ifaces r → ((h.setStatus (.client c) st).status (.client c)).fetching? r =
      (h.status (.client c)).fetching? r ∧
      ((h.setStatus (.client c) st).status (.client c)).isReady r = (h.status (.client c)).isReady r ∧
      ((h.setStatus (.client c) st).status (.client c)).fetchError? r =
        (h.status (.client c)).fetchError? r := by
    intro r untouched
    by_cases has : h.Has (.client c)
    · rw [status_setStatus_self st has]
      exact agrees r untouched
    · rw [status_of_not_has (fun has' => has (has_setStatus.mp has')), status_of_not_has has]
      exact ⟨rfl, rfl, rfl⟩
  refine { (of_eq rfl rfl rfl rfl rfl rfl rfl (fun _ => rfl) rfl : h.Around c t h) with
    fetching := fun r untouched => (agrees' r untouched).1,
    determined := fun r untouched => (agrees' r untouched).2.1,
    outcome := fun r untouched => (agrees' r untouched).2.2,
    client := ?_, clientCount := Array.size_modify .. }
  simp only [setStatus, getD_modify]
  split
  · exact ⟨rfl, rfl, rfl, rfl, id, .inl⟩
  · exact .refl _

/-- A change of the client's proxy that keeps its core, leaves a ready proxy ready, and makes
one ready only if the frame allows it. -/
theorem of_proxy (g : Client.Proxy → Client.Proxy) (core : ∀ p, (g p).core = p.core)
    (ready : ∀ p, p.ready = true → (g p).ready = true)
    (readied : ∀ p, (g p).ready = true → p.ready = true ∨ t.readies) :
    h.Around c t { h with clients := h.clients.modify c fun x => { x with proxy := g x.proxy } } := by
  have status : (({ h with clients := h.clients.modify c fun x => { x with proxy := g x.proxy } } :
      World).status (.client c)) = h.status (.client c) := by
    simp only [status]
    exact getD_modify_of_keeps _ _ _ _ ClientObject.status fun _ => rfl
  refine { (of_eq rfl rfl rfl rfl rfl rfl rfl (fun _ => rfl) rfl : h.Around c t h) with
    fetching := fun r _ => by rw [status], determined := fun r _ => by rw [status],
    outcome := fun r _ => by rw [status], client := ?_, clientCount := Array.size_modify .. }
  simp only [getD_modify]
  split
  · exact ⟨rfl, rfl, rfl, core _, ready _, readied _⟩
  · exact .refl _

end Around

end World

/-! ## Operations within a frame -/

section Within

variable {c : Nat} {t : Touch} {α β : Type}

/-- Every return of `x` stays within the frame `t` of work on client `c`. -/
abbrev Within (c : Nat) (t : Touch) {α : Type} (x : HubM α) : Prop :=
  Stays (World.Around c t) x

theorem Within.pure (a : α) : Within c t (Pure.pure a : HubM α) := by
  intro h b h' run
  rw [ok_pure run]
  exact .refl h

theorem Within.bind {x : HubM α} {f : α → HubM β} (first : Within c t x)
    (rest : ∀ a, Within c t (f a)) : Within c t (x >>= f) := by
  intro h b h' run
  obtain ⟨a, h₁, ran, more⟩ := bind_ok.mp run
  exact (first h a h₁ ran).chain (rest a h₁ b h' more)

theorem Within.read {x : HubM α} (reads : ∀ h, ∃ a, x.run h = .ok a h) : Within c t x := by
  intro h a h' run
  obtain ⟨b, ran⟩ := reads h
  rw [ran, EStateM.Result.ok.injEq] at run
  rw [← run.2]
  exact .refl h

theorem Within.forIn {xs : List α} {body : α → PUnit → HubM (ForInStep PUnit)}
    (pass : ∀ a, Within c t (body a ⟨⟩)) : Within c t (ForIn.forIn xs ⟨⟩ body) := by
  induction xs with
  | nil => exact .pure _
  | cons a rest ih =>
    rw [List.forIn_cons]
    refine .bind (pass a) fun step => ?_
    cases step with
    | done _ => exact .pure _
    | yield _ => exact ih

/-! ### The primitive operations -/

theorem within_note (n : Note) : Within c t (note n) :=
  Stays.of_modify fun _ => .of_eq rfl rfl rfl rfl rfl rfl rfl (fun _ => rfl) rfl

theorem within_modifyWaiter {w : Nat} (touched : t.waiters w) (g : Waiter → Waiter) :
    Within c t (modifyWaiter w g) :=
  Stays.of_modify fun _ => .of_waiters (fun _ _ other => getD_modify_ne _ _ fun same => other (same ▸ touched))
    (by rw [Array.size_modify])

theorem within_newWaiter (wt : Waiter) : Within c t (newWaiter wt) :=
  Stays.of_modifyGet fun _ => .of_waiters (fun _ old _ => by rw [getD_push, if_neg (Nat.ne_of_lt old)])
    (by rw [Array.size_push]; exact Nat.le_succ _)

theorem within_modifyFetch {f : Nat} (touched : t.fetches f) (g : Fetch → Fetch)
    (keeps : ∀ x, (g x).subject = x.subject) : Within c t (modifyFetch f g) :=
  Stays.of_modify fun _ => .of_fetches (fun _ _ other => getD_modify_ne _ _ fun same => other (same ▸ touched))
    (fun _ _ => getD_modify_of_keeps _ _ _ _ Fetch.subject keeps) (by rw [Array.size_modify])

theorem within_newFetch (fs : Fetch) : Within c t (newFetch fs) :=
  Stays.of_modifyGet fun _ => .of_fetches (fun _ old _ => by rw [getD_push, if_neg (Nat.ne_of_lt old)])
    (fun _ old => by rw [getD_push, if_neg (Nat.ne_of_lt old)]) (by rw [Array.size_push]; exact Nat.le_succ _)

theorem within_modifyLatch {m : Nat} (touched : t.latches m) (g : Latch → Latch) :
    Within c t (modifyLatch m g) :=
  Stays.of_modify fun _ => .of_latches
    (fun l _ other => by rw [getD_modify_ne _ _ fun same : l = m => other (same ▸ touched)])
    (by rw [Array.size_modify])

/-- A change of a latch that keeps what it counts for. -/
theorem within_modifyLatch_tally (m : Nat) (g : Latch → Latch) (keeps : ∀ x, (g x).tally = x.tally) :
    Within c t (modifyLatch m g) :=
  Stays.of_modify fun _ => .of_latches (fun _ _ _ => getD_modify_of_keeps _ _ _ _ Latch.tally keeps)
    (by rw [Array.size_modify])

theorem within_newLatch (l : Latch) : Within c t (newLatch l) :=
  Stays.of_modifyGet fun _ => .of_latches (fun _ old _ => by rw [getD_push, if_neg (Nat.ne_of_lt old)])
    (by rw [Array.size_push]; exact Nat.le_succ _)

theorem within_modifyOwner (o : Nat) (g : Owner → Owner) (closed : ∀ x, (g x).closed = x.closed) :
    Within c t (modifyOwner o g) :=
  Stays.of_modify fun _ => .of_owners fun _ => getD_modify_of_keeps _ _ _ _ Owner.closed closed

theorem within_untrack (w : Nat) (o : Option Nat) : Within c t (untrack w o) := by
  cases o with
  | none => exact .pure _
  | some o => exact within_modifyOwner o _ fun _ => rfl

theorem within_modifyProxy (g : Client.Proxy → Client.Proxy) (core : ∀ p, (g p).core = p.core)
    (ready : ∀ p, p.ready = true → (g p).ready = true)
    (readied : ∀ p, (g p).ready = true → p.ready = true ∨ t.readies) : Within c t (modifyProxy c g) :=
  Stays.of_modify fun _ => .of_proxy g core ready readied

/-- The clients the registry knows by name depend only on the names and clients of its entries. -/
theorem World.clientNamed_of_entries {h : World} (g : Registry → Registry)
    (entries : ∀ r, (g r).entries.map (fun e => (e.name, e.client)) = r.entries.map (fun e => (e.name, e.client)))
    (name : String) :
    ({ h with registry := h.registry.map g } : World).clientNamed name = h.clientNamed name := by
  have paired : ∀ l : List RegistryEntry, (l.find? (·.name == name)).map (·.client) =
      ((l.map fun e => (e.name, e.client)).find? (·.1 == name)).map (·.2) := fun l => by
    rw [List.find?_map, Option.map_map]
    rfl
  cases registry : h.registry with
  | none => simp [World.clientNamed, registry]
  | some r => simp only [World.clientNamed, registry, Option.map_some, Option.bind_some, paired, entries]

theorem within_modifyRegistry (g : Registry → Registry)
    (entries : ∀ r, (g r).entries.map (fun e => (e.name, e.client)) = r.entries.map (fun e => (e.name, e.client))) :
    Within c t (modifyRegistry g) :=
  Stays.of_modify fun _ => .of_eq rfl rfl rfl rfl rfl rfl rfl (World.clientNamed_of_entries g entries) rfl

/-- A request marked answered. -/
theorem within_markAnswered {i : Nat} (touched : t.calls i) :
    Within c t (modify fun h : World => { h with bus := h.bus.markAnswered i }) :=
  Stays.of_modify fun _ => .of_calls rfl
    (fun _ _ other => getD_modify_ne _ _ fun same => other (same ▸ touched))
    (fun _ _ => getD_modify_of_keeps _ _ _ _ Bus.Call.route fun _ => rfl)
    (fun _ old new => by
      simp only [Bus.Scripted.markAnswered, Array.size_modify] at new
      exact absurd new (Nat.not_lt.mpr old))
    (by simp only [Bus.Scripted.markAnswered, Array.size_modify]; exact Nat.le_refl _)

theorem within_post (p : Posted) : Within c t (post p) :=
  Stays.of_modify fun _ => .of_eq rfl rfl rfl rfl rfl rfl rfl (fun _ => rfl) rfl

theorem within_transmit (i : Nat) (dest path method : String) (args : List Value) :
    Within c t (transmit i dest path method args) := by
  unfold transmit
  refine .bind (.read fun h => ⟨_, run_get h⟩) fun h => ?_
  split
  · split
    · exact within_post _
    · split
      · exact within_post _
      · split
        split
        · exact within_post _
        · exact .bind (Stays.of_modifyGet fun _ => .of_eq rfl rfl rfl rfl rfl rfl rfl (fun _ => rfl) rfl)
            fun _ => within_post _
  · exact .pure _

/-! ### Operations that only report -/

theorem within_releaseStartupLock : Within c t releaseStartupLock := by
  unfold releaseStartupLock
  refine .bind (.read fun h => ⟨_, run_registry? h⟩) fun r? => ?_
  split
  · split
    · exact .pure _
    · split
      · exact .bind (within_note _) fun _ => .pure _
      · refine .bind (within_modifyRegistry _ fun _ => rfl) fun _ => ?_
        split
        · exact .pure _
        · refine .bind (within_modifyRegistry _ fun _ => rfl) fun _ => ?_
          split
          · exact within_note _
          · exact .pure _
  · exact .pure _

theorem within_registryClientReady (c' : Nat) : Within c t (registryClientReady c') := by
  unfold registryClientReady
  refine .bind (.read fun h => ⟨_, run_registry? h⟩) fun r? => ?_
  split
  · split
    · split
      · refine .bind (within_modifyRegistry _ fun r => ?_) fun _ => within_releaseStartupLock
        simp only [List.map_map]
        congr 1
        funext y
        simp only [Function.comp_apply]
        split <;> rfl
      · exact .pure _
    · exact .pure _
  · exact .pure _

/-- A client becoming ready touches no record; the proxy of `c` stays kin, only more ready. -/
theorem within_becomeReady (may : t.readies) : Within c t (becomeReady c) := by
  unfold becomeReady
  refine .bind (.read fun h => ⟨_, run_client c h⟩) fun cl => ?_
  split
  · exact .pure _
  · refine .bind (within_modifyProxy _ (fun _ => rfl) (fun _ _ => rfl) fun _ _ => .inr may) fun _ => ?_
    split
    · exact within_registryClientReady c
    · exact .pure _

/-- Releasing a waiter of a latch changes nothing the latch counts for. -/
theorem within_releaseLatch (m : Nat) : Within c t (releaseLatch m) := by
  unfold releaseLatch
  refine .bind (.read fun h => ⟨_, run_latch m h⟩) fun l => ?_
  split
  refine .bind (within_modifyLatch_tally _ _ fun _ => rfl) fun _ => ?_
  split
  · split
    · exact within_note _
    · exact .pure _
  · exact .pure _

/-! ### Finishing and settling -/

/-- Determining one interface changes nothing of another. -/
theorem markReady_agrees (st : Status) {name r : String} (err : Option String) (other : r ≠ name) :
    (st.markReady name err).fetching? r = st.fetching? r ∧
      (st.markReady name err).isReady r = st.isReady r ∧
      (st.markReady name err).fetchError? r = st.fetchError? r := by
  have apart : (name == r) = false := by simp [Ne.symm other]
  have apart' : (r == name) = false := by simp [other]
  -- the entries for `name` that are replaced are not looked at for `r`
  have replaced : ∀ l : List (String × Option String),
      (l.map fun e => if e.1 == name then (name, err) else e).lookup r = l.lookup r ∧
        (l.map fun e => if e.1 == name then (name, err) else e).any (·.1 == r) = l.any (·.1 == r) := by
    intro l
    induction l with
    | nil => exact ⟨rfl, rfl⟩
    | cons e rest ih =>
      obtain ⟨looked, found⟩ := ih
      obtain ⟨k, v⟩ := e
      by_cases named : k = name
      · subst named
        simp only [List.map_cons, beq_self_eq_true, if_true, List.lookup_cons, apart', List.any_cons,
          apart, found, looked]
        simp
      · have differs : (k == name) = false := by simpa using named
        simp only [List.map_cons, differs, Bool.false_eq_true, ↓reduceIte, List.lookup, looked,
          List.any_cons, found, and_self]
  refine ⟨by rw [fetching?_markReady, if_neg other], ?_, ?_⟩
  · cases ready : st.isReady name
    · simp only [Status.markReady]
      rw [ready]
      simp only [Bool.false_eq_true, ↓reduceIte, Status.isReady, List.any_append, List.any_cons,
        List.any_nil, apart, Bool.or_false]
    · simp only [Status.markReady]
      rw [ready]
      exact (replaced st.ready).2
  · cases ready : st.isReady name
    · simp only [Status.markReady]
      rw [ready]
      simp only [Bool.false_eq_true, ↓reduceIte, Status.fetchError?, List.lookup_append,
        List.lookup_cons, apart', List.lookup_nil, Option.or_none]
    · simp only [Status.markReady]
      rw [ready]
      simp only [↓reduceIte, Status.fetchError?]
      rw [(replaced st.ready).1]

/-- Releasing a waiter touches only it. -/
theorem within_releaseWaiter {w : Nat} (touched : t.waiters w) : Within c t (releaseWaiter w) := by
  unfold releaseWaiter
  refine .bind (.read fun h => ⟨_, run_waiter w h⟩) fun wt => ?_
  split
  · exact .pure _
  · refine .bind (within_modifyWaiter touched _) fun _ => ?_
    split
    · exact .pure _
    · exact within_note _
    · exact within_releaseLatch _

/-- Finishing a waiter touches only it. -/
theorem within_finish {w : Nat} (touched : t.waiters w) : Within c t (finish w) := by
  unfold finish
  exact .bind (.read fun h => ⟨_, run_waiter w h⟩) fun wt =>
    .bind (within_modifyWaiter touched _) fun _ =>
      .bind (within_untrack _ _) fun _ => within_releaseWaiter touched

/-- Settling a fetch of the client that lists one waiter touches the fetch, the waiter and the
fetch's interface. -/
theorem settleFetch_lone {f w : Nat} {d : Descriptor} {err : Option String} {h h' : World}
    (subject : (h.fetches.getD f default).subject = .client c)
    (descriptor : (h.fetches.getD f default).descriptor = d)
    (listed : (h.fetches.getD f default).waiters = #[w])
    (touched : t.fetches f) (finished : t.waiters w) (iface : t.ifaces d.name) (run : (settleFetch f err).run h = .ok () h') : h.Around c t h' := by
  simp only [settleFetch, bind_ok, run_fetch, EStateM.Result.ok.injEq, exists_returned] at run
  obtain ⟨⟨⟩, h₁, stopped, run⟩ := run
  have first : h.Around c t h₁ := within_modifyFetch touched (fun x => { x with firing := false }) (fun _ => rfl) h () h₁ stopped
  simp only [run_modifyFetch, EStateM.Result.ok.injEq] at stopped
  obtain ⟨-, rfl⟩ := stopped
  -- the fetch read back is the one before, but for firing
  have kept : ∀ {β : Type} (field : Fetch → β), (∀ x : Fetch, field { x with firing := false } = field x) →
      field ((h.fetches.modify f fun x => { x with firing := false }).getD f default) =
        field (h.fetches.getD f default) :=
    fun field keeps => getD_modify_of_keeps _ _ _ _ field keeps
  split at run
  · rw [ok_pure run]
    exact first
  · obtain ⟨⟨⟩, h₃, readied, run⟩ := bind_ok.mp run
    simp only [run_modify, EStateM.Result.ok.injEq] at readied
    obtain ⟨-, rfl⟩ := readied
    rw [kept Fetch.subject fun _ => rfl, kept Fetch.descriptor fun _ => rfl, subject, descriptor] at run
    have second : h.Around c t ((({ h with fetches := h.fetches.modify f fun x =>
        { x with firing := false } } : World)).setStatus (.client c)
          ((({ h with fetches := h.fetches.modify f fun x => { x with firing := false } } : World)).status
            (.client c) |>.markReady d.name err)) :=
      first.chain (.of_status fun r untouched =>
        markReady_agrees _ err fun same => untouched (same ▸ iface))
    obtain ⟨⟨⟩, h₄, walked, cleared⟩ := bind_ok.mp run
    have last : h₄.Around c t h' := within_modifyFetch touched (fun x => { x with waiters := #[] }) (fun _ => rfl) h₄ () h'
      cleared
    rw [kept Fetch.waiters fun _ => rfl, listed] at walked
    -- the one waiter of the list is finished if it is live
    simp only [← Array.forIn_toList, List.forIn_cons, List.forIn_nil, bind_ok, run_waiter,
      EStateM.Result.ok.injEq, exists_returned] at walked
    obtain ⟨step, h₅, passed, rest⟩ := walked
    rw [World.setStatus_waiters] at passed
    split at passed
    · obtain ⟨⟨⟩, h₆, ran, returned⟩ := bind_ok.mp passed
      simp only [run_pure, EStateM.Result.ok.injEq] at returned
      obtain ⟨rfl, rfl⟩ := returned
      simp only [run_pure, EStateM.Result.ok.injEq] at rest
      obtain ⟨-, rfl⟩ := rest
      exact (second.chain (within_finish finished _ _ _ ran)).chain last
    · simp only [run_pure, EStateM.Result.ok.injEq] at passed rest
      obtain ⟨rfl, rfl⟩ := passed
      obtain ⟨-, rfl⟩ := rest
      exact second.chain last

end Within

/-! ## The completion of a fetch with one waiter -/

/-- The completion of a fetch that lists one waiter and is not disposed of: the result is
absorbed, the waiter fires with the fetch marked firing, and, when the fetch still lists only that
waiter, the fetch settles. -/
theorem complete_lone {n f w : Nat} {result : Except String (Option Properties)} {h h' : World}
    (listed : (h.fetches.getD f default).waiters = #[w])
    (live : (h.fetches.getD f default).disposed = false)
    (run : (complete n f result).run h = .ok () h') :
    ∃ k h₁ h₂, (absorbResult (h.fetches.getD f default) result).run h = .ok () h₁ ∧
      (fire k w (h.fetches.getD f default).subject (fetchOutcome result)).run
        { h₁ with fetches := h₁.fetches.modify f fun x => { x with firing := true } } = .ok () h₂ ∧
      ((h₂.fetches.getD f default).waiters = #[w] →
        (settleFetch f (fetchOutcome result)).run h₂ = .ok () h') := by
  cases n with
  | zero => simp [complete] at run
  | succ n =>
  unfold complete at run
  simp only [bind_ok, run_fetch, EStateM.Result.ok.injEq, exists_returned, live,
    Bool.false_eq_true, ↓reduceIte] at run
  obtain ⟨⟨⟩, h₁, absorbed, ⟨⟩, h₁', started, ⟨⟩, h₂, fanned, settled⟩ := run
  simp only [run_modifyFetch, EStateM.Result.ok.injEq] at started
  obtain ⟨-, rfl⟩ := started
  -- the outcome the fan-out and the settling are given is the outcome of the fetch
  replace fanned : (fanOut n f 0 (h.fetches.getD f default).subject (fetchOutcome result)).run
      { h₁ with fetches := h₁.fetches.modify f fun x => { x with firing := true } } = .ok () h₂ := by
    cases result <;> exact fanned
  replace settled : (settleFetch f (fetchOutcome result)).run h₂ = .ok () h' := by
    cases result <;> exact settled
  have same := World.SameRecords.stays_absorbResult _ result h () h₁ absorbed
  -- the fan-out fires the one waiter, then finds no second one if the list is unchanged
  cases n with
  | zero => simp [fanOut] at fanned
  | succ n =>
  have first : ((h₁.fetches.modify f fun x => { x with firing := true }).getD f default).waiters = #[w] := by
    rw [getD_modify_of_keeps _ _ _ (fun x : Fetch => { x with firing := true }) Fetch.waiters
      fun _ => rfl, same.fetches, listed]
  simp only [fanOut, bind_ok, run_fetch, EStateM.Result.ok.injEq, exists_returned, first] at fanned
  obtain ⟨⟨⟩, h₃, fired, rest⟩ := bind_ok.mp fanned
  refine ⟨n, h₁, h₃, absorbed, fired, fun unchanged => ?_⟩
  cases n with
  | zero => simp [fanOut] at rest
  | succ n =>
  simp only [fanOut, bind_ok, run_fetch, EStateM.Result.ok.injEq, exists_returned, unchanged] at rest
  rw [ok_pure rest] at settled
  exact settled

/-! ## One role of the client determined -/

/-- Where the fetch of one interface of a client stands in the world: the fetch, the one waiter
it lists, and the request for it on the bus. -/
structure Inquiry where
  fetch : Nat
  waiter : Nat
  call : Nat

/-- Whether a builder builds the fields of one role of a client. -/
def buildsRole : Builder → Bool
  | .clientHandler | .clientApprover | .clientObserver => true
  | _ => false

namespace World

/-- The fetch of the interface of `d` for client `c` is in progress through inquiry `q`: the
client's status names the fetch and has not determined the interface, the fetch lists the one
waiter `q.waiter`, which reacts by `r`, is released by `rel`, is owned by the client's owner and
is registered on the fetch, and the request `q.call` is the one request for the fetch on the bus,
unanswered. -/
structure Pending (h : World) (c : Nat) (d : Descriptor) (r : Reaction) (rel : Release) (q : Inquiry) :
    Prop where
  fetching : (h.status (.client c)).fetching? d.name = some q.fetch
  undetermined : (h.status (.client c)).isReady d.name = false
  fetch : q.fetch < h.fetches.size
  record : h.fetches.getD q.fetch default = { subject := .client c, descriptor := d, waiters := #[q.waiter] }
  waiter : q.waiter < h.waiters.size
  registered : h.waiters.getD q.waiter default =
    { reaction := some r, release := rel, owner := some (h.clients.getD c default).owner, fetch := some q.fetch }
  call : q.call < h.bus.calls.size
  route : (h.bus.calls.getD q.call default).route = .fetch q.fetch
  only : ∀ j < h.bus.calls.size, (h.bus.calls.getD j default).route = .fetch q.fetch → j = q.call
  unanswered : (h.bus.calls.getD q.call default).answered = false

/-- Interface `iface` of client `c` is determined, with outcome `err`, and no fetch of it is in
progress. -/
structure Settled (h : World) (c : Nat) (iface : String) (err : Option String) : Prop where
  ready : (h.status (.client c)).isReady iface = true
  outcome : (h.status (.client c)).fetchError? iface = err
  idle : (h.status (.client c)).fetching? iface = none

/-- Latch `m` makes client `c` ready once `k` more of its waiters have fired. -/
structure Counting (h : World) (c m k : Nat) : Prop where
  latch : m < h.latches.size
  finale : (h.latches.getD m default).finale = .clientRoles c
  toFire : (h.latches.getD m default).toFire.remaining = k

variable {c m k : Nat} {d : Descriptor} {r : Reaction} {rel : Release} {q : Inquiry} {t : Touch}
  {iface : String} {err : Option String} {h h' : World}

/-- A fetch in progress stays so through work that touches none of its records. -/
theorem Pending.transfer (pending : h.Pending c d r rel q) (around : h.Around c t h')
    (fetch : ¬t.fetches q.fetch) (waiter : ¬t.waiters q.waiter) (call : ¬t.calls q.call)
    (named : ¬t.ifaces d.name) : h'.Pending c d r rel q where
  fetching := (around.fetching _ named).trans pending.fetching
  undetermined := (around.determined _ named).trans pending.undetermined
  fetch := Nat.lt_of_lt_of_le pending.fetch around.fetchCount
  record := (around.fetch _ pending.fetch fetch).trans pending.record
  waiter := Nat.lt_of_lt_of_le pending.waiter around.waiterCount
  registered := by
    rw [around.waiter _ pending.waiter waiter, around.client.owner]
    exact pending.registered
  call := Nat.lt_of_lt_of_le pending.call around.callCount
  route := (congrArg _ (around.call _ pending.call call)).trans pending.route
  only j inside routed := by
    by_cases old : j < h.bus.calls.size
    · rw [around.route j old] at routed
      exact pending.only j old routed
    · exact absurd ((around.added j (Nat.not_lt.mp old) inside).2 _ routed).2 fetch
  unanswered := (congrArg _ (around.call _ pending.call call)).trans pending.unanswered

theorem Settled.transfer (settled : h.Settled c iface err) (around : h.Around c t h')
    (named : ¬t.ifaces iface) : h'.Settled c iface err :=
  ⟨(around.determined _ named).trans settled.ready, (around.outcome _ named).trans settled.outcome,
    (around.fetching _ named).trans settled.idle⟩

theorem Counting.transfer (counting : h.Counting c m k) (around : h.Around c t h')
    (latch : ¬t.latches m) : h'.Counting c m k :=
  ⟨Nat.lt_of_lt_of_le counting.latch around.latchCount,
    (congrArg Prod.fst (around.latch _ counting.latch latch)).trans counting.finale,
    (congrArg Prod.snd (around.latch _ counting.latch latch)).trans counting.toFire⟩

end World

section Roles

variable {c : Nat} {t : Touch}

/-- Absorbing the result of a role fetch of the client touches no record and leaves the proxy's
core and readiness as they were. -/
theorem within_absorbRole {fs : Fetch} (subject : fs.subject = .client c)
    (role : buildsRole fs.descriptor.build = true) (result : Except String (Option Properties)) :
    Within c t (absorbResult fs result) := by
  cases result with
  | error e => exact .bind (.read fun h => ⟨_, run_get h⟩) fun _ => within_note _
  | ok props =>
    show Within c t (build fs.subject fs.descriptor props)
    unfold build
    rw [subject]
    cases built : fs.descriptor.build <;> simp only [buildsRole, built, Bool.false_eq_true] at role <;>
      exact within_modifyProxy _ (fun _ => rfl) (fun _ ready => ready) fun _ ready => .inl ready

/-- A client becoming ready is ready afterwards. -/
theorem becomeReady_ready {h h' : World} (has : c < h.clients.size)
    (run : (becomeReady c).run h = .ok () h') : (h'.clients.getD c default).proxy.ready = true := by
  unfold becomeReady at run
  simp only [bind_ok, run_client, EStateM.Result.ok.injEq, exists_returned] at run
  by_cases ready : (h.clients.getD c default).proxy.ready = true
  · rw [if_pos ready] at run
    rw [ok_pure run]
    exact ready
  · rw [if_neg ready] at run
    obtain ⟨⟨⟩, h₁, readied, rest⟩ := bind_ok.mp run
    have around : World.Around c (.only False) h₁ h' := by
      by_cases linked : (h.clients.getD c default).readyLinked = true
      · rw [if_pos linked] at rest
        exact within_registryClientReady c _ () h' rest
      · rw [if_neg linked] at rest
        rw [ok_pure rest]
        exact .refl _
    simp only [run_modifyProxy, EStateM.Result.ok.injEq] at readied
    obtain ⟨-, rfl⟩ := readied
    refine around.client.ready ?_
    rw [getD_modify, if_pos ⟨rfl, has⟩]

/-- A waiter counting on latch `m` fires: the latch counts it down, and when it was the last,
the finale makes the client ready. -/
theorem latchFired_counts {n m k : Nat} {s : Subject} {err : Option String} {h h' : World}
    (counting : h.Counting c m (k + 1)) (has : c < h.clients.size)
    (run : (latchFired n m s err).run h = .ok () h') :
    h.Around c { Touch.only (k = 0) with latches := (· = m) } h' ∧ h'.Counting c m k ∧
      (k = 0 → (h'.clients.getD c default).proxy.ready = true) := by
  cases n with
  | zero => simp [latchFired] at run
  | succ n =>
  simp only [latchFired, bind_ok, run_latch, EStateM.Result.ok.injEq, exists_returned] at run
  have tick : (h.latches.getD m default).toFire.tick = (⟨k⟩, k == 0) := by
    simp only [Countdown.tick, counting.toFire]
  rw [tick] at run
  obtain ⟨⟨⟩, h₁, ticked, rest⟩ := run
  have first : h.Around c { Touch.only (k = 0) with latches := (· = m) } h₁ :=
    within_modifyLatch rfl _ h () h₁ ticked
  simp only [run_modifyLatch, EStateM.Result.ok.injEq] at ticked
  have counted : h₁.Counting c m k := by
    rw [← ticked.2]
    refine ⟨by rw [Array.size_modify]; exact counting.latch, ?_, ?_⟩ <;>
      dsimp only <;> rw [getD_modify, if_pos ⟨rfl, counting.latch⟩]
    exact counting.finale
  have has₁ : c < h₁.clients.size := by rw [← ticked.2]; exact has
  by_cases last : k = 0
  · subst last
    simp only [beq_self_eq_true, ↓reduceIte, counting.finale] at rest
    refine ⟨first.chain (within_becomeReady rfl _ () h' rest),
      counted.transfer (within_becomeReady (t := .only True) trivial _ () h' rest) id,
      fun _ => becomeReady_ready has₁ rest⟩
  · have unhit : (k == 0) = false := by simpa using last
    simp only [unhit, Bool.false_eq_true, ↓reduceIte] at rest
    rw [ok_pure rest]
    exact ⟨first, counted, fun zero => absurd zero last⟩

/-- A live waiter reacting by latch `m` fires: the latch counts it, as `latchFired_counts` says. -/
theorem fire_latch {n w m k : Nat} {s : Subject} {err : Option String} {h h' : World}
    (reacts : (h.waiters.getD w default).reaction = some (.latch m))
    (cancelled : (h.waiters.getD w default).cancelled = false)
    (done : (h.waiters.getD w default).done = false)
    (counting : h.Counting c m (k + 1)) (has : c < h.clients.size)
    (run : (fire n w s err).run h = .ok () h') :
    h.Around c { Touch.only (k = 0) with latches := (· = m) } h' ∧ h'.Counting c m k ∧
      (k = 0 → (h'.clients.getD c default).proxy.ready = true) := by
  cases n with
  | zero => simp [fire] at run
  | succ n =>
  simp only [fire, bind_ok, run_waiter, EStateM.Result.ok.injEq, exists_returned, cancelled, done,
    reacts, Bool.or_false, Bool.false_eq_true, ↓reduceIte] at run
  exact latchFired_counts counting has run

/-- The reply to the request of a role fetch of the client in progress, counting on latch `m`
with `k + 1` waiters to fire: the role is determined with the reply's outcome and the request is
answered, the latch counts one more, and the client is ready if this was the last. Only the
fetch, its waiter, its request, the latch and the role are touched. -/
theorem answerCall_role {n m k : Nat} {d : Descriptor} {q : Inquiry} {a : Bus.Answer} {h h' : World}
    (pending : h.Pending c d (.latch m) (.latch m) q) (role : buildsRole d.build = true)
    (counting : h.Counting c m (k + 1)) (has : c < h.clients.size)
    (run : (answerCall n q.call a).run h = .ok () h') :
    h.Around c ⟨(· = q.fetch), (· = q.waiter), (· = q.call), (· = m), (· = d.name), k = 0⟩ h' ∧
      h'.Settled c d.name (fetchOutcome a.properties?) ∧
      (h'.bus.calls.getD q.call default).answered = true ∧ h'.Counting c m k ∧
      (k = 0 → (h'.clients.getD c default).proxy.ready = true) := by
  cases n with
  | zero => simp [answerCall] at run
  | succ n =>
  simp only [answerCall, bind_ok, run_get, EStateM.Result.ok.injEq, exists_returned,
    pending.unanswered, pending.route, Bool.false_eq_true, ↓reduceIte] at run
  obtain ⟨⟨⟩, h₁, marked, completed⟩ := run
  -- the frame of the whole reply; each step is also seen in the smaller frame it keeps to
  have around₁ : h.Around c ⟨(· = q.fetch), (· = q.waiter), (· = q.call), (· = m), (· = d.name), k = 0⟩ h₁ :=
    within_markAnswered rfl h () h₁ marked
  have quiet₁ : h.Around c { Touch.only False with calls := (· = q.call) } h₁ :=
    within_markAnswered rfl h () h₁ marked
  simp only [run_modify, EStateM.Result.ok.injEq] at marked
  obtain ⟨-, rfl⟩ := marked
  have record₁ : (({ h with bus := h.bus.markAnswered q.call } : World)).fetches.getD q.fetch default =
      { subject := .client c, descriptor := d, waiters := #[q.waiter] } := pending.record
  obtain ⟨j, h₂, h₃, absorbed, fired, settles⟩ :=
    complete_lone (by rw [record₁]) (by rw [record₁]) completed
  rw [record₁] at absorbed fired
  -- absorbing the role's properties touches nothing
  have around₂ := within_absorbRole (c := c) (t := ⟨(· = q.fetch), (· = q.waiter), (· = q.call), (· = m),
    (· = d.name), k = 0⟩) rfl role _ _ () h₂ absorbed
  have quiet₂ := within_absorbRole (c := c) (t := .only False) rfl role _ _ () h₂ absorbed
  have started := within_modifyFetch (c := c) (t := ⟨(· = q.fetch), (· = q.waiter), (· = q.call), (· = m),
    (· = d.name), k = 0⟩) rfl (fun x => { x with firing := true }) (fun _ => rfl) h₂ () _
    (run_modifyFetch _ _ _)
  -- the waiter fires as it was registered, and the latch counts it
  have waiter₂ : h₂.waiters.getD q.waiter default =
      { reaction := some (.latch m), release := .latch m,
        owner := some (h.clients.getD c default).owner, fetch := some q.fetch } :=
    (quiet₂.waiter _ pending.waiter id).trans pending.registered
  have counting₂ : h₂.Counting c m (k + 1) := (counting.transfer quiet₁ id).transfer quiet₂ id
  have has₂ : c < h₂.clients.size := by rw [quiet₂.clientCount]; exact has
  obtain ⟨firing, counting₃, ready₃⟩ := fire_latch
    (h := { h₂ with fetches := h₂.fetches.modify q.fetch fun x => { x with firing := true } })
    (congrArg Waiter.reaction waiter₂)
    (congrArg Waiter.cancelled waiter₂) (congrArg Waiter.done waiter₂)
    ⟨counting₂.latch, counting₂.finale, counting₂.toFire⟩ has₂ fired
  -- the fetch is as it was while its waiter fired, so it settles
  have fetch₃ : h₃.fetches.getD q.fetch default =
      { subject := .client c, descriptor := d, waiters := #[q.waiter], firing := true } := by
    have inside : q.fetch < h₂.fetches.size := Nat.lt_of_lt_of_le pending.fetch quiet₂.fetchCount
    rw [firing.fetch _ (by rw [Array.size_modify]; exact inside) id, getD_modify, if_pos ⟨rfl, inside⟩,
      quiet₂.fetch _ pending.fetch id, record₁]
  have settled := settles (by rw [fetch₃])
  have around₄ := settleFetch_lone (c := c) (t := ⟨(· = q.fetch), (· = q.waiter), (· = q.call), (· = m),
    (· = d.name), k = 0⟩) (by rw [fetch₃]) (by rw [fetch₃]) (by rw [fetch₃]) rfl rfl rfl settled
  have quiet₄ := settleFetch_lone (c := c) (t := ⟨(· = q.fetch), (· = q.waiter), fun _ => False,
    fun _ => False, (· = d.name), False⟩) (by rw [fetch₃]) (by rw [fetch₃]) (by rw [fetch₃]) rfl rfl rfl
    settled
  have le : ({ Touch.only (k = 0) with latches := (· = m) } : Touch).Le
      ⟨(· = q.fetch), (· = q.waiter), (· = q.call), (· = m), (· = d.name), k = 0⟩ :=
    ⟨fun _ => False.elim, fun _ => False.elim, fun _ => False.elim, fun _ => id, fun _ => False.elim, id⟩
  refine ⟨around₁.chain (around₂.chain (started.chain ((firing.mono le).chain around₄))), ?_, ?_,
    counting₃.transfer quiet₄ id, fun last => around₄.client.ready (ready₃ last)⟩
  · -- the fetch settles with the outcome of the reply
    have waiter₃ : q.waiter < h₃.waiters.size :=
      Nat.lt_of_lt_of_le (Nat.lt_of_lt_of_le pending.waiter quiet₂.waiterCount) firing.waiterCount
    have has₃ : c < h₃.clients.size := by rw [firing.clientCount]; exact has₂
    obtain ⟨-, settles'⟩ := settleFetch_run (fun w member => by
      rw [fetch₃] at member
      rw [List.mem_singleton.mp (Array.mem_toList_iff.mpr member)]
      exact waiter₃) settled
    have status := (settles' (by rw [fetch₃]) (by rw [fetch₃]; exact has₃)).1
    rw [fetch₃] at status
    refine ⟨?_, ?_, ?_⟩ <;> rw [status]
    · exact isReady_markReady_self _ _ _
    · exact fetchError?_markReady_self _ _ _
    · rw [fetching?_markReady, if_pos rfl]
  · -- the request was marked answered first, and nothing after touched it
    have call₁ : q.call < (h.bus.markAnswered q.call).calls.size := by
      simp only [Bus.Scripted.markAnswered, Array.size_modify]
      exact pending.call
    have inside : q.call < h₂.bus.calls.size := Nat.lt_of_lt_of_le call₁ quiet₂.callCount
    rw [quiet₄.call _ (Nat.lt_of_lt_of_le inside firing.callCount) id, firing.call _ inside id,
      quiet₂.call _ call₁ id]
    simp only [Bus.Scripted.markAnswered, getD_modify]
    rw [if_pos ⟨trivial, pending.call⟩]

end Roles

end MissionControl.Hub
