import MissionControl.Proofs.Hub.Invariant

/-!
# The readiness books

The hub keeps its readiness records in tables that refer to one another by index: a waiter
names its fetch and its owner, a fetch lists its waiters, an owner lists the waiters it still
tracks, and the status of each object names the fetch in progress for each of its interfaces.
The books balance (`World.Books`) when these references agree:

* a waiter registered on a fetch is listed by it, is neither cancelled nor done, and the fetch
  is the one in progress for its interface (`World.Registered`);
* an owner lists, once each, exactly the waiters it owns that are registered on a fetch
  (`World.Tracks`);
* the status of an object names, per interface, one fetch of that object and interface, not
  disposed of, and no interface is both in progress and determined (`World.Statuses`);
* a fetch not disposed of is in progress or has determined its interface (`World.Settles`),
  and no two such fetches share an object and an interface (`World.Unique`);
* a fetch has at most one request on the bus, and a request not yet answered belongs to a fetch
  in progress or disposed of (`World.Requests`).

The predicates take the fetches that count as in progress as a parameter `live`: disposing of
an object's fetches and settling a fetch take a fetch out of its status first and deal with its
waiters after, and the books balance throughout once the fetches being dealt with count as
live. Likewise an owner being closed sets its waiters aside (`Tracks`) while it cancels them.

This module states the books, the relations between worlds that keep them (`World.Steady`,
`World.Alike`, `World.Detached`), and proves that the operations on single waiters and owners
keep them balanced: releasing, finishing and cancelling a waiter, and closing an owner.
-/

set_option autoImplicit false

namespace MissionControl.Hub

open Readiness

section Tables

variable {α : Type} [Inhabited α]

/-- Reading a table after changing one entry. -/
theorem getD_modify (a : Array α) (i j : Nat) (g : α → α) :
    (a.modify i g).getD j default =
      if i = j ∧ j < a.size then g (a.getD j default) else a.getD j default := by
  simp only [Array.getD_eq_getD_getElem?, Array.getElem?_modify]
  by_cases same : i = j
  · subst same
    by_cases inside : i < a.size
    · simp [inside]
    · simp [inside]
  · simp [same]

/-- Reading a table after adding an entry. -/
theorem getD_push (a : Array α) (x : α) (j : Nat) :
    (a.push x).getD j default = if j = a.size then x else a.getD j default := by
  simp only [Array.getD_eq_getD_getElem?, Array.getElem?_push]
  split <;> simp

/-- An entry changed by a function that keeps a field keeps that field of every entry. -/
theorem getD_modify_of_keeps {β : Type} (a : Array α) (i j : Nat) (g : α → α) (field : α → β)
    (keeps : ∀ x, field (g x) = field x) :
    field ((a.modify i g).getD j default) = field (a.getD j default) := by
  rw [getD_modify]
  split
  · exact keeps _
  · rfl

end Tables

namespace World

/-- The objects a world has: the subjects its tables hold. -/
def Has (h : World) : Subject → Prop
  | .plain i => i < h.plains.size
  | .account i => i < h.accounts.size
  | .client i => i < h.clients.size

/-- Fetch `f` is the one in progress for its interface: the status of its object names it. -/
def Holding (h : World) (f : Nat) : Prop :=
  (h.status (h.fetches.getD f default).subject).fetching?
    (h.fetches.getD f default).descriptor.name = some f

/-- Every index that a session label, a client or a waiter holds is in range. -/
structure InRange (h : World) : Prop where
  plainLabel : ∀ l i, h.plainLabels.lookup l = some i → h.Has (.plain i)
  accountLabel : ∀ l a, h.accountLabels.lookup l = some a → h.Has (.account a)
  ownerLabel : ∀ l o, h.ownerLabels.lookup l = some o → o < h.owners.size
  clientOwner : ∀ c, h.Has (.client c) → (h.clients.getD c default).owner < h.owners.size
  waiterOwner : ∀ w o, (h.waiters.getD w default).owner = some o → o < h.owners.size
  waiterClient : ∀ w c, (h.waiters.getD w default).reaction = some (.clientFetched c) →
    h.Has (.client c)

/-- Every waiter registered on a fetch is listed by it and is neither cancelled nor done, and
the fetch is one of `live`. -/
def Registered (h : World) (live : Nat → Prop) : Prop :=
  ∀ w f, (h.waiters.getD w default).fetch = some f → live f ∧
    w ∈ (h.fetches.getD f default).waiters ∧ (h.waiters.getD w default).cancelled = false ∧
    (h.waiters.getD w default).done = false

/-- Every owner lists, once each, the waiters it owns that are registered on a fetch, save
those set `aside` for it. -/
def Tracks (h : World) (aside : Nat → List Nat) : Prop :=
  ∀ o, (aside o ++ (h.owners.getD o default).waiters).Nodup ∧
    ∀ w, w ∈ aside o ++ (h.owners.getD o default).waiters ↔
      (h.waiters.getD w default).owner = some o ∧ (h.waiters.getD w default).fetch.isSome

/-- The status of every object names, for each interface, at most one fetch, and only a fetch
of that object and interface not disposed of; no interface is both in progress and
determined. -/
def Statuses (h : World) : Prop :=
  ∀ s, ((h.status s).pending.map Prod.fst).Nodup ∧
    (∀ iface f, (iface, f) ∈ (h.status s).pending → f < h.fetches.size ∧
      (h.fetches.getD f default).subject = s ∧
      (h.fetches.getD f default).descriptor.name = iface ∧
      (h.fetches.getD f default).disposed = false) ∧
    ∀ iface, (h.status s).isReady iface = true → (h.status s).fetching? iface = none

/-- Every fetch not disposed of is one of `live` or has determined its interface. -/
def Settles (h : World) (live : Nat → Prop) : Prop :=
  ∀ f < h.fetches.size, (h.fetches.getD f default).disposed = false → live f ∨
    (h.status (h.fetches.getD f default).subject).isReady
      (h.fetches.getD f default).descriptor.name = true

/-- No two fetches not disposed of share an object and an interface. -/
def Unique (h : World) : Prop :=
  ∀ f g, f < h.fetches.size → g < h.fetches.size →
    (h.fetches.getD f default).disposed = false → (h.fetches.getD g default).disposed = false →
    (h.fetches.getD f default).subject = (h.fetches.getD g default).subject →
    (h.fetches.getD f default).descriptor.name = (h.fetches.getD g default).descriptor.name →
    f = g

/-- Every fetch has at most one request on the bus, and a request not yet answered belongs to
a fetch disposed of or one of `live`. -/
def Requests (h : World) (live : Nat → Prop) : Prop :=
  ∀ i < h.bus.calls.size, ∀ f, (h.bus.calls.getD i default).route = .fetch f →
    f < h.fetches.size ∧
    (∀ j < h.bus.calls.size, (h.bus.calls.getD j default).route = .fetch f → j = i) ∧
    ((h.bus.calls.getD i default).answered = false →
      (h.fetches.getD f default).disposed = false → live f)

/-- The readiness books balance, with the fetches of `live` counting as in progress. -/
structure Books (h : World) (live : Nat → Prop) : Prop where
  inRange : h.InRange
  registered : h.Registered live
  statuses : h.Statuses
  settles : h.Settles live
  unique : h.Unique
  requests : h.Requests live

/-- Every interface determined in `h₀` is still determined in `h`, with the same outcome. -/
def Remembers (h h₀ : World) : Prop :=
  ∀ s iface, (h₀.status s).isReady iface = true →
    (h.status s).isReady iface = true ∧ (h.status s).fetchError? iface = (h₀.status s).fetchError? iface

end World

/-- The fetch a frame fans out, if it does. -/
def Frame.fanning : Frame → Option Nat
  | .fanOut f _ => some f
  | _ => none

namespace World

/-- What the books say of the operations under way: each fetch fans out at most once at a
time, after its request was answered, while it is one of `live` or disposed of; a fetch in
progress whose request was answered is fanning out; and a wait for several interfaces is for
an object the world has, with an owner it has. -/
structure Fanning (h : World) (S : List Frame) (live : Nat → Prop) : Prop where
  distinct : (S.filterMap Frame.fanning).Nodup
  fanned : ∀ f ∈ S.filterMap Frame.fanning,
    ((h.fetches.getD f default).disposed = true ∨ live f) ∧
    ∃ i < h.bus.calls.size, (h.bus.calls.getD i default).route = .fetch f ∧
      (h.bus.calls.getD i default).answered = true
  answered : ∀ i < h.bus.calls.size, ∀ f, (h.bus.calls.getD i default).route = .fetch f →
    (h.bus.calls.getD i default).answered = true → (h.fetches.getD f default).disposed = false →
    h.Holding f → f ∈ S.filterMap Frame.fanning
  waiting : ∀ s m o, Frame.waiting s m o ∈ S → h.Has s ∧ ∀ x, o = some x → x < h.owners.size

/-! ## Worlds with the same books -/

/-- Two worlds that agree on everything the books read except the registrations of waiters:
waiters with the same reactions and owners, as many owners, fetches with the same objects,
descriptors and disposal, the same requests, objects and statuses, the same owners of clients
and the same labels. -/
structure Steady (h h' : World) : Prop where
  reaction : ∀ w, (h'.waiters.getD w default).reaction = (h.waiters.getD w default).reaction
  owner : ∀ w, (h'.waiters.getD w default).owner = (h.waiters.getD w default).owner
  ownerCount : h'.owners.size = h.owners.size
  fetchCount : h'.fetches.size = h.fetches.size
  subject : ∀ f, (h'.fetches.getD f default).subject = (h.fetches.getD f default).subject
  descriptor : ∀ f, (h'.fetches.getD f default).descriptor = (h.fetches.getD f default).descriptor
  disposed : ∀ f, (h'.fetches.getD f default).disposed = (h.fetches.getD f default).disposed
  calls : h'.bus.calls = h.bus.calls
  status : ∀ s, h'.status s = h.status s
  has : ∀ s, h'.Has s ↔ h.Has s
  clientOwner : ∀ c, (h'.clients.getD c default).owner = (h.clients.getD c default).owner
  plainLabels : h'.plainLabels = h.plainLabels
  accountLabels : h'.accountLabels = h.accountLabels
  ownerLabels : h'.ownerLabels = h.ownerLabels

/-- Two worlds whose books are the same: steady, with the same registrations, the same owners
and the same waiter lists of fetches. -/
structure Alike (h h' : World) : Prop extends h.Steady h' where
  fetch : ∀ w, (h'.waiters.getD w default).fetch = (h.waiters.getD w default).fetch
  cancelled : ∀ w, (h'.waiters.getD w default).cancelled = (h.waiters.getD w default).cancelled
  done : ∀ w, (h'.waiters.getD w default).done = (h.waiters.getD w default).done
  owners : h'.owners = h.owners
  listed : ∀ f, (h'.fetches.getD f default).waiters = (h.fetches.getD f default).waiters

theorem Steady.trans {h₁ h₂ h₃ : World} (first : h₁.Steady h₂) (second : h₂.Steady h₃) :
    h₁.Steady h₃ where
  reaction w := (second.reaction w).trans (first.reaction w)
  owner w := (second.owner w).trans (first.owner w)
  ownerCount := second.ownerCount.trans first.ownerCount
  fetchCount := second.fetchCount.trans first.fetchCount
  subject f := (second.subject f).trans (first.subject f)
  descriptor f := (second.descriptor f).trans (first.descriptor f)
  disposed f := (second.disposed f).trans (first.disposed f)
  calls := second.calls.trans first.calls
  status s := (second.status s).trans (first.status s)
  has s := (second.has s).trans (first.has s)
  clientOwner c := (second.clientOwner c).trans (first.clientOwner c)
  plainLabels := second.plainLabels.trans first.plainLabels
  accountLabels := second.accountLabels.trans first.accountLabels
  ownerLabels := second.ownerLabels.trans first.ownerLabels

theorem Alike.trans {h₁ h₂ h₃ : World} (first : h₁.Alike h₂) (second : h₂.Alike h₃) :
    h₁.Alike h₃ where
  toSteady := first.toSteady.trans second.toSteady
  fetch w := (second.fetch w).trans (first.fetch w)
  cancelled w := (second.cancelled w).trans (first.cancelled w)
  done w := (second.done w).trans (first.done w)
  owners := second.owners.trans first.owners
  listed f := (second.listed f).trans (first.listed f)

section Steady

variable {h h' : World} (steady : h.Steady h')
include steady

theorem Steady.holding : h'.Holding = h.Holding := by
  funext f
  simp only [Holding, steady.subject, steady.descriptor, steady.status]

theorem Steady.inRange (inRange : h.InRange) : h'.InRange where
  plainLabel l i found := (steady.has _).2 (inRange.plainLabel l i (steady.plainLabels ▸ found))
  accountLabel l a found :=
    (steady.has _).2 (inRange.accountLabel l a (steady.accountLabels ▸ found))
  ownerLabel l o found := steady.ownerCount ▸ inRange.ownerLabel l o (steady.ownerLabels ▸ found)
  clientOwner c has := by
    rw [steady.clientOwner, steady.ownerCount]
    exact inRange.clientOwner c ((steady.has _).1 has)
  waiterOwner w o owned := steady.ownerCount ▸ inRange.waiterOwner w o (steady.owner w ▸ owned)
  waiterClient w c reacts :=
    (steady.has _).2 (inRange.waiterClient w c (steady.reaction w ▸ reacts))

theorem Steady.statuses (statuses : h.Statuses) : h'.Statuses := by
  simpa only [Statuses, steady.status, steady.fetchCount, steady.subject, steady.descriptor,
    steady.disposed] using statuses

theorem Steady.settles {live : Nat → Prop} (settles : h.Settles live) : h'.Settles live := by
  simpa only [Settles, steady.status, steady.fetchCount, steady.subject, steady.descriptor,
    steady.disposed] using settles

theorem Steady.unique (unique : h.Unique) : h'.Unique := by
  simpa only [Unique, steady.fetchCount, steady.subject, steady.descriptor, steady.disposed] using
    unique

theorem Steady.requests {live : Nat → Prop} (requests : h.Requests live) : h'.Requests live := by
  simpa only [Requests, steady.calls, steady.fetchCount, steady.disposed] using requests

/-- Steady worlds balance alike once the registrations balance. -/
theorem Steady.books {live : Nat → Prop} (books : h.Books live)
    (registered : h'.Registered live) : h'.Books live where
  inRange := steady.inRange books.inRange
  registered := registered
  statuses := steady.statuses books.statuses
  settles := steady.settles books.settles
  unique := steady.unique books.unique
  requests := steady.requests books.requests

theorem Steady.fanning {S : List Frame} {live : Nat → Prop} (fanning : h.Fanning S live) :
    h'.Fanning S live where
  distinct := fanning.distinct
  fanned := by
    simpa only [steady.disposed, steady.calls] using fanning.fanned
  answered := by
    simpa only [steady.disposed, steady.calls, steady.holding] using fanning.answered
  waiting s m o waits := by
    rw [steady.has, steady.ownerCount]
    exact fanning.waiting s m o waits

theorem Steady.remembers {h₀ : World} (remembers : h.Remembers h₀) : h'.Remembers h₀ := by
  simpa only [Remembers, steady.status] using remembers

end Steady

section Alike

variable {h h' : World} (alike : h.Alike h')
include alike

theorem Alike.registered {live : Nat → Prop} (registered : h.Registered live) :
    h'.Registered live := by
  simpa only [Registered, alike.fetch, alike.cancelled, alike.done, alike.listed] using registered

theorem Alike.tracks {aside : Nat → List Nat} (tracks : h.Tracks aside) : h'.Tracks aside := by
  simpa only [Tracks, alike.owner, alike.fetch, alike.owners] using tracks

end Alike

/-- The books balance with the fetches in progress as the live ones, every owner tracks its
registered waiters, the operations of `S` are under way, and every outcome of `h₀` is
remembered. -/
structure Balanced (h₀ : World) (S : List Frame) (h : World) : Prop where
  books : h.Books h.Holding
  tracks : h.Tracks fun _ => []
  fanning : h.Fanning S h.Holding
  remembers : h.Remembers h₀

theorem Alike.balanced {h₀ h h' : World} {S : List Frame} (alike : h.Alike h')
    (balanced : Balanced h₀ S h) : Balanced h₀ S h' where
  books := by
    rw [alike.holding]
    exact alike.books balanced.books (alike.registered balanced.books.registered)
  tracks := alike.tracks balanced.tracks
  fanning := by
    rw [alike.holding]
    exact alike.fanning balanced.fanning
  remembers := alike.remembers balanced.remembers

/-- A world with the same tables of records, objects and requests, and the same labels. -/
theorem Alike.of_same {h h' : World} (waiters : h'.waiters = h.waiters)
    (owners : h'.owners = h.owners) (fetches : h'.fetches = h.fetches)
    (calls : h'.bus.calls = h.bus.calls) (plains : h'.plains = h.plains)
    (accounts : h'.accounts = h.accounts) (clients : h'.clients = h.clients)
    (plainLabels : h'.plainLabels = h.plainLabels) (accountLabels : h'.accountLabels = h.accountLabels)
    (ownerLabels : h'.ownerLabels = h.ownerLabels) : h.Alike h' where
  reaction _ := by rw [waiters]
  owner _ := by rw [waiters]
  ownerCount := by rw [owners]
  fetchCount := by rw [fetches]
  subject _ := by rw [fetches]
  descriptor _ := by rw [fetches]
  disposed _ := by rw [fetches]
  calls := calls
  status
    | .plain _ => by simp only [World.status, plains]
    | .account _ => by simp only [World.status, accounts]
    | .client _ => by simp only [World.status, clients]
  has
    | .plain _ => by simp only [Has, plains]
    | .account _ => by simp only [Has, accounts]
    | .client _ => by simp only [Has, clients]
  clientOwner _ := by rw [clients]
  plainLabels := plainLabels
  accountLabels := accountLabels
  ownerLabels := ownerLabels
  fetch _ := by rw [waiters]
  cancelled _ := by rw [waiters]
  done _ := by rw [waiters]
  owners := owners
  listed _ := by rw [fetches]

theorem Alike.refl (h : World) : h.Alike h := Alike.of_same rfl rfl rfl rfl rfl rfl rfl rfl rfl rfl

/-- A world whose clients differ only in what the books do not read. -/
theorem Alike.of_clients {h : World} {clients : Array ClientObject}
    (size : clients.size = h.clients.size)
    (owner : ∀ c, (clients.getD c default).owner = (h.clients.getD c default).owner)
    (status : ∀ c, (clients.getD c default).status = (h.clients.getD c default).status) :
    h.Alike { h with clients } where
  toSteady :=
    { (Alike.refl h).toSteady with
      status := fun
        | .plain _ => rfl
        | .account _ => rfl
        | .client c => status c
      has := fun
        | .plain _ => Iff.rfl
        | .account _ => Iff.rfl
        | .client _ => by simp only [Has, size]
      clientOwner := owner }
  fetch _ := rfl
  cancelled _ := rfl
  done _ := rfl
  owners := rfl
  listed _ := rfl

/-- A world whose accounts differ only in what the books do not read. -/
theorem Alike.of_accounts {h : World} {accounts : Array AccountObject}
    (size : accounts.size = h.accounts.size)
    (status : ∀ a, (accounts.getD a default).status = (h.accounts.getD a default).status) :
    h.Alike { h with accounts } where
  toSteady :=
    { (Alike.refl h).toSteady with
      status := fun
        | .plain _ => rfl
        | .account a => status a
        | .client _ => rfl
      has := fun
        | .plain _ => Iff.rfl
        | .account _ => by simp only [Has, size]
        | .client _ => Iff.rfl }
  fetch _ := rfl
  cancelled _ := rfl
  done _ := rfl
  owners := rfl
  listed _ := rfl

end World

/-! ## Operations that leave the books as they were -/

/-- An operation that, whenever it returns, leaves the books as they were. -/
def Quiet {α : Type} (x : HubM α) : Prop := ∀ h a h', x.run h = .ok a h' → h.Alike h'

namespace Quiet

variable {α β : Type}

theorem pure (a : α) : Quiet (Pure.pure a : HubM α) := by
  intro h b h' run
  rw [ok_pure run]
  exact World.Alike.refl h

theorem bind {x : HubM α} {f : α → HubM β} (first : Quiet x) (rest : ∀ a, Quiet (f a)) :
    Quiet (x >>= f) := by
  intro h b h' run
  obtain ⟨a, h₁, ran, more⟩ := bind_ok.mp run
  exact (first h a h₁ ran).trans (rest a h₁ b h' more)

/-- An operation that only reads the world. -/
theorem of_read {x : HubM α} (reads : ∀ h, ∃ a, x.run h = .ok a h) : Quiet x := by
  intro h a h' run
  obtain ⟨b, ran⟩ := reads h
  rw [ran, EStateM.Result.ok.injEq] at run
  rw [← run.2]
  exact World.Alike.of_same rfl rfl rfl rfl rfl rfl rfl rfl rfl rfl

/-- An operation that leaves the books as they were keeps them balanced. -/
theorem balanced {h₀ : World} {S : List Frame} {x : HubM α} (quiet : Quiet x) :
    Keeps (World.Balanced h₀ S) x :=
  fun h _ h' balanced run => (quiet h _ h' run).balanced balanced

/-- A loop whose every pass leaves the books as they were. -/
theorem forIn {xs : List α} {body : α → PUnit → HubM (ForInStep PUnit)}
    (pass : ∀ a, Quiet (body a ⟨⟩)) : Quiet (ForIn.forIn xs ⟨⟩ body) := by
  induction xs with
  | nil => exact pure _
  | cons a rest ih =>
    rw [List.forIn_cons]
    refine bind (pass a) fun step => ?_
    cases step with
    | done _ => exact pure _
    | yield _ => exact ih

end Quiet

theorem quiet_note (n : Note) : Quiet (note n) := by
  intro h a h' run
  simp only [run_note, EStateM.Result.ok.injEq] at run
  rw [← run.2]
  exact World.Alike.of_same rfl rfl rfl rfl rfl rfl rfl rfl rfl rfl

theorem quiet_modifyLatch (m : Nat) (g : Latch → Latch) : Quiet (modifyLatch m g) := by
  intro h a h' run
  simp only [run_modifyLatch, EStateM.Result.ok.injEq] at run
  rw [← run.2]
  exact World.Alike.of_same rfl rfl rfl rfl rfl rfl rfl rfl rfl rfl

theorem quiet_newLatch (l : Latch) : Quiet (newLatch l) := by
  intro h a h' run
  simp only [run_newLatch, EStateM.Result.ok.injEq] at run
  rw [← run.2]
  exact World.Alike.of_same rfl rfl rfl rfl rfl rfl rfl rfl rfl rfl

theorem quiet_modifyRegistry (g : Registry → Registry) : Quiet (modifyRegistry g) := by
  intro h a h' run
  simp only [run_modifyRegistry, EStateM.Result.ok.injEq] at run
  rw [← run.2]
  exact World.Alike.of_same rfl rfl rfl rfl rfl rfl rfl rfl rfl rfl

theorem quiet_daemonCall (member : String) (args : List Value) : Quiet (daemonCall member args) := by
  intro h a h' run
  simp only [run_daemonCall, EStateM.Result.ok.injEq] at run
  rw [← run.2]
  exact World.Alike.of_same rfl rfl rfl rfl rfl rfl rfl rfl rfl rfl

/-- Changing a client's links, proxy or name watch leaves the books as they were. -/
theorem quiet_modifyClient (c : Nat) (g : ClientObject → ClientObject)
    (owner : ∀ x, (g x).owner = x.owner) (status : ∀ x, (g x).status = x.status) :
    Quiet (modifyClient c g) := by
  intro h a h' run
  simp only [run_modifyClient, EStateM.Result.ok.injEq] at run
  rw [← run.2]
  exact World.Alike.of_clients (by simp) (fun c' => getD_modify_of_keeps _ _ _ _ _ owner)
    (fun c' => getD_modify_of_keeps _ _ _ _ _ status)

theorem quiet_modifyProxy (c : Nat) (g : Client.Proxy → Client.Proxy) : Quiet (modifyProxy c g) :=
  quiet_modifyClient c _ (fun _ => rfl) fun _ => rfl

/-- Changing an account's properties, avatar, subscriptions or removal leaves the books as they
were. -/
theorem quiet_modifyAccount (a : Nat) (g : AccountObject → AccountObject)
    (status : ∀ x, (g x).status = x.status) : Quiet (modifyAccount a g) := by
  intro h u h' run
  simp only [run_modifyAccount, EStateM.Result.ok.injEq] at run
  rw [← run.2]
  exact World.Alike.of_accounts (by simp) fun a' => getD_modify_of_keeps _ _ _ _ _ status

/-- Marking a waiter released, or changing what its release does, leaves the books as they
were. -/
theorem quiet_modifyWaiter (w : Nat) (g : Waiter → Waiter)
    (reaction : ∀ x, (g x).reaction = x.reaction) (owner : ∀ x, (g x).owner = x.owner)
    (fetch : ∀ x, (g x).fetch = x.fetch) (cancelled : ∀ x, (g x).cancelled = x.cancelled)
    (done : ∀ x, (g x).done = x.done) : Quiet (modifyWaiter w g) := by
  intro h u h' run
  simp only [run_modifyWaiter, EStateM.Result.ok.injEq] at run
  rw [← run.2]
  exact
    { (World.Alike.refl h).toSteady with
      reaction := fun _ => getD_modify_of_keeps _ _ _ _ _ reaction
      owner := fun _ => getD_modify_of_keeps _ _ _ _ _ owner
      fetch := fun _ => getD_modify_of_keeps _ _ _ _ _ fetch
      cancelled := fun _ => getD_modify_of_keeps _ _ _ _ _ cancelled
      done := fun _ => getD_modify_of_keeps _ _ _ _ _ done
      owners := rfl
      listed := fun _ => rfl }

theorem quiet_releaseLatch (m : Nat) : Quiet (releaseLatch m) := by
  unfold releaseLatch
  refine Quiet.bind (Quiet.of_read fun h => ⟨_, run_latch m h⟩) fun l => ?_
  split
  refine Quiet.bind (quiet_modifyLatch _ _) fun _ => ?_
  split
  · split
    · exact quiet_note _
    · exact Quiet.pure _
  · exact Quiet.pure _

/-- Releasing a waiter leaves the books as they were. -/
theorem quiet_releaseWaiter (w : Nat) : Quiet (releaseWaiter w) := by
  unfold releaseWaiter
  refine Quiet.bind (Quiet.of_read fun h => ⟨_, run_waiter w h⟩) fun wt => ?_
  split
  · exact Quiet.pure _
  · refine Quiet.bind (quiet_modifyWaiter _ _ (fun _ => rfl) (fun _ => rfl) (fun _ => rfl)
      (fun _ => rfl) fun _ => rfl) fun _ => ?_
    split
    · exact Quiet.pure _
    · exact quiet_note _
    · exact quiet_releaseLatch _

/-! ## Taking a waiter off its fetch -/

section Tables

variable {α : Type} [Inhabited α]

theorem getD_of_size_le {a : Array α} {j : Nat} (past : a.size ≤ j) :
    a.getD j default = default := by
  simp [Array.getD_eq_getD_getElem?, Array.getElem?_eq_none past]

theorem getD_modify_ne (a : Array α) {i j : Nat} (g : α → α) (other : j ≠ i) :
    (a.modify i g).getD j default = a.getD j default := by
  rw [getD_modify, if_neg fun same => other same.1.symm]

/-- A field that a change sets to the value it has by default holds that value afterwards. -/
theorem getD_modify_sets {β : Type} (a : Array α) (i : Nat) (g : α → α) (field : α → β) (v : β)
    (sets : ∀ x, field (g x) = v) (unset : field default = v) :
    field ((a.modify i g).getD i default) = v := by
  rw [getD_modify]
  split
  · exact sets _
  · rename_i outside
    rw [getD_of_size_le (by omega)]
    exact unset

end Tables

@[simp] theorem run_untrack (w : Nat) (o : Option Nat) (h : World) :
    (untrack w o).run h = .ok () { h with owners := match o with
      | some o => h.owners.modify o (·.untrack w)
      | none => h.owners } := by
  cases o <;> rfl

namespace World

/-- World `h'` is `h` with waiter `w` taken off its fetch: steady, with every other waiter
registered as it was and still listed by its fetch unless cancelled. -/
structure Detached (h h' : World) (w : Nat) : Prop extends h.Steady h' where
  off : (h'.waiters.getD w default).fetch = none
  others : ∀ w', w' ≠ w →
    (h'.waiters.getD w' default).fetch = (h.waiters.getD w' default).fetch ∧
    (h'.waiters.getD w' default).cancelled = (h.waiters.getD w' default).cancelled ∧
    (h'.waiters.getD w' default).done = (h.waiters.getD w' default).done
  listed : ∀ f w', w' ≠ w → (h.waiters.getD w' default).cancelled = false →
    w' ∈ (h.fetches.getD f default).waiters → w' ∈ (h'.fetches.getD f default).waiters

/-- A world whose only change to the waiters takes `w` off its fetch is `h` with `w` taken
off its fetch. -/
theorem Detached.of_waiters {h h' : World} {w : Nat}
    (others : ∀ w', w' ≠ w → h'.waiters.getD w' default = h.waiters.getD w' default)
    (off : (h'.waiters.getD w default).fetch = none)
    (reaction : (h'.waiters.getD w default).reaction = (h.waiters.getD w default).reaction)
    (owner : (h'.waiters.getD w default).owner = (h.waiters.getD w default).owner)
    (ownerCount : h'.owners.size = h.owners.size) (fetches : h'.fetches = h.fetches)
    (calls : h'.bus.calls = h.bus.calls) (plains : h'.plains = h.plains)
    (accounts : h'.accounts = h.accounts) (clients : h'.clients = h.clients)
    (plainLabels : h'.plainLabels = h.plainLabels) (accountLabels : h'.accountLabels = h.accountLabels)
    (ownerLabels : h'.ownerLabels = h.ownerLabels) : h.Detached h' w where
  reaction w' := by
    by_cases same : w' = w
    · rw [same, reaction]
    · rw [others w' same]
  owner w' := by
    by_cases same : w' = w
    · rw [same, owner]
    · rw [others w' same]
  ownerCount := ownerCount
  fetchCount := by rw [fetches]
  subject _ := by rw [fetches]
  descriptor _ := by rw [fetches]
  disposed _ := by rw [fetches]
  calls := calls
  status
    | .plain _ => by simp only [World.status, plains]
    | .account _ => by simp only [World.status, accounts]
    | .client _ => by simp only [World.status, clients]
  has
    | .plain _ => by simp only [Has, plains]
    | .account _ => by simp only [Has, accounts]
    | .client _ => by simp only [Has, clients]
  clientOwner _ := by rw [clients]
  plainLabels := plainLabels
  accountLabels := accountLabels
  ownerLabels := ownerLabels
  off := off
  others w' other := by simp only [others w' other, and_self]
  listed f w' _ _ listed := by rwa [fetches]

/-- A world alike to one with `w` taken off is one with `w` taken off. -/
theorem Detached.alike {h h₁ h' : World} {w : Nat} (detached : h.Detached h₁ w)
    (alike : h₁.Alike h') : h.Detached h' w where
  toSteady := detached.toSteady.trans alike.toSteady
  off := (alike.fetch w).trans detached.off
  others w' other := by
    rw [alike.fetch, alike.cancelled, alike.done]
    exact detached.others w' other
  listed f w' other live listed := by
    rw [alike.listed]
    exact detached.listed f w' other live listed

theorem Detached.registered {h h' : World} {w : Nat} (detached : h.Detached h' w)
    {live : Nat → Prop} (registered : h.Registered live) : h'.Registered live := by
  intro w' f attached
  by_cases same : w' = w
  · subst same
    rw [detached.off] at attached
    cases attached
  · obtain ⟨fetch, cancelled, done⟩ := detached.others w' same
    rw [fetch] at attached
    obtain ⟨live, listed, live', pending⟩ := registered w' f attached
    exact ⟨live, detached.listed f w' same live' listed, cancelled ▸ live', done ▸ pending⟩

/-- An owner list after waiter `w` left its owner. -/
def untracked (h : World) (w o : Nat) : List Nat :=
  if (h.waiters.getD w default).owner = some o then (h.owners.getD o default).waiters.erase w
  else (h.owners.getD o default).waiters

/-- Taking a waiter off its fetch and its owner's list takes it out of the lists set aside
too. -/
theorem Detached.tracks {h h' : World} {w : Nat} (detached : h.Detached h' w)
    (owners : ∀ o, (h'.owners.getD o default).waiters = h.untracked w o)
    {aside : Nat → List Nat} (tracks : h.Tracks aside) :
    h'.Tracks fun o => (aside o).erase w := by
  intro o
  obtain ⟨distinct, members⟩ := tracks o
  have nodupAside := (List.nodup_append.mp distinct).1
  have nodupOwn := (List.nodup_append.mp distinct).2.1
  -- the lists after are sublists of the lists before
  have shrinks : ((aside o).erase w ++ (h'.owners.getD o default).waiters).Sublist
      (aside o ++ (h.owners.getD o default).waiters) := by
    rw [owners o, untracked]
    split
    · exact (List.erase_sublist).append (List.erase_sublist)
    · exact (List.erase_sublist).append (List.Sublist.refl _)
  refine ⟨distinct.sublist shrinks, fun w' => ?_⟩
  by_cases same : w' = w
  · subst same
    simp only [detached.off, Option.isSome_none, Bool.false_eq_true, and_false, iff_false]
    intro listed
    rcases List.mem_append.mp listed with inAside | inOwn
    · exact (nodupAside.mem_erase_iff.mp inAside).1 rfl
    · rw [owners o, untracked] at inOwn
      split at inOwn
      · exact (nodupOwn.mem_erase_iff.mp inOwn).1 rfl
      · rename_i other
        exact other ((members w').mp (List.mem_append_right _ inOwn)).1
  · rw [detached.owner, (detached.others w' same).1, owners o, untracked, ← members w']
    simp only [List.mem_append, List.mem_erase_of_ne same]
    split
    · rw [List.mem_erase_of_ne same]
    · rfl

end World

/-- Finishing a waiter takes it off its fetch and its owner. -/
theorem finish_detaches {w : Nat} {h h' : World} {u : Unit} (run : (finish w).run h = .ok u h') :
    h.Detached h' w ∧ (∀ o, (h'.owners.getD o default).waiters = h.untracked w o) ∧
      ∀ f, (h'.fetches.getD f default).waiters = (h.fetches.getD f default).waiters := by
  simp only [finish, bind_ok, run_waiter, run_modifyWaiter, run_untrack, EStateM.Result.ok.injEq,
    exists_returned, exists_returned_unit] at run
  have alike := quiet_releaseWaiter w _ _ _ run
  -- the waiter is marked done and taken off its fetch, then off its owner's list
  have detached : ∀ owners : Array Owner, owners.size = h.owners.size →
      h.Detached { h with
        waiters := h.waiters.modify w (fun x => { x with done := true, fetch := none }),
        owners := owners } w := fun owners sized =>
    World.Detached.of_waiters (fun w' other => getD_modify_ne _ _ other)
      (getD_modify_sets _ _ _ Waiter.fetch none (fun _ => rfl) rfl)
      (getD_modify_of_keeps _ _ _ _ Waiter.reaction fun _ => rfl)
      (getD_modify_of_keeps _ _ _ _ Waiter.owner fun _ => rfl) sized rfl rfl rfl rfl rfl rfl rfl rfl
  cases owned : (h.waiters.getD w default).owner with
  | none =>
    simp only [owned] at alike
    refine ⟨(detached h.owners rfl).alike alike, fun o => ?_, fun f => ?_⟩
    · rw [alike.owners]
      simp only [World.untracked, owned, reduceCtorEq, ↓reduceIte]
    · rw [alike.listed]
  | some o =>
    simp only [owned] at alike
    refine ⟨(detached _ (by simp)).alike alike, fun o' => ?_, fun f => ?_⟩
    · rw [alike.owners]
      simp only [World.untracked, owned, Option.some.injEq]
      by_cases same : o = o'
      · subst same
        rw [if_pos rfl, getD_modify]
        split
        · rfl
        · rename_i outside
          rw [getD_of_size_le (by omega)]
          rfl
      · rw [if_neg same, getD_modify_ne _ _ (Ne.symm same)]
    · rw [alike.listed]

/-- Dropping the cancelled waiters of a fetch keeps a waiter taken off its fetch taken off. -/
theorem World.Detached.compacted {h h₁ h' : World} {w f : Nat} {u : Unit} (detached : h.Detached h₁ w)
    (run : (compact f).run h₁ = .ok u h') : h.Detached h' w ∧ h'.owners = h₁.owners := by
  unfold compact at run
  simp only [bind_ok, run_fetch, EStateM.Result.ok.injEq, exists_returned] at run
  split at run
  · rw [ok_pure run]
    exact ⟨detached, rfl⟩
  · simp only [bind_ok, run_get, run_modifyFetch, EStateM.Result.ok.injEq, exists_returned] at run
    obtain ⟨-, rfl⟩ := run
    refine ⟨{ toSteady := ?_, off := detached.off, others := detached.others, listed := ?_ }, rfl⟩
    · exact detached.toSteady.trans
        { (World.Alike.refl h₁).toSteady with
          fetchCount := by simp
          subject := fun _ => getD_modify_of_keeps _ _ _ _ Fetch.subject fun _ => rfl
          descriptor := fun _ => getD_modify_of_keeps _ _ _ _ Fetch.descriptor fun _ => rfl
          disposed := fun _ => getD_modify_of_keeps _ _ _ _ Fetch.disposed fun _ => rfl }
    · intro f' w' other live listed
      have kept := detached.listed f' w' other live listed
      have live₁ : (h₁.waiters.getD w' default).cancelled = false :=
        (detached.others w' other).2.1 ▸ live
      rw [getD_modify]
      split
      · simp only [Array.mem_filter, kept, live₁, Bool.not_false, and_self]
      · exact kept

/-- Cancelling a waiter takes it off its fetch; a waiter already cancelled or done is on no
fetch. -/
theorem cancelWaiter_detaches {w : Nat} {h h' : World} {b : Bool} {live : Nat → Prop}
    (registered : h.Registered live) (run : (cancelWaiter w).run h = .ok b h') :
    h.Detached h' w ∧ ((∀ o, (h'.owners.getD o default).waiters = h.untracked w o) ∨
      (h'.owners = h.owners ∧ (h.waiters.getD w default).fetch = none)) := by
  simp only [cancelWaiter, bind_ok, run_waiter, EStateM.Result.ok.injEq, exists_returned] at run
  split at run
  · -- a waiter already cancelled or done is registered on no fetch
    rename_i stopped
    rw [ok_pure run]
    have unattached : (h.waiters.getD w default).fetch = none := by
      cases attached : (h.waiters.getD w default).fetch with
      | none => rfl
      | some f =>
        obtain ⟨-, -, live', pending⟩ := registered w f attached
        simp only [live', pending, Bool.or_self, Bool.false_eq_true] at stopped
    refine ⟨World.Detached.of_waiters (fun _ _ => rfl) unattached rfl rfl rfl rfl rfl rfl rfl rfl rfl
      rfl rfl, .inr ⟨rfl, unattached⟩⟩
  · simp only [bind_ok, run_modifyWaiter, run_untrack, EStateM.Result.ok.injEq,
      exists_returned_unit] at run
    -- the waiter is marked cancelled and leaves its owner's list, so the owners end up as
    -- `untracked` says; what follows depends on whether it was registered on a fetch
    have owners : ∀ o, ((match (h.waiters.getD w default).owner with
        | some o => h.owners.modify o (·.untrack w)
        | none => h.owners).getD o default).waiters = h.untracked w o := by
      intro o
      cases owned : (h.waiters.getD w default).owner with
      | none => simp only [World.untracked, owned, reduceCtorEq, ↓reduceIte]
      | some o' =>
        simp only [World.untracked, owned, Option.some.injEq]
        by_cases same : o' = o
        · subst same
          rw [if_pos rfl, getD_modify]
          split
          · rfl
          · rw [getD_of_size_le (by omega)]
            rfl
        · rw [if_neg same, getD_modify_ne _ _ (Ne.symm same)]
    have counted : (match (h.waiters.getD w default).owner with
        | some o => h.owners.modify o (·.untrack w)
        | none => h.owners).size = h.owners.size := by
      split <;> simp
    cases attached : (h.waiters.getD w default).fetch with
    | none =>
      have cancelled : h.Detached { h with
          waiters := h.waiters.modify w (fun x => { x with cancelled := true }),
          owners := match (h.waiters.getD w default).owner with
            | some o => h.owners.modify o (·.untrack w)
            | none => h.owners } w :=
        World.Detached.of_waiters (fun w' other => getD_modify_ne _ _ other)
          ((getD_modify_of_keeps h.waiters w w (fun x => { x with cancelled := true }) Waiter.fetch
            fun _ => rfl).trans attached)
          (getD_modify_of_keeps _ _ _ _ Waiter.reaction fun _ => rfl)
          (getD_modify_of_keeps _ _ _ _ Waiter.owner fun _ => rfl) counted rfl rfl rfl rfl rfl rfl
          rfl rfl
      simp only [attached] at run
      obtain ⟨⟨⟩, h₃, released, returned⟩ := bind_ok.mp run
      have alike := quiet_releaseWaiter w _ _ _ released
      rw [ok_pure returned]
      refine ⟨cancelled.alike alike, .inl fun o => ?_⟩
      rw [alike.owners]
      exact owners o
    | some f =>
      -- the waiter leaves its fetch, whose cancelled waiters are then dropped
      have cancelled : h.Detached { h with
          waiters := (h.waiters.modify w (fun x => { x with cancelled := true })).modify w
            (fun x => { x with fetch := none }),
          owners := match (h.waiters.getD w default).owner with
            | some o => h.owners.modify o (·.untrack w)
            | none => h.owners } w :=
        let marked := h.waiters.modify w fun x => { x with cancelled := true }
        let off : Waiter → Waiter := fun x => { x with fetch := none }
        World.Detached.of_waiters
          (fun w' other => (getD_modify_ne marked off other).trans (getD_modify_ne _ _ other))
          (getD_modify_sets marked w off Waiter.fetch none (fun _ => rfl) rfl)
          ((getD_modify_of_keeps marked w w off Waiter.reaction fun _ => rfl).trans
            (getD_modify_of_keeps _ _ _ _ Waiter.reaction fun _ => rfl))
          ((getD_modify_of_keeps marked w w off Waiter.owner fun _ => rfl).trans
            (getD_modify_of_keeps _ _ _ _ Waiter.owner fun _ => rfl)) counted rfl rfl rfl rfl rfl rfl
          rfl rfl
      simp only [attached, bind_ok, run_modifyWaiter, EStateM.Result.ok.injEq,
        exists_returned_unit] at run
      obtain ⟨⟨⟩, h₄, compacted, ⟨⟩, h₅, released, returned⟩ := run
      obtain ⟨detached, same⟩ := cancelled.compacted compacted
      have alike := quiet_releaseWaiter w _ _ _ released
      rw [ok_pure returned]
      refine ⟨detached.alike alike, .inl fun o => ?_⟩
      rw [alike.owners, same]
      exact owners o

namespace World

/-- Owner lists after waiter `w` was taken off, when it was on none of them. -/
theorem Detached.tracks_of_unregistered {h h' : World} {w : Nat} (detached : h.Detached h' w)
    (owners : h'.owners = h.owners) (unregistered : (h.waiters.getD w default).fetch = none)
    {aside : Nat → List Nat} (tracks : h.Tracks aside) : h'.Tracks fun o => (aside o).erase w := by
  intro o
  dsimp only
  obtain ⟨distinct, members⟩ := tracks o
  have absent : w ∉ aside o := fun inside => by
    have := ((members w).mp (List.mem_append_left _ inside)).2
    rw [unregistered] at this
    cases this
  rw [List.erase_of_not_mem absent, owners]
  refine ⟨distinct, fun w' => ?_⟩
  rw [members w', detached.owner]
  by_cases same : w' = w
  · subst same
    rw [detached.off, unregistered]
  · rw [(detached.others w' same).1]

/-- Taking a waiter off its fetch keeps the books balanced and the operations under way as they
were. -/
theorem Detached.keeps {h₀ h h' : World} {S : List Frame} {w : Nat} (detached : h.Detached h' w)
    (books : h.Books h.Holding) (fanning : h.Fanning S h.Holding) (remembers : h.Remembers h₀) :
    h'.Books h'.Holding ∧ h'.Fanning S h'.Holding ∧ h'.Remembers h₀ := by
  rw [detached.holding]
  exact ⟨detached.books books (detached.registered books.registered), detached.fanning fanning,
    detached.remembers remembers⟩

theorem Detached.balanced {h₀ h h' : World} {S : List Frame} {w : Nat} (detached : h.Detached h' w)
    (balanced : Balanced h₀ S h) (tracks : h'.Tracks fun _ => []) : Balanced h₀ S h' :=
  have kept := detached.keeps balanced.books balanced.fanning balanced.remembers
  ⟨kept.1, tracks, kept.2.1, kept.2.2⟩

end World

/-- Finishing a waiter keeps the books balanced. -/
theorem finish_balanced (h₀ : World) (S : List Frame) (w : Nat) :
    Keeps (World.Balanced h₀ S) (finish w) := by
  intro h u h' balanced run
  obtain ⟨detached, owners, -⟩ := finish_detaches run
  have tracks := detached.tracks owners balanced.tracks
  simp only [List.erase_nil] at tracks
  exact detached.balanced balanced tracks

/-- Cancelling a waiter takes it out of the owner lists set aside. -/
theorem cancelWaiter_tracks {w : Nat} {h h' : World} {b : Bool} {live : Nat → Prop}
    {aside : Nat → List Nat} (registered : h.Registered live) (tracks : h.Tracks aside)
    (run : (cancelWaiter w).run h = .ok b h') : h'.Tracks fun o => (aside o).erase w := by
  obtain ⟨detached, owners | ⟨same, unregistered⟩⟩ := cancelWaiter_detaches registered run
  · exact detached.tracks owners tracks
  · exact detached.tracks_of_unregistered same unregistered tracks

/-- Cancelling a waiter keeps the books balanced. -/
theorem cancelWaiter_balanced (h₀ : World) (S : List Frame) (w : Nat) :
    Keeps (World.Balanced h₀ S) (cancelWaiter w) := by
  intro h b h' balanced run
  have tracks := cancelWaiter_tracks balanced.books.registered balanced.tracks run
  simp only [List.erase_nil] at tracks
  exact (cancelWaiter_detaches balanced.books.registered run).1.balanced balanced tracks

/-- Emptying an owner's list sets its former waiters aside. -/
theorem tracks_emptied {h : World} {o : Nat} (tracks : h.Tracks fun _ => []) :
    ({ h with owners := h.owners.modify o fun _ => { closed := true } } : World).Tracks
      fun o' => if o' = o then (h.owners.getD o default).waiters else [] := by
  intro o'
  obtain ⟨distinct, members⟩ := tracks o'
  simp only [List.nil_append] at distinct members
  by_cases same : o' = o
  · subst same
    simp only [if_true]
    rw [getD_modify]
    split
    · exact ⟨by simpa using distinct, fun w => by simpa using members w⟩
    · rename_i outside
      rw [getD_of_size_le (by omega)] at distinct members ⊢
      exact ⟨distinct, members⟩
  · simp only [same, if_false, List.nil_append, getD_modify_ne _ _ same]
    exact ⟨distinct, members⟩

/-- Closing an owner keeps the books balanced.

Proof: the owner's list is emptied first and set aside; each waiter of it is then cancelled,
which takes it off its fetch and out of the list set aside, so that once all are cancelled
nothing is set aside any more. -/
theorem closeOwner_balanced (h₀ : World) (S : List Frame) (o : Nat) :
    Keeps (World.Balanced h₀ S) (closeOwner o) := by
  intro h u h' balanced run
  simp only [closeOwner, bind_ok, run_owner, EStateM.Result.ok.injEq, exists_returned] at run
  split at run
  · rw [ok_pure run]
    exact balanced
  · simp only [bind_ok, run_modifyOwner, EStateM.Result.ok.injEq, exists_returned_unit] at run
    obtain ⟨⟨⟩, h₁, looped, returned⟩ := run
    rw [ok_pure returned]
    -- the owner's former list, set aside while its waiters are cancelled one by one
    let listed := (h.owners.getD o default).waiters
    let inv : List Nat → World → Prop := fun walked h =>
      h.Books h.Holding ∧ h.Tracks (fun o' => if o' = o then listed.drop walked.length else []) ∧
        h.Fanning S h.Holding ∧ h.Remembers h₀
    have emptied : inv [] { h with owners := h.owners.modify o fun _ => { closed := true } } := by
      have steady : h.Steady { h with owners := h.owners.modify o fun _ => { closed := true } } :=
        { (World.Alike.refl h).toSteady with ownerCount := by simp }
      exact ⟨steady.books balanced.books balanced.books.registered, tracks_emptied balanced.tracks,
        steady.fanning balanced.fanning, steady.remembers balanced.remembers⟩
    have walked : inv ([] ++ listed) h₁ := by
      refine Triple.forIn_along inv _ [] listed (fun before w after split => ?_) emptied looped
      intro h₂ step h₃ kept ran
      obtain ⟨b, h₄, cancelled, returned⟩ := bind_ok.mp ran
      simp only [run_pure, EStateM.Result.ok.injEq] at returned
      obtain ⟨rfl, rfl⟩ := returned
      obtain ⟨books, tracks, fanning, remembers⟩ := kept
      obtain ⟨detached, -⟩ := cancelWaiter_detaches books.registered cancelled
      obtain ⟨books', fanning', remembers'⟩ := detached.keeps books fanning remembers
      refine ⟨rfl, books', ?_, fanning', remembers'⟩
      have tracks' := cancelWaiter_tracks books.registered tracks cancelled
      -- the waiter cancelled was the first one still set aside
      have rest : listed.drop ([] ++ before).length = w :: after := by simp [split]
      have rest' : listed.drop ([] ++ before ++ [w]).length = after := by simp [split]
      have aside : (fun o' => if o' = o then listed.drop ([] ++ before ++ [w]).length else []) =
          fun o' => (if o' = o then listed.drop ([] ++ before).length else []).erase w := by
        funext o'
        by_cases same : o' = o
        · simp only [same, if_true, rest, rest', List.erase_cons_head]
        · simp only [same, if_false, List.erase_nil]
      rw [aside]
      exact tracks'
    obtain ⟨books, tracks, fanning, remembers⟩ := walked
    have aside : (fun o' => if o' = o then listed.drop ([] ++ listed).length else []) =
        fun _ => ([] : List Nat) := by
      funext o'
      simp
    rw [aside] at tracks
    exact ⟨books, tracks, fanning, remembers⟩

end MissionControl.Hub
