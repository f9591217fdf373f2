import MissionControl.Proofs.Hub.Footprint
import MissionControl.Proofs.Hub.Startup
import MissionControl.Hub.Session

/-!
# The registry's watches on the bus

A started registry watches every change of ownership on the bus, and every client it registered
watches its own name. Each watch is one subscription on the bus, made when the registry or the
client starts and ended when the client is forgotten or the registry closes.

`Registry.Watched r S h` states what the subscriptions of world `h` are, with the operations of
`S` under way: the live ones are exactly the registry's own watch and one watch for each of its
entries, except for a client just added that has not started yet (`Frame.enrolling`); the
registry watches while it is started and not closed; a closed registry has no entries, and a
registry registering names is open (`Frame.registering`).

A session *drives* a registry when its steps are those of a registry running on its own: it is
started and closed, requests on the bus are answered or given responders, and signals are
emitted. Nothing else then subscribes on the bus, and no waiter or latch runs a session's steps.
These books hold in every world such a session reaches (`watches`), and so does, once the
registry is started, that it closes its own watch when it closes. Between steps, every client
that started has its watch, which gives the count of live subscriptions (`watch_count`).
-/

set_option autoImplicit false

namespace MissionControl.Bus.Scripted

variable {ρ κ : Type} [Inhabited κ] (b : Scripted ρ κ)

/-- Subscription `id` is live and goes to `l`. -/
def Watching (id : Nat) (l : κ) : Prop :=
  b.isLive id = true ∧ (b.subscriptions.getD (id - 1) default).listener = l

/-! ## Subscribing and unsubscribing -/

omit [Inhabited κ] in
/-- Subscription `id` is live when its id is not zero and its entry is marked live. -/
theorem isLive_eq (id : Nat) :
    b.isLive id = (decide (id ≠ 0) && (b.subscriptions[id - 1]?.map (·.live)).getD false) := by
  unfold Scripted.isLive
  split <;> simp_all

omit [Inhabited κ] in
theorem isLive_inside {id : Nat} (live : b.isLive id = true) :
    id ≠ 0 ∧ id - 1 < b.subscriptions.size := by
  rw [isLive_eq] at live
  cases found : b.subscriptions[id - 1]? with
  | none => simp [found] at live
  | some s =>
    simp only [found, Option.map_some, Option.getD_some, Bool.and_eq_true,
      decide_eq_true_eq] at live
    exact ⟨live.1, (Array.getElem?_eq_some_iff.mp found).1⟩

/-- What is watched depends on the subscriptions alone. -/
theorem watching_of_subscriptions {b' : Scripted ρ κ} (same : b'.subscriptions = b.subscriptions) :
    b'.Watching = b.Watching := by
  funext id l
  simp only [Watching, Scripted.isLive, same]

omit [Inhabited κ] in
/-- A new subscription is live under the next id, and the others stay as they were. -/
theorem isLive_subscribe (rule : MatchRule) (l : κ) (id : Nat) :
    (b.subscribe rule l).1.isLive id = (b.isLive id || id == b.subscriptions.size + 1) := by
  simp only [isLive_eq, Scripted.subscribe, Array.getElem?_push]
  by_cases zero : id = 0
  · simp [zero]
  by_cases last : id - 1 = b.subscriptions.size
  · have next : id = b.subscriptions.size + 1 := by omega
    simp [next]
  · have other : id ≠ b.subscriptions.size + 1 := by omega
    simp [last, other]

omit [Inhabited κ] in
theorem subscribe_id (rule : MatchRule) (l : κ) : (b.subscribe rule l).2 = b.subscriptions.size + 1 :=
  rfl

/-- A new subscription is watched under the next id, and what was watched stays so. -/
theorem watching_subscribe (rule : MatchRule) (l : κ) {id : Nat} {l' : κ} :
    (b.subscribe rule l).1.Watching id l' ↔
      b.Watching id l' ∨ id = b.subscriptions.size + 1 ∧ l = l' := by
  unfold Watching
  rw [isLive_subscribe]
  by_cases next : id = b.subscriptions.size + 1
  · subst next
    have dead : b.isLive (b.subscriptions.size + 1) = false := by
      cases live : b.isLive (b.subscriptions.size + 1)
      · rfl
      · have := (b.isLive_inside live).2
        omega
    simp [dead, Scripted.subscribe, Array.getD_eq_getD_getElem?]
  · by_cases live : b.isLive id = true
    · have inside := (b.isLive_inside live).2
      simp [live, next, Scripted.subscribe, Array.getD_eq_getD_getElem?, Array.getElem?_push,
        Nat.ne_of_lt inside]
    · simp [live, next]

omit [Inhabited κ] in
/-- Ending a live subscription ends it alone. -/
theorem isLive_unsubscribe {id₀ : Nat} (live : b.isLive id₀ = true) (id : Nat) :
    (b.unsubscribe id₀).isLive id = (b.isLive id && id != id₀) := by
  obtain ⟨nonzero, -⟩ := b.isLive_inside live
  simp only [isLive_eq, Scripted.unsubscribe, Array.getElem?_modify]
  by_cases same : id = id₀
  · subst same
    cases b.subscriptions[id - 1]? <;> simp
  · by_cases zero : id = 0
    · simp [zero]
    · have other : id₀ - 1 ≠ id - 1 := by omega
      simp [other, same]

theorem watching_unsubscribe {id₀ : Nat} (live : b.isLive id₀ = true) {id : Nat} {l : κ} :
    (b.unsubscribe id₀).Watching id l ↔ b.Watching id l ∧ id ≠ id₀ := by
  have listener : ((b.unsubscribe id₀).subscriptions.getD (id - 1) default).listener =
      (b.subscriptions.getD (id - 1) default).listener :=
    Hub.getD_modify_of_keeps _ _ _ _ (fun s : Bus.Subscription κ => s.listener) fun _ => rfl
  simp only [Watching, b.isLive_unsubscribe live, listener, Bool.and_eq_true, bne_iff_ne, ne_eq]
  exact and_right_comm

end MissionControl.Bus.Scripted

namespace MissionControl.Hub

open Readiness

/-- Whether a listener hears changes of ownership for the registry: the registry's watch of
every name, or a client's watch of its own name. -/
def Listener.watchesNames : Listener → Bool
  | .registry | .client _ => true
  | _ => false

theorem Listener.watchesNames_eq_true {l : Listener} (names : l.watchesNames = true) :
    l = .registry ∨ ∃ c, l = .client c := by
  cases l <;> simp_all [Listener.watchesNames]

/-- Whether a reaction runs a session's steps. -/
def Reaction.isScript : Reaction → Bool
  | .script .. => true
  | _ => false

/-- Whether the finale of a latch runs a session's steps. -/
def Finale.isScript : Finale → Bool
  | .script .. => true
  | _ => false

/-- Every subscription on a bus watches names. -/
def NamesOnly (b : Bus.Scripted Route Listener) : Prop :=
  ∀ i < b.subscriptions.size, (b.subscriptions.getD i default).listener.watchesNames = true

/-- Only watches of names are subscribed after one more. -/
theorem NamesOnly.subscribe {b : Bus.Scripted Route Listener} (only : NamesOnly b)
    (rule : MatchRule) {l : Listener} (names : l.watchesNames = true) :
    NamesOnly (b.subscribe rule l).1 := by
  intro i inside
  simp only [Bus.Scripted.subscribe, Array.size_push] at inside ⊢
  rw [getD_push]
  split
  · exact names
  · exact only i (by omega)

theorem NamesOnly.unsubscribe {b : Bus.Scripted Route Listener} (only : NamesOnly b) (id : Nat) :
    NamesOnly (b.unsubscribe id) := by
  intro i inside
  simp only [Bus.Scripted.unsubscribe, Array.size_modify] at inside ⊢
  rw [getD_modify_of_keeps _ _ _ (fun s => { s with live := false }) Bus.Subscription.listener
    fun _ => rfl]
  exact only i inside

theorem NamesOnly.of_subscriptions {b b' : Bus.Scripted Route Listener} (only : NamesOnly b)
    (same : b'.subscriptions = b.subscriptions) : NamesOnly b' := by
  unfold NamesOnly
  rw [same]
  exact only

namespace World

/-- No waiter and no latch runs a session's steps when it fires. -/
structure Unscripted (h : World) : Prop where
  waiters : ∀ w r, (h.waiters.getD w default).reaction = some r → r.isScript = false
  latches : ∀ m, (h.latches.getD m default).finale.isScript = false

theorem Unscripted.of_same {h h' : World} (unscripted : h.Unscripted) (waiters : h'.waiters = h.waiters)
    (latches : h'.latches = h.latches) : h'.Unscripted :=
  ⟨waiters ▸ unscripted.waiters, latches ▸ unscripted.latches⟩

end World

/-- The client a frame is adding to the registry, if any. -/
def Frame.enrollee : Frame → Option Nat
  | .enrolling c => some c
  | _ => none

/-- The clients being added to the registry, innermost first. -/
def Frame.enrollees (S : List Frame) : List Nat := S.filterMap Frame.enrollee

/-- The subscriptions of a world as a registry `r` keeps them, with the operations of `S` under
way. -/
structure Registry.Watched (r : Registry) (S : List Frame) (h : World) : Prop where
  /-- Distinct names and distinct clients, each one of the world's. -/
  names : (r.entries.map (·.name)).Nodup
  clients : (r.entries.map (·.client)).Nodup
  inside : ∀ c ∈ r.entries.map (·.client), c < h.clients.size
  /-- The registry watches every name from its start, while it is open. -/
  unstarted : r.started = false → r.nameWatch = none
  watching : r.started = true → r.closed = false → r.nameWatch.isSome = true
  own : ∀ id, r.nameWatch = some id → h.bus.Watching id .registry
  /-- A closed registry has no entries; one that registers names is open. -/
  closed : r.closed = true → r.entries = []
  registering : Frame.registering ∈ S → r.closed = false
  /-- The watch of each of its clients goes to that client; every client has one once it
  started, and a client just added, at most once under way, has none yet. -/
  entries : ∀ c ∈ r.entries.map (·.client), ∀ id,
    (h.clients.getD c default).nameWatch = some id → h.bus.Watching id (.client c)
  started : ∀ c ∈ r.entries.map (·.client), c ∉ Frame.enrollees S →
    (h.clients.getD c default).nameWatch.isSome = true
  enrolling : ∀ c ∈ Frame.enrollees S,
    c ∈ r.entries.map (·.client) ∧ (h.clients.getD c default).nameWatch = none
  enrollees : (Frame.enrollees S).Nodup
  /-- Every live subscription is the registry's own watch or the watch of one of its clients. -/
  ownOnly : ∀ id, h.bus.Watching id .registry → r.nameWatch = some id
  entriesOnly : ∀ id c, h.bus.Watching id (.client c) →
    c ∈ r.entries.map (·.client) ∧ (h.clients.getD c default).nameWatch = some id

/-- Once the registry has started, it stays started and closing ends its own watch. -/
def World.Opened (h : World) : Prop :=
  ∀ r, h.registry = some r → r.started = true ∧ (r.closed = true → r.nameWatch = none)

/-- The books of a world driven as a registry, with the operations of `S` under way: its
registry's watches, nothing else subscribed, no session's steps waiting to run and only clients
waited for; once the registry has `started`, it is open or has closed its own watch. -/
structure World.Watches (started : Bool) (S : List Frame) (h : World) : Prop where
  registry : ∃ r, h.registry = some r ∧ r.Watched S h
  only : NamesOnly h.bus
  unscripted : h.Unscripted
  waiting : ∀ s m o, Frame.waiting s m o ∈ S → ∃ c, s = .client c
  opened : started = true → h.Opened

/-! ## Worlds with the same watches -/

/-- What the books of watches read of a registry: whether it started and closed, its own watch,
and the name and client of each entry. -/
def Registry.watchView (r : Registry) : Bool × Bool × Option Nat × List (String × Nat) :=
  (r.started, r.closed, r.nameWatch, r.entries.map fun e => (e.name, e.client))

namespace World

/-- Two worlds with the same subscriptions, the same registry as far as its watches go and the
same watches of clients, where the second runs no session's steps if the first runs none. -/
structure SameWatches (h h' : World) : Prop where
  registry : h'.registry.map Registry.watchView = h.registry.map Registry.watchView
  subscriptions : h'.bus.subscriptions = h.bus.subscriptions
  clients : h'.clients.size = h.clients.size
  nameWatch : ∀ c, (h'.clients.getD c default).nameWatch = (h.clients.getD c default).nameWatch
  unscripted : h.Unscripted → h'.Unscripted

theorem SameWatches.refl (h : World) : h.SameWatches h := ⟨rfl, rfl, rfl, fun _ => rfl, id⟩

theorem SameWatches.trans {h₁ h₂ h₃ : World} (first : h₁.SameWatches h₂) (second : h₂.SameWatches h₃) :
    h₁.SameWatches h₃ :=
  ⟨second.registry.trans first.registry, second.subscriptions.trans first.subscriptions,
    second.clients.trans first.clients, fun c => (second.nameWatch c).trans (first.nameWatch c),
    second.unscripted ∘ first.unscripted⟩

/-- A world differing only in what the watches do not read. -/
theorem SameWatches.of_same {h h' : World} (registry : h'.registry = h.registry)
    (bus : h'.bus.subscriptions = h.bus.subscriptions) (clients : h'.clients = h.clients)
    (waiters : h'.waiters = h.waiters) (latches : h'.latches = h.latches) : h.SameWatches h' :=
  ⟨by rw [registry], bus, by rw [clients], fun _ => by rw [clients],
    fun unscripted => unscripted.of_same waiters latches⟩

theorem sameWatches_note (h : World) (n : Note) :
    h.SameWatches { h with notes := h.notes.push n } :=
  .of_same rfl rfl rfl rfl rfl

theorem sameWatches_clients (h : World) (c : Nat) (g : ClientObject → ClientObject)
    (keeps : ∀ x, (g x).nameWatch = x.nameWatch) :
    h.SameWatches { h with clients := h.clients.modify c g } :=
  ⟨rfl, rfl, Array.size_modify .., fun _ => getD_modify_of_keeps _ _ _ _ _ keeps,
    fun unscripted => ⟨unscripted.waiters, unscripted.latches⟩⟩

theorem sameWatches_setStatus (h : World) (s : Subject) (st : Status) :
    h.SameWatches (h.setStatus s st) := by
  cases s with
  | plain i => exact .of_same rfl rfl rfl rfl rfl
  | account i => exact .of_same rfl rfl rfl rfl rfl
  | client i => exact h.sameWatches_clients i _ fun _ => rfl

end World

/-- Every change of what the readiness broker keeps for itself keeps the watches. -/
theorem sameWatches : Footprint World.SameWatches where
  refl := World.SameWatches.refl
  trans := World.SameWatches.trans
  waiter _ _ _ keeps := ⟨rfl, rfl, rfl, fun _ => rfl, fun unscripted =>
    ⟨fun w' r reacts => unscripted.waiters w' r
      ((getD_modify_of_keeps _ _ _ _ Waiter.reaction keeps).symm.trans reacts),
      unscripted.latches⟩⟩
  owners _ _ := .of_same rfl rfl rfl rfl rfl
  fetches _ _ := .of_same rfl rfl rfl rfl rfl
  latch _ _ _ keeps := ⟨rfl, rfl, rfl, fun _ => rfl, fun unscripted =>
    ⟨unscripted.waiters, fun m' =>
      (getD_modify_of_keeps _ _ _ _ Latch.finale keeps).symm ▸ unscripted.latches m'⟩⟩
  waiterLabels _ _ := .of_same rfl rfl rfl rfl rfl
  note h n _ := h.sameWatches_note n
  status := World.sameWatches_setStatus
  daemon _ _ := .of_same rfl rfl rfl rfl rfl
  post _ _ := .of_same rfl rfl rfl rfl rfl

namespace World

section Same

variable {h h' : World} (same : h.SameWatches h')
include same

theorem SameWatches.watching : h'.bus.Watching = h.bus.Watching :=
  h.bus.watching_of_subscriptions same.subscriptions

/-- The registry of the second world, seen from the first. -/
theorem SameWatches.registry_some {r : Registry} (present : h.registry = some r) :
    ∃ r', h'.registry = some r' ∧ r'.watchView = r.watchView := by
  have view := same.registry
  rw [present, Option.map_some] at view
  exact Option.map_eq_some_iff.mp view

end Same

end World

theorem Registry.watchView_eq {r r' : Registry} (view : r'.watchView = r.watchView) :
    r'.started = r.started ∧ r'.closed = r.closed ∧ r'.nameWatch = r.nameWatch ∧
      r'.entries.map (·.name) = r.entries.map (·.name) ∧
      r'.entries.map (·.client) = r.entries.map (·.client) := by
  simp only [Registry.watchView, Prod.mk.injEq] at view
  obtain ⟨started, closed, nameWatch, pairs⟩ := view
  have names := congrArg (List.map Prod.fst) pairs
  have clients := congrArg (List.map Prod.snd) pairs
  simp only [List.map_map, Function.comp_def] at names clients
  exact ⟨started, closed, nameWatch, names, clients⟩

theorem Registry.Watched.transfer {r r' : Registry} {S : List Frame} {h h' : World}
    (watched : r.Watched S h) (same : h.SameWatches h') (view : r'.watchView = r.watchView) :
    r'.Watched S h' := by
  obtain ⟨started, closed, nameWatch, names, clients⟩ := Registry.watchView_eq view
  have emptied : r'.entries = [] ↔ r.entries = [] := by
    rw [← List.map_eq_nil_iff (f := (·.client)), clients, List.map_eq_nil_iff]
  refine
    { names := names ▸ watched.names
      clients := clients ▸ watched.clients
      inside := fun c member => same.clients ▸ watched.inside c (clients ▸ member)
      unstarted := fun fresh => nameWatch ▸ watched.unstarted (started ▸ fresh)
      watching := fun begun shut => nameWatch ▸ watched.watching (started ▸ begun) (closed ▸ shut)
      own := fun id own => same.watching ▸ watched.own id (nameWatch ▸ own)
      closed := fun shut => emptied.mpr (watched.closed (closed ▸ shut))
      registering := fun registering => closed ▸ watched.registering registering
      entries := fun c member id watch =>
        same.watching ▸ watched.entries c (clients ▸ member) id (same.nameWatch c ▸ watch)
      started := fun c member fresh => same.nameWatch c ▸ watched.started c (clients ▸ member) fresh
      enrolling := fun c enrolling => by
        rw [clients, same.nameWatch c]
        exact watched.enrolling c enrolling
      enrollees := watched.enrollees
      ownOnly := fun id watching => nameWatch ▸ watched.ownOnly id (same.watching ▸ watching)
      entriesOnly := fun id c watching => by
        rw [clients, same.nameWatch c]
        exact watched.entriesOnly id c (same.watching ▸ watching) }

theorem World.Opened.transfer {h h' : World} (opened : h.Opened) (same : h.SameWatches h') :
    h'.Opened := by
  intro r' present'
  have view := same.registry
  rw [present', Option.map_some] at view
  obtain ⟨r, present, view⟩ := Option.map_eq_some_iff.mp view.symm
  obtain ⟨started, closed, nameWatch, -, -⟩ := Registry.watchView_eq view.symm
  rw [started, closed, nameWatch]
  exact opened r present

theorem World.Watches.transfer {started : Bool} {S : List Frame} {h h' : World}
    (watches : h.Watches started S) (same : h.SameWatches h') : h'.Watches started S := by
  obtain ⟨r, present, watched⟩ := watches.registry
  obtain ⟨r', present', view⟩ := same.registry_some present
  refine ⟨⟨r', present', watched.transfer same view⟩, ?_, same.unscripted watches.unscripted,
    watches.waiting, fun begun => (watches.opened begun).transfer same⟩
  exact watches.only.of_subscriptions same.subscriptions

/-! ## Subscriptions of the hub -/

/-- Whether the transport is open reads the world and changes nothing. -/
theorem linkOpen_run {h h' : World} {linked : Bool} (run : linkOpen.run h = .ok linked h') :
    h' = h := by
  rw [run_linkOpen, EStateM.Result.ok.injEq] at run
  exact run.2.symm

/-- Subscribing adds a subscription on the bus under the next id, and may tell the daemon. -/
theorem subscribe_run {rule : MatchRule} {l : Listener} {h h' : World} {id : Nat}
    (run : (subscribe rule l).run h = .ok id h') :
    id = h.bus.subscriptions.size + 1 ∧
      ∃ d, h' = { h with bus := (h.bus.subscribe rule l).1, daemon := d } := by
  unfold subscribe at run
  simp only [bind_ok, run_modifyGet, EStateM.Result.ok.injEq, exists_returned] at run
  obtain ⟨linked, h₁, opened, rest⟩ := run
  rw [linkOpen_run opened] at rest
  cases linked with
  | false =>
    simp only [Bool.false_eq_true, ↓reduceIte, run_pure, EStateM.Result.ok.injEq] at rest
    exact ⟨rest.1.symm, h.daemon, rest.2.symm⟩
  | true =>
    simp only [↓reduceIte, bind_ok, run_daemonCall, run_pure, EStateM.Result.ok.injEq,
      exists_returned_unit] at rest
    exact ⟨rest.1.symm, _, rest.2.symm⟩

/-- Unsubscribing ends a subscription, if live, and may tell the daemon. -/
theorem unsubscribe_run {id : Nat} {h h' : World} (run : (unsubscribe id).run h = .ok () h') :
    ∃ b d, h' = { h with bus := b, daemon := d } ∧
      (∀ id' l, b.Watching id' l ↔ h.bus.Watching id' l ∧ id' ≠ id) ∧
      (NamesOnly h.bus → NamesOnly b) := by
  unfold unsubscribe at run
  simp only [bind_ok, run_get, EStateM.Result.ok.injEq, exists_returned] at run
  cases live : h.bus.isLive id with
  | false =>
    simp only [live, Bool.not_false, ↓reduceIte, run_pure, EStateM.Result.ok.injEq] at run
    refine ⟨h.bus, h.daemon, run.2.symm, fun id' l => ⟨fun watching => ⟨watching, ?_⟩, And.left⟩,
      fun only => only⟩
    rintro rfl
    rw [watching.1] at live
    cases live
  | true =>
    simp only [live, Bool.not_true, Bool.false_eq_true, ↓reduceIte, bind_ok, run_modify,
      EStateM.Result.ok.injEq, exists_returned_unit] at run
    obtain ⟨linked, h₁, opened, rest⟩ := run
    rw [linkOpen_run opened] at rest
    have watching : ∀ id' l, (h.bus.unsubscribe id).Watching id' l ↔
        h.bus.Watching id' l ∧ id' ≠ id :=
      fun _ _ => h.bus.watching_unsubscribe live
    cases linked with
    | false =>
      simp only [Bool.false_eq_true, ↓reduceIte, run_pure, EStateM.Result.ok.injEq] at rest
      exact ⟨_, h.daemon, rest.2.symm, watching, fun only => only.unsubscribe id⟩
    | true =>
      simp only [↓reduceIte, run_daemonCall, EStateM.Result.ok.injEq] at rest
      exact ⟨_, _, rest.2.symm, watching, fun only => only.unsubscribe id⟩

/-! ## The registry's own watch -/

/-- The registry starts and watches every name. -/
theorem watches_openRegistry {started : Bool} {S : List Frame} {r : Registry} :
    Triple (fun h => h.Watches started S ∧ h.registry = some r ∧ r.started = false) openRegistry
      fun _ => World.Watches started S := by
  rintro h ⟨⟩ h' ⟨watches, present, fresh⟩ run
  unfold openRegistry at run
  simp only [bind_ok, run_modifyRegistry, EStateM.Result.ok.injEq, exists_returned_unit] at run
  obtain ⟨id, h₁, subscribed, rest⟩ := run
  obtain ⟨rfl, d, rfl⟩ := subscribe_run subscribed
  obtain ⟨-, rfl⟩ := rest
  obtain ⟨r₀, present₀, watched⟩ := watches.registry
  rw [present, Option.some.injEq] at present₀
  subst present₀
  have unwatched := watched.unstarted fresh
  have watching : ∀ id l, (h.bus.subscribe (Bus.ownershipRule "") .registry).1.Watching id l ↔
      h.bus.Watching id l ∨ id = h.bus.subscriptions.size + 1 ∧ .registry = l :=
    fun _ _ => h.bus.watching_subscribe _ _
  refine ⟨⟨{ r with started := true, nameWatch := some (h.bus.subscriptions.size + 1) },
      by simp [present], ?_⟩, watches.only.subscribe _ rfl, watches.unscripted.of_same rfl rfl,
    watches.waiting,
    fun begun => ?_⟩
  · refine { watched with
      unstarted := fun restarted => by cases restarted
      watching := fun _ _ => rfl
      own := fun id own => (watching id _).mpr (.inr ⟨(Option.some.inj own).symm, rfl⟩)
      ownOnly := fun id watches => ?_
      entries := fun c member id watch => (watching id _).mpr (.inl (watched.entries c member id watch))
      entriesOnly := fun id c watches => ?_ }
    · rcases (watching id _).mp watches with old | ⟨rfl, -⟩
      · rw [watched.ownOnly id old] at unwatched
        cases unwatched
      · rfl
    · rcases (watching id _).mp watches with old | ⟨-, other⟩
      · exact watched.entriesOnly id c old
      · cases other
  · rw [(watches.opened begun r present).1] at fresh
    cases fresh

/-! ## Frames -/

/-- The frames of operations that neither add a client, register names nor wait for
interfaces. -/
def Frame.isQuiet : Frame → Bool
  | .fanOut .. | .alone _ | .naming | .listing => true
  | _ => false

theorem Frame.enrollees_cons {F : Frame} (S : List Frame) (none : F.enrollee = none) :
    Frame.enrollees (F :: S) = Frame.enrollees S := by
  simp [Frame.enrollees, none]

theorem Frame.enrollee_of_quiet {F : Frame} (quiet : F.isQuiet = true) : F.enrollee = none := by
  cases F <;> simp_all [Frame.isQuiet, Frame.enrollee]

theorem Frame.mem_of_quiet {F G : Frame} {S : List Frame} (quiet : F.isQuiet = true)
    (loud : G.isQuiet = false) (member : G ∈ F :: S) : G ∈ S := by
  refine List.mem_of_ne_of_mem (fun same => ?_) member
  rw [same, quiet] at loud
  cases loud

theorem Registry.Watched.restack {r : Registry} {S S' : List Frame} {h : World}
    (watched : r.Watched S h) (enrollees : Frame.enrollees S' = Frame.enrollees S)
    (registering : Frame.registering ∈ S' → r.closed = false) : r.Watched S' h :=
  { watched with
    registering
    started := enrollees ▸ watched.started
    enrolling := enrollees ▸ watched.enrolling
    enrollees := enrollees ▸ watched.enrollees }

namespace World.Watches

variable {started : Bool} {S : List Frame} {h : World}

/-- An operation that does not add a client ends. -/
theorem pop {F : Frame} (watches : h.Watches started (F :: S)) (none : F.enrollee = none) :
    h.Watches started S := by
  obtain ⟨r, present, watched⟩ := watches.registry
  exact { watches with
    registry := ⟨r, present, watched.restack (Frame.enrollees_cons S none).symm
      fun registering => watched.registering (List.mem_cons_of_mem F registering)⟩
    waiting := fun s m o waiting => watches.waiting s m o (List.mem_cons_of_mem F waiting) }

/-- A quiet operation begins. -/
theorem push {F : Frame} (watches : h.Watches started S) (quiet : F.isQuiet = true) :
    h.Watches started (F :: S) := by
  obtain ⟨r, present, watched⟩ := watches.registry
  exact { watches with
    registry := ⟨r, present, watched.restack (Frame.enrollees_cons S (Frame.enrollee_of_quiet quiet))
      fun registering => watched.registering (Frame.mem_of_quiet quiet rfl registering)⟩
    waiting := fun s m o waiting => watches.waiting s m o (Frame.mem_of_quiet quiet rfl waiting) }

/-- The registry, open, begins to register names. -/
theorem register (watches : h.Watches started S) (opens : ∀ r, h.registry = some r → r.closed = false) :
    h.Watches started (.registering :: S) := by
  obtain ⟨r, present, watched⟩ := watches.registry
  exact { watches with
    registry := ⟨r, present, watched.restack (Frame.enrollees_cons S rfl) fun _ => opens r present⟩
    waiting := fun s m o waiting => watches.waiting s m o (List.mem_of_ne_of_mem (by simp) waiting) }

/-- A client begins to wait for several of its interfaces. -/
theorem wait (watches : h.Watches started S) (c m : Nat) (o : Option Nat) :
    h.Watches started (.waiting (.client c) m o :: S) := by
  obtain ⟨r, present, watched⟩ := watches.registry
  refine { watches with
    registry := ⟨r, present, watched.restack (Frame.enrollees_cons S rfl)
      fun registering => watched.registering (List.mem_of_ne_of_mem (by simp) registering)⟩
    waiting := fun s m' o' waiting => ?_ }
  rcases List.mem_cons.mp waiting with same | inside
  · simp only [Frame.waiting.injEq] at same
    exact ⟨c, same.1⟩
  · exact watches.waiting s m' o' inside

end World.Watches

/-! ## Clients added and started -/

theorem Frame.enrollees_enrolling (c : Nat) (S : List Frame) :
    Frame.enrollees (.enrolling c :: S) = c :: Frame.enrollees S := rfl

/-- A client added without a watch, then changed in what it does not watch, leaves every
client's watch as it was. -/
theorem nameWatch_push_modify (cs : Array ClientObject) (x : ClientObject)
    (unwatched : x.nameWatch = none) (g : ClientObject → ClientObject)
    (keeps : ∀ y, (g y).nameWatch = y.nameWatch) (c : Nat) :
    (((cs.push x).modify cs.size g).getD c default).nameWatch = (cs.getD c default).nameWatch := by
  rw [getD_modify_of_keeps _ _ _ _ ClientObject.nameWatch keeps, getD_push]
  split
  · rename_i last
    rw [last, getD_of_size_le (Nat.le_refl _), unwatched]
    rfl
  · rfl

/-- Adding client `c`, the next one: the registry gets its entry and nothing the watches read
changes otherwise. -/
theorem enroll_run {r : Registry} {name u : String} {act : Bool} {h h' : World} {c : Nat}
    (present : h.registry = some r) (run : (enroll r name u act).run h = .ok c h') :
    c = h.clients.size ∧ h'.clients.size = h.clients.size + 1 ∧
      (∀ c', (h'.clients.getD c' default).nameWatch = (h.clients.getD c' default).nameWatch) ∧
      h'.registry = some { r with
        entries := r.entries ++ [{ name, client := c, lockHeld := !r.startedUp }],
        startupLock := if !r.startedUp then r.startupLock + 1 else r.startupLock } ∧
      h'.bus = h.bus ∧ h'.waiters = h.waiters ∧ h'.latches = h.latches := by
  simp only [enroll, bind_ok, run_newOwner, run_modifyGet, run_modifyRegistry, run_modifyClient,
    EStateM.Result.ok.injEq, exists_returned, exists_returned_unit] at run
  have added := nameWatch_push_modify h.clients
    { proxy := Client.Proxy.create name u act, owner := h.owners.size } rfl
    (fun x => { x with readyLinked := true, goneLinked := true }) fun _ => rfl
  split at run
  · simp only [bind_ok, run_note, run_pure, EStateM.Result.ok.injEq, exists_returned_unit] at run
    obtain ⟨rfl, rfl⟩ := run
    exact ⟨rfl, by simp, added, by simp [present], rfl, rfl, rfl⟩
  · simp only [run_pure, EStateM.Result.ok.injEq] at run
    obtain ⟨rfl, rfl⟩ := run
    exact ⟨rfl, by simp, added, by simp [present], rfl, rfl, rfl⟩

/-- The books of a registry that adds an entry for the next client, unknown so far, while it
registers names. -/
theorem Registry.Watched.enroll {r : Registry} {S : List Frame} {h h' : World} {e : RegistryEntry}
    (watched : r.Watched (.registering :: S) h) (unknown : r.entries.find? (·.name == e.name) = none)
    (next : e.client = h.clients.size) (bus : h'.bus.subscriptions = h.bus.subscriptions)
    (size : h'.clients.size = h.clients.size + 1)
    (nameWatch : ∀ c, (h'.clients.getD c default).nameWatch = (h.clients.getD c default).nameWatch) :
    ({ r with entries := r.entries ++ [e] } : Registry).Watched (.enrolling e.client :: .registering :: S) h' := by
  have watching : h'.bus.Watching = h.bus.Watching := h.bus.watching_of_subscriptions bus
  have newName : e.name ∉ r.entries.map (·.name) := by
    simp only [List.mem_map, not_exists, not_and]
    intro x member same
    have differs := List.find?_eq_none.mp unknown x member
    simp [same] at differs
  have older : ∀ c ∈ r.entries.map (·.client), c ≠ e.client := fun c member same =>
    absurd (watched.inside c member) (by omega)
  have unwatched : (h'.clients.getD e.client default).nameWatch = none := by
    rw [nameWatch, next, getD_of_size_le (Nat.le_refl _)]
    rfl
  refine
    { names := ?_
      clients := ?_
      inside := fun c member => ?_
      unstarted := watched.unstarted
      watching := watched.watching
      own := fun id own => watching ▸ watched.own id own
      closed := fun shut => absurd shut (by rw [watched.registering (List.mem_cons_self ..)]; decide)
      registering := fun _ => watched.registering (List.mem_cons_self ..)
      entries := fun c member id watch => ?_
      started := fun c member fresh => ?_
      enrolling := fun c enrolling => ?_
      enrollees := ?_
      ownOnly := fun id watches => watched.ownOnly id (watching ▸ watches)
      entriesOnly := fun id c watches => ?_ }
  · simpa [List.nodup_append] using
      ⟨watched.names, fun a member same => newName (List.mem_map.mpr ⟨a, member, same⟩)⟩
  · simpa [List.nodup_append] using
      ⟨watched.clients, fun a member => older a.client (List.mem_map.mpr ⟨a, member, rfl⟩)⟩
  · simp only [List.map_append, List.map_cons, List.map_nil, List.mem_append, List.mem_singleton] at member
    rcases member with old | rfl
    · exact size ▸ Nat.lt_succ_of_lt (watched.inside c old)
    · omega
  · simp only [List.map_append, List.map_cons, List.map_nil, List.mem_append, List.mem_singleton] at member
    rcases member with old | rfl
    · exact watching ▸ watched.entries c old id (nameWatch c ▸ watch)
    · rw [unwatched] at watch
      cases watch
  · simp only [List.map_append, List.map_cons, List.map_nil, List.mem_append, List.mem_singleton] at member
    rw [Frame.enrollees_enrolling, List.mem_cons, not_or] at fresh
    rcases member with old | rfl
    · exact nameWatch c ▸ watched.started c old fresh.2
    · exact absurd rfl fresh.1
  · rw [Frame.enrollees_enrolling, List.mem_cons] at enrolling
    simp only [List.map_append, List.map_cons, List.map_nil, List.mem_append, List.mem_singleton]
    rcases enrolling with rfl | old
    · exact ⟨.inr rfl, unwatched⟩
    · obtain ⟨member, unwatched'⟩ := watched.enrolling c old
      exact ⟨.inl member, nameWatch c ▸ unwatched'⟩
  · rw [Frame.enrollees_enrolling]
    refine List.nodup_cons.mpr ⟨fun enrolling => ?_, watched.enrollees⟩
    exact older _ (watched.enrolling _ enrolling).1 rfl
  · obtain ⟨member, watch⟩ := watched.entriesOnly id c (watching ▸ watches)
    simp only [List.map_append, List.map_cons, List.map_nil, List.mem_append]
    exact ⟨.inl member, nameWatch c ▸ watch⟩


/-- A client first seen is added to the registry, which registers names, and is about to start. -/
theorem watches_enroll {started : Bool} {S : List Frame} {r : Registry} {name u : String}
    {act : Bool} :
    Triple (fun h => h.Watches started (.registering :: S) ∧ h.registry = some r ∧
        r.entries.find? (·.name == name) = none) (enroll r name u act)
      fun c => World.Watches started (.enrolling c :: .registering :: S) := by
  rintro h c h' ⟨watches, present, unknown⟩ run
  obtain ⟨rfl, size, nameWatch, present', bus, waiters, latches⟩ := enroll_run present run
  obtain ⟨r₀, present₀, watched⟩ := watches.registry
  rw [present, Option.some.injEq] at present₀
  subst present₀
  have extended := watched.enroll (e := { name, client := h.clients.size, lockHeld := !r.startedUp })
    unknown rfl (by rw [bus]) size nameWatch
  refine ⟨⟨_, present', extended.transfer (.refl h') rfl⟩, ?_,
    watches.unscripted.of_same waiters latches, fun s m o waiting => ?_, fun begun r' present'' => ?_⟩
  · exact watches.only.of_subscriptions (by rw [bus])
  · exact watches.waiting s m o (List.mem_of_ne_of_mem (by simp) waiting)
  · rw [present', Option.some.injEq] at present''
    subst present''
    exact watches.opened begun r present

/-- A client starting subscribes to the ownership of its name under the next id and keeps it as
its watch; nothing else the watches read changes. -/
theorem openClient_run {c : Nat} {name : String} {h h' : World} (run : (openClient c name).run h = .ok () h') :
    h'.bus.subscriptions = (h.bus.subscribe (Bus.ownershipRule name) (.client c)).1.subscriptions ∧
      h'.clients.size = h.clients.size ∧
      (∀ c', (h'.clients.getD c' default).nameWatch =
        if c = c' ∧ c' < h.clients.size then some (h.bus.subscriptions.size + 1)
        else (h.clients.getD c' default).nameWatch) ∧
      h'.registry = h.registry ∧ h'.waiters = h.waiters ∧ h'.latches = h.latches := by
  unfold openClient at run
  simp only [bind_ok, run_modifyProxy, EStateM.Result.ok.injEq, exists_returned_unit] at run
  obtain ⟨id, h₁, subscribed, rest⟩ := run
  obtain ⟨rfl, d, rfl⟩ := subscribe_run subscribed
  simp only [run_modifyClient, EStateM.Result.ok.injEq] at rest
  obtain ⟨-, rfl⟩ := rest
  refine ⟨rfl, by simp, fun c' => ?_, rfl, rfl, rfl⟩
  rw [getD_modify, Array.size_modify]
  split_ifs
  · rfl
  · exact getD_modify_of_keeps _ _ _ _ ClientObject.nameWatch (fun _ => rfl)

/-- The books of a registry whose client just added starts. -/
theorem Registry.Watched.start {r : Registry} {S : List Frame} {h h' : World} {c : Nat} {name : String}
    (watched : r.Watched (.enrolling c :: S) h) (inside : c < h.clients.size)
    (bus : h'.bus.subscriptions = (h.bus.subscribe (Bus.ownershipRule name) (.client c)).1.subscriptions)
    (size : h'.clients.size = h.clients.size)
    (nameWatch : ∀ c', (h'.clients.getD c' default).nameWatch =
      if c = c' ∧ c' < h.clients.size then some (h.bus.subscriptions.size + 1)
      else (h.clients.getD c' default).nameWatch) :
    r.Watched S h' := by
  have watching : ∀ id l, h'.bus.Watching id l ↔
      h.bus.Watching id l ∨ id = h.bus.subscriptions.size + 1 ∧ .client c = l := by
    intro id l
    rw [Bus.Scripted.watching_of_subscriptions _ bus]
    exact h.bus.watching_subscribe _ _
  have once : c ∉ Frame.enrollees S ∧ (Frame.enrollees S).Nodup :=
    List.nodup_cons.mp watched.enrollees
  obtain ⟨member, unwatched⟩ := watched.enrolling c (List.mem_cons_self ..)
  have other : ∀ c', c' ≠ c →
      (h'.clients.getD c' default).nameWatch = (h.clients.getD c' default).nameWatch := by
    intro c' differs
    rw [nameWatch, if_neg fun same => differs same.1.symm]
  have own : (h'.clients.getD c default).nameWatch = some (h.bus.subscriptions.size + 1) := by
    rw [nameWatch, if_pos ⟨rfl, inside⟩]
  refine
    { watched with
      inside := fun c' member' => size ▸ watched.inside c' member'
      own := fun id owned => (watching id _).mpr (.inl (watched.own id owned))
      registering := fun registering => watched.registering (List.mem_cons_of_mem _ registering)
      entries := fun c' member' id watch => ?_
      started := fun c' member' fresh => ?_
      enrolling := fun c' enrolling => ?_
      enrollees := once.2
      ownOnly := fun id watches => ?_
      entriesOnly := fun id c' watches => ?_ }
  · by_cases same : c' = c
    · subst same
      rw [own, Option.some.injEq] at watch
      exact (watching id _).mpr (.inr ⟨watch.symm, rfl⟩)
    · rw [other c' same] at watch
      exact (watching id _).mpr (.inl (watched.entries c' member' id watch))
  · by_cases same : c' = c
    · rw [same, own]
      rfl
    · rw [other c' same]
      exact watched.started c' member' (by
        rw [Frame.enrollees_enrolling, List.mem_cons, not_or]
        exact ⟨same, fresh⟩)
  · have differs : c' ≠ c := fun same => once.1 (same ▸ enrolling)
    rw [other c' differs]
    exact watched.enrolling c' (List.mem_cons_of_mem _ enrolling)
  · rcases (watching id _).mp watches with old | ⟨-, differs⟩
    · exact watched.ownOnly id old
    · cases differs
  · rcases (watching id _).mp watches with old | ⟨rfl, same⟩
    · obtain ⟨member', watch⟩ := watched.entriesOnly id c' old
      have differs : c' ≠ c := fun same => by
        rw [same, unwatched] at watch
        cases watch
      exact ⟨member', (other c' differs).trans watch⟩
    · cases same
      exact ⟨member, own⟩

/-- A client just added starts and watches its name. -/
theorem watches_openClient {started : Bool} {S : List Frame} {c : Nat} {name : String} :
    Triple (fun h => h.Watches started (.enrolling c :: S) ∧ c < h.clients.size) (openClient c name)
      fun _ => World.Watches started S := by
  rintro h ⟨⟩ h' ⟨watches, inside⟩ run
  obtain ⟨bus, size, nameWatch, registry, waiters, latches⟩ := openClient_run run
  obtain ⟨r, present, watched⟩ := watches.registry
  refine ⟨⟨r, registry ▸ present, watched.start inside bus size nameWatch⟩, ?_,
    watches.unscripted.of_same waiters latches, fun s m o waiting => ?_, fun begun => ?_⟩
  · exact (watches.only.subscribe _ rfl).of_subscriptions bus
  · exact watches.waiting s m o (List.mem_cons_of_mem _ waiting)
  · rw [World.Opened, registry]
    exact watches.opened begun

/-! ## The registry's lock and clients ready -/

theorem World.sameWatches_registry (h : World) (g : Registry → Registry)
    (keeps : ∀ x, (g x).watchView = x.watchView) :
    h.SameWatches { h with registry := h.registry.map g } := by
  refine ⟨?_, rfl, rfl, fun _ => rfl, fun unscripted => unscripted.of_same rfl rfl⟩
  rw [Option.map_map]
  exact congrArg (Option.map · h.registry) (funext keeps)

theorem stays_modifyRegistry (g : Registry → Registry) (keeps : ∀ x, (g x).watchView = x.watchView) :
    Stays World.SameWatches (modifyRegistry g) :=
  Stays.of_modify fun h => h.sameWatches_registry g keeps

theorem stays_modifyProxy (c : Nat) (g : Client.Proxy → Client.Proxy) :
    Stays World.SameWatches (modifyProxy c g) :=
  Stays.of_modify fun h => h.sameWatches_clients c _ fun _ => rfl

theorem stays_anyNote (n : Note) : Stays World.SameWatches (note n) :=
  Stays.of_modify fun h => h.sameWatches_note n

theorem stays_releaseStartupLock : Stays World.SameWatches releaseStartupLock := by
  unfold releaseStartupLock
  refine sameWatches.bind (sameWatches.of_read fun h => ⟨_, run_registry? h⟩) fun r? => ?_
  split
  · rename_i r
    split
    · exact sameWatches.pure _
    · split
      · exact sameWatches.bind (stays_anyNote _) fun _ => sameWatches.pure _
      · refine sameWatches.bind (stays_modifyRegistry _ fun _ => rfl) fun _ => ?_
        split
        · exact sameWatches.pure _
        · refine sameWatches.bind (stays_modifyRegistry _ fun _ => rfl) fun _ => ?_
          split
          · exact stays_anyNote _
          · exact sameWatches.pure _
  · exact sameWatches.pure _

theorem stays_registryClientReady (c : Nat) : Stays World.SameWatches (registryClientReady c) := by
  unfold registryClientReady
  refine sameWatches.bind (sameWatches.of_read fun h => ⟨_, run_registry? h⟩) fun r? => ?_
  split
  · split
    · split
      · refine sameWatches.bind (stays_modifyRegistry _ fun x => ?_) fun _ => stays_releaseStartupLock
        simp only [Registry.watchView]
        rw [map_clear_keeps (fun y => (y.name, y.client)) fun _ => rfl]
      · exact sameWatches.pure _
    · exact sameWatches.pure _
  · exact sameWatches.pure _

theorem stays_becomeReady (c : Nat) : Stays World.SameWatches (becomeReady c) := by
  unfold becomeReady
  refine sameWatches.bind (sameWatches.of_read fun h => ⟨_, run_client c h⟩) fun cl => ?_
  split
  · exact sameWatches.pure _
  · refine sameWatches.bind (stays_modifyProxy _ _) fun _ => ?_
    split
    · exact stays_registryClientReady c
    · exact sameWatches.pure _

/-! ## Clients forgotten -/

theorem nameWatch_unset (cs : Array ClientObject) (c c' : Nat) :
    ((cs.modify c fun x => { x with nameWatch := none }).getD c' default).nameWatch =
      if c' = c then none else (cs.getD c' default).nameWatch := by
  split
  · rename_i same
    subst same
    exact getD_modify_sets _ _ _ ClientObject.nameWatch none (fun _ => rfl) rfl
  · rename_i other
    rw [getD_modify_ne _ _ other]

theorem stays_unlink (c : Nat) :
    Stays World.SameWatches (modifyClient c fun x => { x with readyLinked := false, goneLinked := false }) :=
  Stays.of_modify fun h => h.sameWatches_clients c _ fun _ => rfl

/-- A client disposed of ends its watch and keeps none; the rest of its disposal changes nothing
the watches read. -/
theorem disposeClient_run {c : Nat} {h h' : World} (run : (disposeClient c).run h = .ok () h') :
    ∃ h₁ : World, h₁.SameWatches h' ∧ h₁.registry = h.registry ∧ h₁.waiters = h.waiters ∧
      h₁.latches = h.latches ∧ h₁.clients.size = h.clients.size ∧
      (∀ c', (h₁.clients.getD c' default).nameWatch =
        if c' = c then none else (h.clients.getD c' default).nameWatch) ∧
      (∀ id l, h₁.bus.Watching id l ↔
        h.bus.Watching id l ∧ (h.clients.getD c default).nameWatch ≠ some id) ∧
      (NamesOnly h.bus → NamesOnly h₁.bus) := by
  have tail : Stays World.SameWatches (do
      closeOwner (h.clients.getD c default).owner
      disposeFetches (.client c)
      modifyClient c fun x => { x with readyLinked := false, goneLinked := false } : HubM Unit) :=
    sameWatches.bind (sameWatches.stays_closeOwner _) fun _ =>
      sameWatches.bind (sameWatches.stays_disposeFetches _) fun _ => stays_unlink c
  unfold disposeClient at run
  simp only [bind_ok, run_client, EStateM.Result.ok.injEq, exists_returned] at run
  split at run
  · rename_i id watch
    obtain ⟨⟨⟩, h₀, unsubscribed, rest⟩ := bind_ok.mp run
    obtain ⟨⟨⟩, h₁, unset, rest⟩ := bind_ok.mp rest
    simp only [run_modifyClient, EStateM.Result.ok.injEq] at unset
    obtain ⟨-, rfl⟩ := unset
    refine ⟨_, tail _ () h' rest, ?_⟩
    obtain ⟨b, d, rfl, watching, only⟩ := unsubscribe_run unsubscribed
    refine ⟨rfl, rfl, rfl, Array.size_modify .., nameWatch_unset _ _, fun id' l => ?_, only⟩
    rw [watch, watching]
    exact and_congr_right fun _ => ⟨fun differs same => differs (Option.some.inj same).symm,
      fun differs same => differs (congrArg some same.symm)⟩
  · rename_i unwatched
    refine ⟨h, tail h () h' run, rfl, rfl, rfl, rfl, fun c' => ?_, fun id l => ?_, fun only => only⟩
    · split
      · rename_i same
        rw [same, unwatched]
      · rfl
    · rw [unwatched]
      exact ⟨fun watching => ⟨watching, by simp⟩, And.left⟩

/-- The clients left after an entry is forgotten are the others. -/
theorem mem_forget {entries : List RegistryEntry} {e : RegistryEntry}
    (names : (entries.map (·.name)).Nodup) (clients : (entries.map (·.client)).Nodup)
    (entry : e ∈ entries) {c : Nat} :
    c ∈ (entries.filter (·.name != e.name)).map (·.client) ↔
      c ∈ entries.map (·.client) ∧ c ≠ e.client := by
  constructor
  · intro member
    obtain ⟨x, kept, rfl⟩ := List.mem_map.mp member
    exact ⟨List.mem_map_of_mem (List.mem_filter.mp kept).1, client_ne_of_forget clients entry kept⟩
  · rintro ⟨member, differs⟩
    obtain ⟨x, inside, rfl⟩ := List.mem_map.mp member
    refine List.mem_map.mpr ⟨x, List.mem_filter.mpr ⟨inside, ?_⟩, rfl⟩
    have other : x.name ≠ e.name := fun same =>
      differs (by rw [List.inj_on_of_nodup_map names inside entry same])
    simpa using other

/-- The books of a registry that forgets an entry, with no client being added, once the client
of that entry has ended its watch. -/
theorem Registry.Watched.forget {r : Registry} {S : List Frame} {h h' : World} {e : RegistryEntry}
    (watched : r.Watched S h) (settled : Frame.enrollees S = []) (entry : e ∈ r.entries)
    (size : h'.clients.size = h.clients.size)
    (nameWatch : ∀ c, (h'.clients.getD c default).nameWatch =
      if c = e.client then none else (h.clients.getD c default).nameWatch)
    (watching : ∀ id l, h'.bus.Watching id l ↔
      h.bus.Watching id l ∧ (h.clients.getD e.client default).nameWatch ≠ some id) :
    ({ r with entries := r.entries.filter (·.name != e.name) } : Registry).Watched S h' := by
  have member := fun c => mem_forget watched.names watched.clients entry (c := c)
  have other : ∀ c, c ≠ e.client →
      (h'.clients.getD c default).nameWatch = (h.clients.getD c default).nameWatch :=
    fun c differs => by rw [nameWatch, if_neg differs]
  -- a subscription watched for anyone else is not the watch of the client forgotten
  have apart : ∀ id l, h.bus.Watching id l → l ≠ .client e.client →
      (h.clients.getD e.client default).nameWatch ≠ some id := fun id l watches differs same =>
    differs (watches.2.symm.trans (watched.entries e.client (List.mem_map_of_mem entry) id same).2)
  refine
    { names := watched.names.sublist (List.filter_sublist.map _)
      clients := watched.clients.sublist (List.filter_sublist.map _)
      inside := fun c kept => size ▸ watched.inside c ((member c).mp kept).1
      unstarted := watched.unstarted
      watching := watched.watching
      own := fun id owned =>
        (watching id _).mpr ⟨watched.own id owned, apart id _ (watched.own id owned) (by simp)⟩
      closed := fun shut => by simp only [watched.closed shut, List.filter_nil]
      registering := watched.registering
      entries := fun c kept id watch => ?_
      started := fun c kept fresh => ?_
      enrolling := fun c enrolling => absurd (settled ▸ enrolling) List.not_mem_nil
      enrollees := watched.enrollees
      ownOnly := fun id watches => watched.ownOnly id ((watching id _).mp watches).1
      entriesOnly := fun id c watches => ?_ }
  · obtain ⟨inside, differs⟩ := (member c).mp kept
    rw [other c differs] at watch
    have watches := watched.entries c inside id watch
    exact (watching id _).mpr ⟨watches, apart id _ watches fun same => differs (Listener.client.inj same)⟩
  · obtain ⟨inside, differs⟩ := (member c).mp kept
    rw [other c differs]
    exact watched.started c inside fresh
  · obtain ⟨old, unforgotten⟩ := (watching id _).mp watches
    obtain ⟨inside, watch⟩ := watched.entriesOnly id c old
    have differs : c ≠ e.client := fun same => unforgotten (same ▸ watch)
    exact ⟨(member c).mpr ⟨inside, differs⟩, (other c differs).trans watch⟩

/-- The registry forgets a client, with no client being added: the client's watch ends with
its entry. -/
theorem watches_registryForget {started : Bool} {S : List Frame} (settled : Frame.enrollees S = [])
    (name : String) : Keeps (World.Watches started S) (registryForget name) := by
  intro h u h' watches run
  unfold registryForget at run
  simp only [bind_ok, run_registry?, EStateM.Result.ok.injEq, exists_returned] at run
  split at run
  · rename_i r present
    split at run
    · rw [ok_pure run]
      exact watches
    · rename_i e found
      have named : e.name = name := by simpa using List.find?_some found
      subst named
      have entry : e ∈ r.entries := List.mem_of_find?_eq_some found
      simp only [bind_ok, run_modifyClient, run_modifyRegistry, EStateM.Result.ok.injEq,
        exists_returned_unit] at run
      obtain ⟨⟨⟩, h₂, disposed, rest⟩ := run
      obtain ⟨h₁, same, registry, waiters, latches, size, nameWatch, watching, only⟩ :=
        disposeClient_run disposed
      have released : h₂.SameWatches h' := by
        split at rest
        · exact stays_releaseStartupLock _ _ _ rest
        · rw [ok_pure rest]
          exact .refl _
      obtain ⟨r₀, present₀, watched⟩ := watches.registry
      rw [present, Option.some.injEq] at present₀
      subst present₀
      have unlinked := watched.transfer (h.sameWatches_clients e.client
        (fun x => { x with readyLinked := false, goneLinked := false }) fun _ => rfl) rfl
      have forgotten := unlinked.forget settled entry size nameWatch watching
      refine (World.Watches.transfer ⟨⟨_, by simp [registry, present], forgotten⟩, only watches.only,
        watches.unscripted.of_same waiters latches, watches.waiting, fun begun r' present' => ?_⟩
        same).transfer released
      simp only [registry, present, Option.map_some, Option.some.injEq] at present'
      subst present'
      exact watches.opened begun r present
  · rw [ok_pure run]
    exact watches

/-- What changes nothing the watches read keeps their books. -/
theorem World.Watches.keeps {started : Bool} {S : List Frame} {α : Type} {x : HubM α}
    (stays : Stays World.SameWatches x) : Keeps (World.Watches started S) x :=
  stays.keeps fun _ _ same watches => watches.transfer same

/-- A client gone, with no client being added: the registry, if it hears of it, forgets it. -/
theorem watches_invalidateClient {started : Bool} {S : List Frame} (settled : Frame.enrollees S = [])
    (c : Nat) (reason : String) : Keeps (World.Watches started S) (invalidateClient c reason) := by
  unfold invalidateClient
  refine Keeps.bind (World.Watches.keeps (sameWatches.of_read fun h => ⟨_, run_client c h⟩))
    fun cl => ?_
  split
  · exact Triple.of_pure
  · refine Keeps.bind (World.Watches.keeps (stays_modifyProxy _ _)) fun _ =>
      Keeps.bind (World.Watches.keeps (sameWatches.stays_closeOwner _)) fun _ =>
        Keeps.bind (World.Watches.keeps (sameWatches.of_read fun h => ⟨_, run_client c h⟩))
          fun cl' => ?_
    split
    · exact watches_registryForget settled _
    · exact Triple.of_pure

/-- A client hears that a name changed owner, with no client being added. -/
theorem watches_clientOwnerChanged {started : Bool} {S : List Frame}
    (settled : Frame.enrollees S = []) (c : Nat) (name new : String) :
    Keeps (World.Watches started S) (clientOwnerChanged c name new) := by
  unfold clientOwnerChanged
  refine Keeps.bind (World.Watches.keeps (sameWatches.of_read fun h => ⟨_, run_client c h⟩))
    fun cl => ?_
  split
  · exact Triple.of_pure
  · split
    · exact Keeps.bind (World.Watches.keeps (stays_modifyProxy _ _)) fun _ => Triple.of_pure
    · refine Keeps.bind (World.Watches.keeps (stays_modifyProxy _ _)) fun _ => ?_
      split
      · exact Triple.of_pure
      · exact watches_invalidateClient settled c _

/-! ## The registry closed -/

theorem NamesOnly.watching {b : Bus.Scripted Route Listener} (only : NamesOnly b) {id : Nat}
    {l : Listener} (watching : b.Watching id l) : l.watchesNames = true := by
  rw [← watching.2]
  exact only _ (b.isLive_inside watching.1).2

/-- Registry `r` closing: it is closed without its own watch, and what is still watched is the
watches of the clients of `rest`, those not yet disposed of. -/
structure World.Closing (r : Registry) (rest : List RegistryEntry) (h : World) : Prop where
  registry : h.registry.map Registry.watchView =
    some ({ r with closed := true, nameWatch := none } : Registry).watchView
  only : NamesOnly h.bus
  unscripted : h.Unscripted
  left : ∀ id l, h.bus.Watching id l → ∃ c ∈ rest.map (·.client), l = .client c ∧
    (h.clients.getD c default).nameWatch = some id

namespace World.Closing

variable {r : Registry} {rest : List RegistryEntry} {h h' : World}

theorem transfer (closing : h.Closing r rest) (same : h.SameWatches h') : h'.Closing r rest where
  registry := same.registry.trans closing.registry
  only := closing.only.of_subscriptions same.subscriptions
  unscripted := same.unscripted closing.unscripted
  left := fun id l watching => by
    rw [same.watching] at watching
    simp only [same.nameWatch]
    exact closing.left id l watching

/-- Disposing of the next client ends its watch. -/
theorem dispose {e : RegistryEntry} (closing : h.Closing r (e :: rest))
    (run : (disposeClient e.client).run h = .ok () h') : h'.Closing r rest := by
  obtain ⟨h₁, same, registry, waiters, latches, -, nameWatch, watching, only⟩ := disposeClient_run run
  refine transfer ⟨registry ▸ closing.registry, only closing.only,
    closing.unscripted.of_same waiters latches, fun id l watches => ?_⟩ same
  obtain ⟨old, unwatched⟩ := (watching id l).mp watches
  obtain ⟨c, member, rfl, watch⟩ := closing.left id l old
  simp only [List.map_cons, List.mem_cons] at member
  rcases member with same | later
  · exact absurd (same ▸ watch) unwatched
  · have differs : c ≠ e.client := fun same => unwatched (same ▸ watch)
    exact ⟨c, later, rfl, by rw [nameWatch, if_neg differs, watch]⟩

/-- A loop over the clients of the registry, each pass of which ends the watch of its client,
ends all their watches. -/
theorem forIn {body : RegistryEntry → PUnit → HubM (ForInStep PUnit)}
    (pass : ∀ e rest, Triple (World.Closing r (e :: rest)) (body e ⟨⟩)
      fun step h => step = .yield ⟨⟩ ∧ h.Closing r rest) :
    Triple (World.Closing r r.entries) (ForIn.forIn r.entries ⟨⟩ body) fun _ => World.Closing r [] := by
  -- the clients still watched are those after the ones disposed of
  have along := Triple.forIn_along (fun done h => h.Closing r (r.entries.drop done.length)) body []
    r.entries fun before e after split => by
      have rest : r.entries.drop before.length = e :: after := by simp [split]
      have rest' : r.entries.drop (before ++ [e]).length = after := by simp [split]
      simpa only [List.nil_append, rest, rest'] using pass e after
  simpa using along

/-- Disposing of the next client, after unlinking it, ends its watch. -/
theorem unlinkDispose (e : RegistryEntry) (rest : List RegistryEntry) :
    Triple (World.Closing r (e :: rest)) (do
        modifyClient e.client fun x => { x with readyLinked := false, goneLinked := false }
        disposeClient e.client
        Pure.pure (ForInStep.yield ⟨⟩) : HubM (ForInStep PUnit))
      fun step h => step = .yield ⟨⟩ ∧ h.Closing r rest := by
  intro h step h' closing run
  obtain ⟨⟨⟩, h₁, unlinked, run⟩ := bind_ok.mp run
  obtain ⟨⟨⟩, h₂, disposed, returned⟩ := bind_ok.mp run
  simp only [run_pure, EStateM.Result.ok.injEq] at returned
  obtain ⟨rfl, rfl⟩ := returned
  exact ⟨rfl, (closing.transfer (stays_unlink e.client h () h₁ unlinked)).dispose disposed⟩

/-- Closing an open registry: once it is marked closed and its own watch has ended, what is
watched is the watches of its clients. -/
theorem begin {started : Bool} (watches : h.Watches started []) (present : h.registry = some r)
    (registry : h'.registry = some { r with closed := true, nameWatch := none })
    (clients : h'.clients = h.clients) (waiters : h'.waiters = h.waiters)
    (latches : h'.latches = h.latches)
    (watching : ∀ id l, h'.bus.Watching id l ↔ h.bus.Watching id l ∧ r.nameWatch ≠ some id)
    (only : NamesOnly h.bus → NamesOnly h'.bus) : h'.Closing r r.entries := by
  obtain ⟨r₀, present₀, watched⟩ := watches.registry
  rw [present, Option.some.injEq] at present₀
  subst present₀
  refine ⟨by rw [registry, Option.map_some], only watches.only,
    watches.unscripted.of_same waiters latches, fun id l watches' => ?_⟩
  obtain ⟨old, unowned⟩ := (watching id l).mp watches'
  rcases Listener.watchesNames_eq_true (watches.only.watching old) with rfl | ⟨c, rfl⟩
  · exact absurd (watched.ownOnly id old) unowned
  · obtain ⟨member, watch⟩ := watched.entriesOnly id c old
    exact ⟨c, member, rfl, clients ▸ watch⟩

/-- A registry closed, with no client left watched, has no entries and nothing subscribed. -/
theorem finish {started : Bool} (closing : h.Closing r []) (begun : started = true → r.started = true) :
    World.Watches started []
      { h with registry := h.registry.map fun x => { x with entries := [], listening := false } } := by
  obtain ⟨r₁, present, view⟩ := Option.map_eq_some_iff.mp closing.registry
  obtain ⟨started₁, closed₁, nameWatch₁, -, -⟩ := Registry.watchView_eq view
  have unwatched : ∀ id l, ¬ h.bus.Watching id l := fun id l watching => by
    obtain ⟨c, member, -⟩ := closing.left id l watching
    exact List.not_mem_nil member
  refine ⟨⟨{ r₁ with entries := [], listening := false }, by rw [present, Option.map_some], ?_⟩,
    closing.only, closing.unscripted.of_same rfl rfl, fun s m o waiting => absurd waiting List.not_mem_nil,
    fun begins r' present' => ?_⟩
  · exact
      { names := List.nodup_nil
        clients := List.nodup_nil
        inside := fun c member => absurd member List.not_mem_nil
        unstarted := fun _ => nameWatch₁
        watching := fun _ open' => by
          rw [closed₁] at open'
          cases open'
        own := fun id owned => by
          rw [nameWatch₁] at owned
          cases owned
        closed := fun _ => rfl
        registering := fun registering => absurd registering List.not_mem_nil
        entries := fun c member => absurd member List.not_mem_nil
        started := fun c member => absurd member List.not_mem_nil
        enrolling := fun c enrolling => absurd enrolling List.not_mem_nil
        enrollees := List.nodup_nil
        ownOnly := fun id watching => absurd watching (unwatched id _)
        entriesOnly := fun id c watching => absurd watching (unwatched id _) }
  · rw [present, Option.map_some, Option.some.injEq] at present'
    subst present'
    exact ⟨started₁.trans (begun begins), fun _ => nameWatch₁⟩

end World.Closing

/-- The registry closes, with nothing under way: its own watch and those of all its clients
end. -/
theorem watches_closeRegistry {started : Bool} : Keeps (World.Watches started []) closeRegistry := by
  intro h u h' watches run
  unfold closeRegistry at run
  simp only [bind_ok, run_registry?, EStateM.Result.ok.injEq, exists_returned] at run
  split at run
  · rename_i r present
    split at run
    · rw [ok_pure run]
      exact watches
    · obtain ⟨⟨⟩, h₁, marked, run⟩ := bind_ok.mp run
      simp only [run_modifyRegistry, EStateM.Result.ok.injEq] at marked
      obtain ⟨-, marked⟩ := marked
      have begun : started = true → r.started = true := fun begins =>
        (watches.opened begins r present).1
      -- with or without its own watch to end, the registry then disposes of every client
      split at run
      · rename_i id own
        obtain ⟨⟨⟩, h₂, ended, run⟩ := bind_ok.mp run
        obtain ⟨b, d, unsubscribed, watching, only⟩ := unsubscribe_run ended
        have closing : h₂.Closing r r.entries := by
          subst marked unsubscribed
          exact World.Closing.begin watches present (by simp [present]) rfl rfl rfl
            (fun id' l => by rw [watching, own, ne_eq, ne_eq, Option.some.injEq, eq_comm]) only
        obtain ⟨⟨⟩, h₃, looped, cleared⟩ := bind_ok.mp run
        have closed : h₃.Closing r [] := by
          refine World.Closing.forIn (fun e rest => ?_) closing looped
          exact World.Closing.unlinkDispose e rest
        simp only [run_modifyRegistry, EStateM.Result.ok.injEq] at cleared
        obtain ⟨-, rfl⟩ := cleared
        exact closed.finish begun
      · rename_i unowned
        have closing : h₁.Closing r r.entries := by
          subst marked
          exact World.Closing.begin watches present (by simp [present]) rfl rfl rfl
            (fun id l => by simp [unowned]) fun only => only
        obtain ⟨⟨⟩, h₃, looped, cleared⟩ := bind_ok.mp run
        have closed : h₃.Closing r [] := by
          refine World.Closing.forIn (fun e rest => ?_) closing looped
          exact World.Closing.unlinkDispose e rest
        simp only [run_modifyRegistry, EStateM.Result.ok.injEq] at cleared
        obtain ⟨-, rfl⟩ := cleared
        exact closed.finish begun
  · rw [ok_pure run]
    exact watches

/-! ## What else a driven registry does -/

theorem stays_modifyAccount (a : Nat) (g : AccountObject → AccountObject) :
    Stays World.SameWatches (modifyAccount a g) :=
  Stays.of_modify fun _ => .of_same rfl rfl rfl rfl rfl

theorem stays_build (s : Subject) (d : Descriptor) (props : Option Properties) :
    Stays World.SameWatches (build s d props) := by
  unfold build
  -- a note, a proxy or an account changed, or the wrong kind of object
  split
  · exact sameWatches.bind sameWatches.stays_get fun _ => stays_anyNote _
  · exact stays_modifyProxy _ _
  · exact stays_modifyProxy _ _
  · exact stays_modifyProxy _ _
  · exact stays_modifyProxy _ _
  · exact stays_modifyAccount _ _
  · exact stays_modifyAccount _ _
  · exact Stays.of_throw _
  · exact Stays.of_throw _
  · exact Stays.of_throw _

theorem stays_absorbResult (fs : Fetch) (result : Except String (Option Properties)) :
    Stays World.SameWatches (absorbResult fs result) := by
  cases result with
  | ok props => exact stays_build _ _ _
  | error e => exact sameWatches.bind sameWatches.stays_get fun _ => stays_anyNote _

theorem stays_applyAccountChange (a : Nat) (body : List Value) :
    Stays World.SameWatches (applyAccountChange a body) := by
  unfold applyAccountChange
  split
  · exact stays_modifyAccount _ _
  · exact sameWatches.pure _

/-- Recording a call or marking one answered changes only the calls on the bus. -/
theorem World.sameWatches_calls (h : World) (calls : Array (Bus.Call Route)) :
    h.SameWatches { h with bus := { h.bus with calls } } :=
  .of_same rfl rfl rfl rfl rfl

/-- A watch of an interface of a client only notes that it began. -/
theorem watches_watch {started : Bool} {S : List Frame} (c : Nat) (iface : String) (k : Watcher) :
    Keeps (World.Watches started S) (watch (.client c) iface k) := by
  cases k with
  | record => exact World.Watches.keeps (sameWatches.bind sameWatches.stays_get fun _ => stays_anyNote _)
  | account => exact World.Watches.keeps (Stays.of_throw _)

/-- A new waiter that runs no session's steps. -/
theorem World.Watches.newWaiter {started : Bool} {S : List Frame} {wt : Waiter}
    (unscripted : ∀ r, wt.reaction = some r → r.isScript = false) :
    Keeps (World.Watches started S) (Hub.newWaiter wt) := by
  intro h w h' watches run
  simp only [run_newWaiter, EStateM.Result.ok.injEq] at run
  obtain ⟨-, rfl⟩ := run
  refine watches.transfer ⟨rfl, rfl, rfl, fun _ => rfl, fun old => ⟨fun w' r reacts => ?_, old.latches⟩⟩
  rw [getD_push] at reacts
  split at reacts
  · exact unscripted r reacts
  · exact old.waiters w' r reacts

/-- A new latch whose finale runs no session's steps. -/
theorem World.Watches.newLatch {started : Bool} {S : List Frame} {l : Latch}
    (unscripted : l.finale.isScript = false) :
    Triple (World.Watches started S) (Hub.newLatch l) fun _ => World.Watches started S := by
  intro h m h' watches run
  simp only [run_newLatch, EStateM.Result.ok.injEq] at run
  obtain ⟨-, rfl⟩ := run
  refine watches.transfer ⟨rfl, rfl, rfl, fun _ => rfl, fun old => ⟨old.waiters, fun m' => ?_⟩⟩
  rw [getD_push]
  split
  · exact unscripted
  · exact old.latches m'

/-- The steps that drive a registry. -/
theorem Step.drives_cases {step : Step} (drives : step.drivesRegistry = true) :
    step = .start ∨ step = .close ∨ (∃ pick answer, step = .reply pick answer) ∨
      (∃ dest table failure, step = .respond dest table failure) ∨
      (∃ method answer, step = .respondNames method answer) ∨ (∃ sig, step = .emit sig) ∨
      ∃ name old new, step = .ownerChanged name old new := by
  cases step <;> simp_all [Step.drivesRegistry]

/-- A step that drives the registry and never calls back keeps the books, with nothing under
way: it answers that it needs the interpreter, sets a responder, or closes the registry. -/
theorem watches_plain {started : Bool} {step : Step} (drives : step.drivesRegistry = true) :
    Keeps (World.Watches started []) (performPlain step) := by
  have needs : ∀ x : Step, performPlain x = pure (Request.badInput "step needs the interpreter") →
      Keeps (World.Watches started []) (performPlain x) := fun x answered => answered ▸ Triple.of_pure
  rcases Step.drives_cases drives with rfl | rfl | ⟨pick, answer, rfl⟩ | ⟨dest, table, failure, rfl⟩ |
    ⟨method, answer, rfl⟩ | ⟨sig, rfl⟩ | ⟨name, old, new, rfl⟩
  · exact needs _ rfl
  · exact Keeps.bind (World.Watches.keeps sameWatches.stays_theRegistry) fun _ =>
      Keeps.bind watches_closeRegistry fun _ => Triple.of_pure
  · exact needs _ rfl
  · exact World.Watches.keeps (sameWatches.bind (Stays.of_modify fun h => .of_same rfl rfl rfl rfl rfl)
      fun _ => sameWatches.pure _)
  · exact World.Watches.keeps (sameWatches.bind (Stays.of_modify fun h => .of_same rfl rfl rfl rfl rfl)
      fun _ => sameWatches.pure _)
  · exact needs _ rfl
  · exact needs _ rfl

end MissionControl.Hub
