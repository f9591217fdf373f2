import MissionControl.Proofs.Hub.Settling

/-!
# Fetches and their requests

A waiter that finds its interface neither determined nor in progress starts a fetch: the fetch
is added, the status of its object names it, the waiter is registered on it, and its request
is recorded on the bus. A waiter that finds a fetch in progress joins it instead. When the
request is answered, the fetch fans out to its waiters.

This module proves that each of these steps keeps the books balanced. A fetch just started is
in progress, not disposed of and not yet asked for (`World.Unasked`); recording its request
keeps every fetch to one request (`record_balanced`), and answering a request starts the fan-out
of its fetch, for which no other fan-out is under way (`answer_balanced`).
-/

set_option autoImplicit false

namespace MissionControl.Hub

open Readiness

namespace World

/-- Fetch `f` is in progress, not disposed of, and has no request on the bus yet. -/
def Unasked (h : World) (f : Nat) : Prop :=
  f < h.fetches.size ∧ (h.fetches.getD f default).disposed = false ∧ h.Holding f ∧
    ∀ i < h.bus.calls.size, (h.bus.calls.getD i default).route ≠ .fetch f

theorem getD_modify_self {α : Type} [Inhabited α] {a : Array α} {i : Nat} (g : α → α)
    (inside : i < a.size) : (a.modify i g).getD i default = g (a.getD i default) := by
  rw [getD_modify, if_pos ⟨rfl, inside⟩]

/-! ## Registering a waiter -/

section Register

variable {h₀ h : World} {S : List Frame} {f w : Nat} {owners : Array Owner}

/-- The world with waiter `w` registered on fetch `f`, and with the owners `owners`. -/
abbrev registered (h : World) (f w : Nat) (owners : Array Owner) : World :=
  { h with
    waiters := h.waiters.modify w fun x => { x with fetch := some f }
    fetches := h.fetches.modify f fun x => { x with waiters := x.waiters.push w }
    owners }

/-- Registering a fresh waiter on a fetch in progress, with its owner tracking it, keeps the
books balanced.

Proof: nothing the books read of fetches and statuses changes. The waiter becomes registered on
a live fetch that lists it; every other waiter stays registered as it was. The owner of the
waiter, and only it, now tracks it once: it did not before, since the waiter was registered on
no fetch. -/
theorem Balanced.register (balanced : Balanced h₀ S h) (holding : h.Holding f) (fresh : h.Fresh w)
    (size : owners.size = h.owners.size)
    (listed : ∀ o, (owners.getD o default).waiters =
      if (h.waiters.getD w default).owner = some o then (h.owners.getD o default).waiters ++ [w]
      else (h.owners.getD o default).waiters) :
    Balanced h₀ S (h.registered f w owners) := by
  obtain ⟨newest, unattached, pending, unfinished, -⟩ := fresh
  have inside : w < h.waiters.size := by omega
  have lt := balanced.books.statuses.lt_of_holding holding
  let h' := h.registered f w owners
  -- every waiter is as it was, save that `w` is now registered on `f`
  have reading : ∀ w', h'.waiters.getD w' default =
      if w' = w then { h.waiters.getD w default with fetch := some f } else h.waiters.getD w' default := by
    intro w'
    by_cases same : w' = w
    · subst same
      rw [if_pos rfl]
      exact getD_modify_self _ inside
    · rw [if_neg same]
      exact getD_modify_ne _ _ same
  have keeps : ∀ {β : Type} (field : Waiter → β), (∀ x : Waiter, field { x with fetch := some f } = field x) →
      ∀ w', field (h'.waiters.getD w' default) = field (h.waiters.getD w' default) := by
    intro β field kept w'
    by_cases same : w' = w
    · rw [reading, if_pos same, kept, same]
    · rw [reading, if_neg same]
  have steady : h.Steady h' :=
    { (Alike.refl h).toSteady with
      reaction := keeps Waiter.reaction fun _ => rfl
      owner := keeps Waiter.owner fun _ => rfl
      ownerCount := size
      fetchCount := Array.size_modify ..
      subject := fun _ => getD_modify_of_keeps _ _ _ _ Fetch.subject fun _ => rfl
      descriptor := fun _ => getD_modify_of_keeps _ _ _ _ Fetch.descriptor fun _ => rfl
      disposed := fun _ => getD_modify_of_keeps _ _ _ _ Fetch.disposed fun _ => rfl }
  -- a fetch lists every waiter it listed, and `f` lists `w` too
  have lists : ∀ g w', w' ∈ (h.fetches.getD g default).waiters ∨ (g = f ∧ w' = w) →
      w' ∈ (h'.fetches.getD g default).waiters := by
    intro g w' was
    show w' ∈ ((h.fetches.modify f fun x => { x with waiters := x.waiters.push w }).getD g
      default).waiters
    rw [getD_modify]
    split
    · rename_i same
      rcases was with old | ⟨-, rfl⟩
      · exact Array.mem_push_of_mem _ old
      · exact Array.mem_push_self
    · rename_i other
      rcases was with old | ⟨rfl, -⟩
      · exact old
      · exact absurd ⟨rfl, lt⟩ other
  have registered' : h'.Registered h'.Holding := by
    intro w' g attached
    rw [steady.holding]
    by_cases same : w' = w
    · subst same
      rw [reading, if_pos rfl] at attached ⊢
      cases attached
      exact ⟨holding, lists _ _ (.inr ⟨rfl, rfl⟩), pending, unfinished⟩
    · rw [reading, if_neg same] at attached ⊢
      obtain ⟨live, listed', pending', unfinished'⟩ := balanced.books.registered w' g attached
      exact ⟨live, lists _ _ (.inl listed'), pending', unfinished'⟩
  refine ⟨?_, fun o => ?_, ?_, steady.remembers balanced.remembers⟩
  · rw [steady.holding] at registered' ⊢
    exact steady.books balanced.books registered'
  · -- the owner of `w` tracks it, once; no other owner does
    obtain ⟨nodup, tracked⟩ := balanced.tracks o
    simp only [List.nil_append] at nodup tracked ⊢
    have untracked : w ∉ (h.owners.getD o default).waiters := fun mem => by
      have attached := ((tracked w).1 mem).2
      rw [unattached] at attached
      cases attached
    show (owners.getD o default).waiters.Nodup ∧ ∀ w', w' ∈ (owners.getD o default).waiters ↔ _
    by_cases mine : (h.waiters.getD w default).owner = some o
    · rw [listed o, if_pos mine]
      refine ⟨List.nodup_append.mpr ⟨nodup, List.pairwise_singleton _ w, ?_⟩, fun w' => ?_⟩
      · intro a listed' b single same
        rw [List.mem_singleton.mp single] at same
        exact untracked (same ▸ listed')
      by_cases same : w' = w
      · rw [same, reading, if_pos rfl, List.mem_append, List.mem_singleton]
        exact iff_of_true (.inr rfl) ⟨mine, rfl⟩
      · rw [reading, if_neg same, List.mem_append, List.mem_singleton, or_iff_left same]
        exact tracked w'
    · rw [listed o, if_neg mine]
      refine ⟨nodup, fun w' => ?_⟩
      by_cases same : w' = w
      · rw [same, reading, if_pos rfl]
        exact iff_of_false untracked fun attached => mine attached.1
      · rw [reading, if_neg same]
        exact tracked w'
  · rw [steady.holding]
    exact steady.fanning balanced.fanning

end Register

/-- A fetch in progress is the one its status names. -/
theorem Statuses.holding_of_fetching {h : World} (statuses : h.Statuses) {s : Subject}
    {iface : String} {f : Nat} (fetching : (h.status s).fetching? iface = some f) : h.Holding f := by
  obtain ⟨-, owned, named, -⟩ := (statuses s).2.1 iface f (mem_of_lookup fetching)
  simpa only [Holding, owned, named] using fetching

/-- Registering a waiter changes nothing the books read but registrations. -/
theorem attach_steady {f w : Nat} {o : Option Nat} {h h' : World} {u : Unit}
    (run : (attach f w o).run h = .ok u h') : h.Steady h' := by
  simp only [attach, bind_ok, run_modifyWaiter, run_modifyFetch, EStateM.Result.ok.injEq,
    exists_returned_unit] at run
  have keeps : ∀ {β : Type} (field : Waiter → β), (∀ x : Waiter, field { x with fetch := some f } = field x) →
      ∀ w', field ((h.waiters.modify w fun x => { x with fetch := some f }).getD w' default) =
        field (h.waiters.getD w' default) :=
    fun field kept w' => getD_modify_of_keeps _ _ _ _ field kept
  have steady : h.Steady { h with
      waiters := h.waiters.modify w fun x => { x with fetch := some f }
      fetches := h.fetches.modify f fun x => { x with waiters := x.waiters.push w } } :=
    { (Alike.refl h).toSteady with
      reaction := keeps Waiter.reaction fun _ => rfl
      owner := keeps Waiter.owner fun _ => rfl
      fetchCount := Array.size_modify ..
      subject := fun _ => getD_modify_of_keeps _ _ _ _ Fetch.subject fun _ => rfl
      descriptor := fun _ => getD_modify_of_keeps _ _ _ _ Fetch.descriptor fun _ => rfl
      disposed := fun _ => getD_modify_of_keeps _ _ _ _ Fetch.disposed fun _ => rfl }
  cases o with
  | none =>
    rw [ok_pure run]
    exact steady
  | some x =>
    simp only [run_modifyOwner, EStateM.Result.ok.injEq] at run
    rw [← run.2]
    exact { steady with ownerCount := (Array.size_modify ..).trans steady.ownerCount }

/-- A waiter joining a fetch in progress keeps the books balanced. -/
theorem attach_balanced (h₀ : World) (S : List Frame) (f w : Nat) (o : Option Nat) :
    Triple (fun h => Balanced h₀ S h ∧ h.Holding f ∧ h.Fresh w ∧
        (h.waiters.getD w default).owner = o)
      (attach f w o) fun _ => Balanced h₀ S := by
  intro h u h' ⟨balanced, holding, fresh, owned⟩ run
  simp only [attach, bind_ok, run_modifyWaiter, run_modifyFetch, EStateM.Result.ok.injEq,
    exists_returned_unit] at run
  cases o with
  | none =>
    rw [ok_pure run]
    exact balanced.register holding fresh rfl fun o => by
      rw [owned, if_neg (Option.some_ne_none _).symm]
  | some x =>
    simp only [run_modifyOwner, EStateM.Result.ok.injEq] at run
    obtain ⟨-, rfl⟩ := run
    have valid : x < h.owners.size := balanced.books.inRange.waiterOwner w x owned
    refine balanced.register holding fresh (Array.size_modify ..) fun o => ?_
    rw [owned]
    by_cases same : x = o
    · subst same
      rw [if_pos rfl, getD_modify_self _ valid]
      rfl
    · rw [if_neg fun named => same (Option.some.inj named), getD_modify_ne _ _ (Ne.symm same)]

/-! ## Starting a fetch -/

theorem fetching?_start {st : Status} {name : String} (idle : st.fetching? name = none) (f : Nat)
    (iface : String) :
    (st.start name f).fetching? iface = if iface = name then some f else st.fetching? iface := by
  simp only [Status.start, Status.fetching?, List.lookup_append] at idle ⊢
  by_cases same : iface = name
  · subst same
    simp [idle, List.lookup]
  · have other : (iface == name) = false := by simp [same]
    simp [same, List.lookup, other]

/-- The world with a fetch of interface `d` of `s` added, and in progress. -/
abbrev started (h : World) (s : Subject) (d : Descriptor) : World :=
  ({ h with fetches := h.fetches.push { subject := s, descriptor := d } } : World).setStatus s
    ((h.status s).start d.name h.fetches.size)

section Start

variable {h₀ h : World} {S : List Frame} {s : Subject} {d : Descriptor}

theorem started_fetch (g : Nat) : (h.started s d).fetches.getD g default =
    if g = h.fetches.size then { subject := s, descriptor := d } else h.fetches.getD g default := by
  rw [setStatus_fetches]
  exact getD_push _ _ _

theorem started_fetch_old {g : Nat} (old : g < h.fetches.size) :
    (h.started s d).fetches.getD g default = h.fetches.getD g default := by
  rw [started_fetch, if_neg (Nat.ne_of_lt old)]

theorem started_has {s' : Subject} : (h.started s d).Has s' ↔ h.Has s' := has_setStatus

theorem started_status_self (has : h.Has s) :
    (h.started s d).status s = (h.status s).start d.name h.fetches.size :=
  status_setStatus_self _ has

theorem started_status_ne {s' : Subject} (other : s' ≠ s) : (h.started s d).status s' = h.status s' :=
  status_setStatus_of_ne _ other

/-- Starting a fetch determines nothing. -/
theorem started_ready (s' : Subject) : ((h.started s d).status s').ready = (h.status s').ready := by
  by_cases same : s' = s
  · subst same
    by_cases has : h.Has s'
    · rw [started_status_self has]
      rfl
    · have missing : ¬(h.started s' d).Has s' := fun has' => has (started_has.mp has')
      rw [status_of_not_has missing, status_of_not_has has]
  · rw [started_status_ne same]

section Fresh

variable (has : h.Has s) (idle : (h.status s).fetching? d.name = none)
include has idle

/-- The fetch started is in progress. -/
theorem started_holding_new : (h.started s d).Holding h.fetches.size := by
  unfold Holding
  rw [started_fetch, if_pos rfl]
  dsimp only
  rw [started_status_self has, fetching?_start idle, if_pos rfl]

/-- Every fetch of the world before is in progress after exactly when it was before. -/
theorem started_holding {g : Nat} (old : g < h.fetches.size) :
    (h.started s d).Holding g ↔ h.Holding g := by
  simp only [Holding, started_fetch_old old]
  by_cases owned : (h.fetches.getD g default).subject = s
  · rw [owned, started_status_self has, fetching?_start idle]
    by_cases named : (h.fetches.getD g default).descriptor.name = d.name
    · rw [if_pos named, named, idle]
      exact iff_of_false (fun same => Nat.ne_of_lt old (Option.some.inj same).symm)
        (Option.some_ne_none g).symm
    · rw [if_neg named]
  · rw [started_status_ne owned]

end Fresh

/-- Starting a fetch of an interface of an object the world has, neither in progress nor
determined, keeps the books balanced, and the fetch started is unasked.

Proof: the new fetch is the one in progress for its interface, which no fetch was before, and
the interface stays undetermined; every other fetch keeps what the books say of it. No request
names the new fetch, since every request names a fetch the world had. -/
theorem Balanced.started (balanced : Balanced h₀ S h) (has : h.Has s)
    (idle : (h.status s).fetching? d.name = none) (fresh : (h.status s).isReady d.name = false) :
    Balanced h₀ S (h.started s d) ∧ (h.started s d).Unasked h.fetches.size := by
  have books := balanced.books
  have count : (h.started s d).fetches.size = h.fetches.size + 1 := by simp
  have live : ∀ g, h.Holding g → (h.started s d).Holding g := fun g holding =>
    (started_holding has idle (books.statuses.lt_of_holding holding)).2 holding
  -- every request names a fetch of the world before
  have asked : ∀ i < h.bus.calls.size, ∀ g, (h.bus.calls.getD i default).route = .fetch g →
      g < h.fetches.size := fun i inside g routed => (books.requests i inside g routed).1
  have restated := Restated.setStatus { h with fetches := h.fetches.push { subject := s, descriptor := d } }
    s ((h.status s).start d.name h.fetches.size)
  have statuses : (h.started s d).Statuses := by
    intro s'
    by_cases same : s' = s
    · subst same
      obtain ⟨keys, entries, exclusive⟩ := books.statuses s'
      rw [started_status_self has]
      refine ⟨?_, fun iface g listed => ?_, fun iface ready => ?_⟩
      · simp only [Status.start, List.map_append, List.map_cons, List.map_nil]
        refine List.nodup_append.mpr ⟨keys, List.pairwise_singleton _ _, ?_⟩
        intro iface listed name single same
        rw [List.mem_singleton.mp single] at same
        obtain ⟨⟨k, g⟩, entry, rfl⟩ := List.mem_map.mp listed
        have unlisted := List.lookup_eq_none_iff.mp idle (k, g) entry
        simp only [bne_iff_ne, ne_eq] at unlisted
        exact unlisted same.symm
      · rcases List.mem_append.mp listed with old | new
        · obtain ⟨inside, owned, named, pending⟩ := entries iface g old
          rw [count, started_fetch_old inside]
          exact ⟨by omega, owned, named, pending⟩
        · obtain ⟨rfl, rfl⟩ := List.mem_singleton.mp new
          rw [count, started_fetch, if_pos rfl]
          exact ⟨by omega, rfl, rfl, rfl⟩
      · have other : iface ≠ d.name := fun named => by
          have determined : (h.status s').isReady d.name = true := named ▸ ready
          rw [fresh] at determined
          cases determined
        rw [fetching?_start idle, if_neg other]
        exact exclusive iface ready
    · obtain ⟨keys, entries, exclusive⟩ := books.statuses s'
      rw [started_status_ne same]
      refine ⟨keys, fun iface g listed => ?_, exclusive⟩
      obtain ⟨inside, rest⟩ := entries iface g listed
      rw [count, started_fetch_old inside]
      exact ⟨by omega, rest⟩
  have settles : (h.started s d).Settles (h.started s d).Holding := by
    intro g inside pending
    rw [count] at inside
    by_cases new : g = h.fetches.size
    · exact .inl (new ▸ started_holding_new has idle)
    · have old : g < h.fetches.size := by omega
      rw [started_fetch_old old] at pending ⊢
      rcases books.settles g old pending with holding | ready
      · exact .inl (live g holding)
      · right
        rwa [(determined_of_ready (started_ready _) _).1]
  have unique : (h.started s d).Unique := by
    -- an old fetch of the interface would be in progress or have determined it
    have clash : ∀ g, g < h.fetches.size → (h.fetches.getD g default).disposed = false →
        (h.fetches.getD g default).subject = s → (h.fetches.getD g default).descriptor.name = d.name →
        False := by
      intro g old pending owned named
      rcases books.settles g old pending with holding | ready
      · simp only [Holding, owned, named, idle] at holding
        cases holding
      · rw [owned, named, fresh] at ready
        cases ready
    intro g g' inside inside' pending pending' owned named
    rw [count] at inside inside'
    by_cases new : g = h.fetches.size <;> by_cases new' : g' = h.fetches.size
    · rw [new, new']
    · have old' : g' < h.fetches.size := by omega
      rw [started_fetch g, if_pos new, started_fetch_old old'] at owned named
      rw [started_fetch_old old'] at pending'
      exact (clash g' old' pending' owned.symm named.symm).elim
    · have old : g < h.fetches.size := by omega
      rw [started_fetch g', if_pos new', started_fetch_old old] at owned named
      rw [started_fetch_old old] at pending
      exact (clash g old pending owned named).elim
    · have old : g < h.fetches.size := by omega
      have old' : g' < h.fetches.size := by omega
      rw [started_fetch_old old, started_fetch_old old'] at owned named
      rw [started_fetch_old old] at pending
      rw [started_fetch_old old'] at pending'
      exact books.unique g g' old old' pending pending' owned named
  refine ⟨⟨⟨restated.inRange { books.inRange with }, fun w g attached => ?_, statuses, settles, unique,
      fun i inside g routed => ?_⟩, ?_, ⟨balanced.fanning.distinct, fun g fans => ?_,
      fun i inside g routed answered pending holding => ?_, fun s' m o waits => ?_⟩,
      fun s' iface ready => ?_⟩, ?_⟩
  · -- registrations name old fetches
    rw [setStatus_waiters] at attached ⊢
    obtain ⟨holding, listed, pending, unfinished⟩ := books.registered w g attached
    rw [started_fetch_old (books.statuses.lt_of_holding holding)]
    exact ⟨live g holding, listed, pending, unfinished⟩
  · rw [setStatus_bus] at inside routed ⊢
    obtain ⟨old, once, pending⟩ := books.requests i inside g routed
    rw [count, started_fetch_old old]
    exact ⟨by omega, once, fun unanswered undisposed => live g (pending unanswered undisposed)⟩
  · simpa only [Tracks, setStatus_waiters, setStatus_owners] using balanced.tracks
  · obtain ⟨disposed, i, inside, routed, answered⟩ := balanced.fanning.fanned g fans
    rw [started_fetch_old (asked i inside g routed), setStatus_bus]
    exact ⟨disposed.imp_right (live g), i, inside, routed, answered⟩
  · rw [setStatus_bus] at inside routed answered
    have old := asked i inside g routed
    rw [started_fetch_old old] at pending
    exact balanced.fanning.answered i inside g routed answered pending
      ((started_holding has idle old).1 holding)
  · rw [started_has, setStatus_owners]
    exact balanced.fanning.waiting s' m o waits
  · obtain ⟨still, same⟩ := balanced.remembers s' iface ready
    rw [(determined_of_ready (started_ready s') iface).1, (determined_of_ready (started_ready s') iface).2]
    exact ⟨still, same⟩
  · refine ⟨by omega, ?_, started_holding_new has idle, fun i inside routed => ?_⟩
    · rw [started_fetch, if_pos rfl]
    · rw [setStatus_bus] at inside routed
      exact Nat.lt_irrefl _ (asked i inside _ routed)

end Start

/-- The operations under way are as good as others with the same fan-outs and waits. -/
theorem Fanning.of_frames {h : World} {S S' : List Frame} {live : Nat → Prop}
    (fanning : h.Fanning S live) (fans : S'.filterMap Frame.fanning = S.filterMap Frame.fanning)
    (waits : ∀ s m o, Frame.waiting s m o ∈ S' → Frame.waiting s m o ∈ S) : h.Fanning S' live where
  distinct := fans ▸ fanning.distinct
  fanned := fans ▸ fanning.fanned
  answered := fans ▸ fanning.answered
  waiting s m o waiting := fanning.waiting s m o (waits s m o waiting)

/-- Asking for the activatable names ends the reading of the names, which fans nothing out. -/
theorem onCall_fanning (route : Route) (S : List Frame) :
    (Frame.onCall route S).filterMap Frame.fanning = S.filterMap Frame.fanning ∧
      ∀ s m o, Frame.waiting s m o ∈ Frame.onCall route S → Frame.waiting s m o ∈ S := by
  unfold Frame.onCall
  split
  · exact ⟨rfl, fun s m o waiting => List.mem_cons_of_mem _ waiting⟩
  · exact ⟨rfl, fun _ _ _ waiting => waiting⟩

/-- An answer other than one to a fetch starts no fan-out. -/
theorem onReply_fanning {route : Route} (other : ∀ f, route ≠ .fetch f) (S : List Frame) :
    (Frame.onReply route S).filterMap Frame.fanning = S.filterMap Frame.fanning ∧
      ∀ s m o, Frame.waiting s m o ∈ Frame.onReply route S → Frame.waiting s m o ∈ S := by
  cases route with
  | fetch f => exact absurd rfl (other f)
  | names | activatableNames =>
    exact ⟨rfl, fun s m o waiting => by simpa [Frame.onReply] using waiting⟩
  | avatar _ | tapCall | tapProperties | tapNames => exact ⟨rfl, fun _ _ _ waiting => waiting⟩

/-! ## Recording and answering requests -/

/-- Recording a call keeps the books balanced when a call for a fetch is for an unasked one.

Proof: only the requests change, by one more, not answered. A request for a fetch was for an
unasked fetch, so it is the only one for it and the fetch is in progress; no earlier request is
for that fetch. -/
theorem Balanced.record {h₀ h : World} {S : List Frame} {dest path method : String}
    {args : List Value} {route : Route} (balanced : Balanced h₀ S h)
    (asks : ∀ f, route = .fetch f → h.Unasked f) :
    Balanced h₀ (Frame.onCall route S) { h with bus := (h.bus.record dest path method args route).1 } := by
  let h' : World := { h with bus := (h.bus.record dest path method args route).1 }
  have books := balanced.books
  have count : h'.bus.calls.size = h.bus.calls.size + 1 := Array.size_push ..
  have reading : ∀ j, h'.bus.calls.getD j default = if j = h.bus.calls.size then
      { dest, path, method, args, route } else h.bus.calls.getD j default := fun j => getD_push ..
  have old : ∀ j < h.bus.calls.size, h'.bus.calls.getD j default = h.bus.calls.getD j default :=
    fun j inside => by rw [reading, if_neg (Nat.ne_of_lt inside)]
  have requests : h'.Requests h'.Holding := by
    intro i inside f routed
    rw [count] at inside
    by_cases new : i = h.bus.calls.size
    · rw [reading, if_pos new] at routed ⊢
      obtain ⟨lt, -, holding, unrouted⟩ := asks f routed
      refine ⟨lt, fun j within routed' => ?_, fun _ _ => holding⟩
      by_cases new' : j = h.bus.calls.size
      · rw [new, new']
      · rw [reading, if_neg new'] at routed'
        exact absurd routed' (unrouted j (by omega))
    · have inside' : i < h.bus.calls.size := by omega
      rw [old i inside'] at routed ⊢
      obtain ⟨lt, once, pending⟩ := books.requests i inside' f routed
      refine ⟨lt, fun j within routed' => ?_, pending⟩
      by_cases new' : j = h.bus.calls.size
      · rw [reading, if_pos new'] at routed'
        exact absurd routed ((asks f routed').2.2.2 i inside')
      · rw [old j (by omega)] at routed'
        exact once j (by omega) routed'
  obtain ⟨fans, waits⟩ := onCall_fanning route S
  refine ⟨{ books with inRange := { books.inRange with }, requests }, balanced.tracks,
    Fanning.of_frames ⟨balanced.fanning.distinct, fun f fanned => ?_, fun i inside f routed answered => ?_,
      balanced.fanning.waiting⟩ fans waits, balanced.remembers⟩
  · obtain ⟨disposed, i, inside, routed, answered⟩ := balanced.fanning.fanned f fanned
    refine ⟨disposed, i, show i < h'.bus.calls.size by omega, ?_⟩
    rw [old i inside]
    exact ⟨routed, answered⟩
  · rw [count] at inside
    by_cases new : i = h.bus.calls.size
    · rw [reading, if_pos new] at answered
      cases answered
    · have inside' : i < h.bus.calls.size := by omega
      rw [old i inside'] at routed answered
      exact balanced.fanning.answered i inside' f routed answered

/-- Answering a request keeps the books balanced with the operation the answer starts under
way: the fan-out of its fetch, for a request for a fetch.

Proof: the request was not answered, so a fetch it is for is not fanning out already (a
fan-out is under way only after an answer, and the fetch has one request only) and is in
progress unless disposed of. -/
theorem Balanced.answer {h₀ h : World} {S : List Frame} {i : Nat} (balanced : Balanced h₀ S h)
    (inside : i < h.bus.calls.size) (unanswered : (h.bus.calls.getD i default).answered = false) :
    Balanced h₀ (Frame.onReply (h.bus.calls.getD i default).route S)
      { h with bus := h.bus.markAnswered i } := by
  let h' : World := { h with bus := h.bus.markAnswered i }
  have books := balanced.books
  have count : h'.bus.calls.size = h.bus.calls.size := Array.size_modify ..
  have route : ∀ j, (h'.bus.calls.getD j default).route = (h.bus.calls.getD j default).route :=
    fun j => getD_modify_of_keeps _ _ _ _ Bus.Call.route fun _ => rfl
  have answers : ∀ j, (h'.bus.calls.getD j default).answered = true ↔
      j = i ∨ (h.bus.calls.getD j default).answered = true := by
    intro j
    show ((h.bus.calls.modify i fun c => { c with answered := true }).getD j default).answered = true ↔ _
    rw [getD_modify]
    by_cases same : i = j
    · subst same
      simp [inside]
    · simp [same, Ne.symm same]
  have requests : h'.Requests h'.Holding := by
    intro j within f routed
    rw [count] at within
    rw [route] at routed
    obtain ⟨lt, once, pending⟩ := books.requests j within f routed
    refine ⟨lt, fun k within' routed' => once k (count ▸ within') ((route k).symm.trans routed'),
      fun unanswered' => pending ?_⟩
    cases answered : (h.bus.calls.getD j default).answered
    · rfl
    · have := (answers j).2 (.inr answered)
      rw [unanswered'] at this
      cases this
  -- the fan-outs under way stay so: their answered requests stay answered
  have fanned : ∀ f ∈ S.filterMap Frame.fanning,
      ((h'.fetches.getD f default).disposed = true ∨ h'.Holding f) ∧
      ∃ j < h'.bus.calls.size, (h'.bus.calls.getD j default).route = .fetch f ∧
        (h'.bus.calls.getD j default).answered = true := fun f fans => by
    obtain ⟨disposed, j, within, routed, answered⟩ := balanced.fanning.fanned f fans
    exact ⟨disposed, j, count ▸ within, (route j).trans routed, (answers j).2 (.inr answered)⟩
  refine ⟨{ books with inRange := { books.inRange with }, requests }, balanced.tracks, ?_,
    balanced.remembers⟩
  by_cases fetching : ∃ f, (h.bus.calls.getD i default).route = .fetch f
  · -- the fetch of the request fans out, and did not before
    obtain ⟨f, routed⟩ := fetching
    obtain ⟨-, once, pending⟩ := books.requests i inside f routed
    have fresh : f ∉ S.filterMap Frame.fanning := fun fans => by
      obtain ⟨-, j, within, routed', answered⟩ := balanced.fanning.fanned f fans
      rw [once j within routed', unanswered] at answered
      cases answered
    rw [routed]
    refine ⟨List.nodup_cons.mpr ⟨fresh, balanced.fanning.distinct⟩, fun g fans => ?_,
      fun j within g routed' answered live holding => ?_, fun s m o waits => ?_⟩
    · rcases List.mem_cons.mp fans with same | fans
      · subst same
        refine ⟨?_, i, count ▸ inside, (route i).trans routed, (answers i).2 (.inl rfl)⟩
        cases disposed : (h.fetches.getD g default).disposed
        · exact .inr (pending unanswered disposed)
        · exact .inl rfl
      · exact fanned g fans
    · rw [route] at routed'
      rcases (answers j).1 answered with same | before
      · rw [same, routed] at routed'
        cases routed'
        exact List.mem_cons_self ..
      · exact List.mem_cons_of_mem _
          (balanced.fanning.answered j (count ▸ within) g routed' before live holding)
    · have waits' : Frame.waiting s m o ∈ S := by simpa [Frame.onReply] using waits
      exact balanced.fanning.waiting s m o waits'
  · -- any other answer starts no fan-out; no answered request for a fetch is new
    have other : ∀ f, (h.bus.calls.getD i default).route ≠ .fetch f :=
      fun f routed => fetching ⟨f, routed⟩
    obtain ⟨fans, waits⟩ := onReply_fanning other S
    refine Fanning.of_frames ⟨balanced.fanning.distinct, fanned,
      fun j within g routed' answered live holding => ?_, balanced.fanning.waiting⟩ fans waits
    rw [route] at routed'
    rcases (answers j).1 answered with same | before
    · rw [same] at routed'
      exact absurd routed' (other g)
    · exact balanced.fanning.answered j (count ▸ within) g routed' before live holding

theorem Steady.unasked {h h' : World} (steady : h.Steady h') {f : Nat} (unasked : h.Unasked f) :
    h'.Unasked f := by
  obtain ⟨inside, pending, holding, unrouted⟩ := unasked
  refine ⟨steady.fetchCount ▸ inside, (steady.disposed f).trans pending, steady.holding ▸ holding, ?_⟩
  rw [steady.calls]
  exact unrouted

end World

/-- Starting a fetch for a waiter about to be registered keeps the books balanced, and the fetch
started is unasked. -/
theorem openFetch_balanced (h₀ : World) (S : List Frame) (s : Subject) (d : Descriptor) (w : Nat)
    (o : Option Nat) :
    Triple (fun h => World.Balanced h₀ S h ∧ h.Has s ∧ h.Registering s d.name w ∧
        (h.waiters.getD w default).owner = o ∧ (h.status s).fetching? d.name = none)
      (openFetch s d w o) fun f h => World.Balanced h₀ S h ∧ h.Unasked f := by
  intro h f h' ⟨balanced, has, ⟨fresh, _, _, undetermined, _⟩, owned, idle⟩ run
  simp only [openFetch, bind_ok, run_newFetch, run_modify, EStateM.Result.ok.injEq,
    exists_returned, exists_returned_unit] at run
  obtain ⟨⟨⟩, h₁, attached, returned⟩ := run
  simp only [run_pure, EStateM.Result.ok.injEq] at returned
  obtain ⟨rfl, rfl⟩ := returned
  obtain ⟨started, unasked⟩ := balanced.started has idle undetermined
  -- the waiter is as it was: starting a fetch changes no waiter
  have fresh' : (h.started s d).Fresh w := by
    simpa only [World.Fresh, World.setStatus_waiters] using fresh
  have owned' : ((h.started s d).waiters.getD w default).owner = o := by
    rw [World.setStatus_waiters]
    exact owned
  exact ⟨World.attach_balanced h₀ S _ w o ⟨started, unasked.2.2.1, fresh', owned'⟩ attached,
    (World.attach_steady attached).unasked unasked⟩

end MissionControl.Hub
