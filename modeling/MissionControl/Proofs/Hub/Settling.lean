import MissionControl.Proofs.Hub.Books

/-!
# Settling and disposing of fetches

A fetch ends in one of two ways: its object is disposed of, or its fan-out completes and the
fetch settles, determining its interface. Either way the fetch leaves its status first and
its waiters are dealt with after, one at a time. While that happens the fetch is loose: the
books balance (`World.Balancing`) once it counts as live, and it stops being loose when no
waiter is registered on it any more and it is disposed of or has determined its interface
with every request of it answered (`World.Balancing.release`).

This module proves that both ways keep the books balanced: disposing of an object's fetches
(`disposeFetches_balanced`) and settling a fetch whose fan-out has reached every waiter
(`settleFetch_balanced`), which is also where the outcome of the fetch is recorded and never
forgotten afterwards.
-/

set_option autoImplicit false

namespace MissionControl.Hub

open Readiness

/-! ## Statuses -/

namespace World

theorem status_setStatus_self {h : World} {s : Subject} (st : Status) (has : h.Has s) :
    (h.setStatus s st).status s = st := by
  cases s <;> simp only [setStatus, status] <;> rw [getD_modify, if_pos ⟨rfl, has⟩]

theorem status_setStatus_of_ne {h : World} {s s' : Subject} (st : Status) (other : s' ≠ s) :
    (h.setStatus s st).status s' = h.status s' := by
  cases s <;> cases s' <;> simp only [setStatus, status]
  all_goals
    first
    | rfl
    | rw [getD_modify_ne _ _ fun same => other (congrArg _ same)]

theorem status_of_not_has {h : World} {s : Subject} (missing : ¬h.Has s) : h.status s = {} := by
  cases s <;> simp only [Has, Nat.not_lt] at missing <;>
    simp only [status, getD_of_size_le missing] <;> rfl

@[simp] theorem has_setStatus {h : World} {s s' : Subject} {st : Status} :
    (h.setStatus s st).Has s' ↔ h.Has s' := by
  cases s <;> cases s' <;> simp [setStatus, Has]

section SetStatus

variable (h : World) (s : Subject) (st : Status)

@[simp] theorem setStatus_waiters : (h.setStatus s st).waiters = h.waiters := by cases s <;> rfl
@[simp] theorem setStatus_owners : (h.setStatus s st).owners = h.owners := by cases s <;> rfl
@[simp] theorem setStatus_fetches : (h.setStatus s st).fetches = h.fetches := by cases s <;> rfl
@[simp] theorem setStatus_bus : (h.setStatus s st).bus = h.bus := by cases s <;> rfl
@[simp] theorem setStatus_plainLabels : (h.setStatus s st).plainLabels = h.plainLabels := by
  cases s <;> rfl
@[simp] theorem setStatus_accountLabels : (h.setStatus s st).accountLabels = h.accountLabels := by
  cases s <;> rfl
@[simp] theorem setStatus_ownerLabels : (h.setStatus s st).ownerLabels = h.ownerLabels := by
  cases s <;> rfl
@[simp] theorem setStatus_clientOwner (c : Nat) :
    ((h.setStatus s st).clients.getD c default).owner = (h.clients.getD c default).owner := by
  cases s
  · rfl
  · rfl
  · exact getD_modify_of_keeps _ _ _ _ ClientObject.owner fun _ => rfl

end SetStatus

/-- Whether an interface is determined, and with what outcome, depends on the outcomes alone. -/
theorem determined_of_ready {st st' : Status} (same : st'.ready = st.ready) (iface : String) :
    st'.isReady iface = st.isReady iface ∧ st'.fetchError? iface = st.fetchError? iface := by
  simp only [Status.isReady, Status.fetchError?, same, and_self]


end World

theorem mem_of_lookup {iface : String} {f : Nat} :
    ∀ {pending : List (String × Nat)}, pending.lookup iface = some f → (iface, f) ∈ pending
  | [] => by simp [List.lookup]
  | (k, g) :: rest => by
    intro found
    simp only [List.lookup] at found
    split at found
    · rename_i same
      simp only [Option.some.injEq] at found
      subst found
      simp only [beq_iff_eq] at same
      simp [same]
    · exact List.mem_cons_of_mem _ (mem_of_lookup found)

/-- A fetch not listed by a status is not the one it has in progress. -/
theorem lookup_of_forall_ne {iface : String} {f : Nat} {pending : List (String × Nat)}
    (unlisted : ∀ iface', (iface', f) ∉ pending) : pending.lookup iface ≠ some f :=
  fun found => unlisted iface (mem_of_lookup found)

/-- Dropping the entries of one key from an association list hides that key only. -/
theorem lookup_filter_key (pending : List (String × Nat)) (name iface : String) :
    (pending.filter (·.1 != name)).lookup iface =
      if iface = name then none else pending.lookup iface := by
  induction pending with
  | nil => split <;> rfl
  | cons p rest ih =>
    obtain ⟨k, g⟩ := p
    by_cases kept : k = name
    · have dropped : ((k, g) :: rest).filter (·.1 != name) = rest.filter (·.1 != name) := by
        simp [kept]
      rw [dropped, ih]
      by_cases named : iface = name
      · simp [named]
      · have other : (iface == k) = false := by simp [kept, named]
        simp [named, List.lookup_cons, other]
    · have held : ((k, g) :: rest).filter (·.1 != name) = (k, g) :: rest.filter (·.1 != name) := by
        simp [kept]
      rw [held, List.lookup_cons, List.lookup_cons, ih]
      cases key : iface == k
      · rfl
      · have named : iface ≠ name := by
          rw [beq_iff_eq] at key
          rwa [key]
        simp [named]

theorem fetching?_markReady (st : Status) (name iface : String) (err : Option String) :
    (st.markReady name err).fetching? iface = if iface = name then none else st.fetching? iface :=
  lookup_filter_key st.pending name iface

section Fresh

/-! Determining an interface that was not determined adds its outcome and changes no other. -/

variable {st : Status} {name : String} (fresh : st.isReady name = false) (err : Option String)
include fresh

theorem markReady_ready : (st.markReady name err).ready = st.ready ++ [(name, err)] := by
  simp [Status.markReady, fresh]

theorem isReady_markReady (iface : String) :
    (st.markReady name err).isReady iface = (st.isReady iface || name == iface) := by
  simp [Status.isReady, markReady_ready fresh]

theorem fetchError?_markReady {iface : String} (ready : st.isReady iface = true) :
    (st.markReady name err).fetchError? iface = st.fetchError? iface := by
  have found : st.ready.lookup iface ≠ none := by
    rw [ne_eq, List.lookup_eq_none_iff]
    intro unfound
    simp only [Status.isReady, List.any_eq_true] at ready
    obtain ⟨p, listed, named⟩ := ready
    have := unfound p listed
    simp_all
  obtain ⟨e, found⟩ := Option.ne_none_iff_exists'.mp found
  simp [Status.fetchError?, markReady_ready fresh, List.lookup_append, found]

end Fresh

/-- An interface is determined once its fetch settles, whether or not it was before. -/
theorem isReady_markReady_self (st : Status) (name : String) (err : Option String) :
    (st.markReady name err).isReady name = true := by
  cases ready : st.isReady name
  · rw [isReady_markReady ready]
    simp
  · have kept : (st.markReady name err).ready =
        st.ready.map fun e => if e.1 == name then (name, err) else e := by
      simp [Status.markReady, ready]
    obtain ⟨e, listed, named⟩ := List.any_eq_true.mp ready
    refine List.any_eq_true.mpr ⟨(name, err), ?_, by simp⟩
    rw [kept, List.mem_map]
    exact ⟨e, listed, by simp [named]⟩

namespace World

/-- The books while the fetches of `loose` are being dealt with: they balance once those count
as live, every owner tracks its registered waiters, and every outcome of `h₀` is remembered. -/
structure Balancing (h₀ : World) (S : List Frame) (loose : List Nat) (h : World) : Prop where
  books : h.Books fun f => h.Holding f ∨ f ∈ loose
  tracks : h.Tracks fun _ => []
  fanning : h.Fanning S fun f => h.Holding f ∨ f ∈ loose
  remembers : h.Remembers h₀

theorem live_nil (h : World) : (fun f => h.Holding f ∨ f ∈ ([] : List Nat)) = h.Holding := by
  funext f
  simp

theorem Balanced.balancing {h₀ h : World} {S : List Frame} (balanced : Balanced h₀ S h) :
    Balancing h₀ S [] h := by
  refine ⟨?_, balanced.tracks, ?_, balanced.remembers⟩ <;> rw [live_nil]
  · exact balanced.books
  · exact balanced.fanning

theorem Balancing.balanced {h₀ h : World} {S : List Frame} (balancing : Balancing h₀ S [] h) :
    Balanced h₀ S h := by
  have books := balancing.books
  have fanning := balancing.fanning
  rw [live_nil] at books fanning
  exact ⟨books, balancing.tracks, fanning, balancing.remembers⟩

/-- Taking a waiter off its fetch keeps the books balancing. -/
theorem Detached.balancing {h₀ h h' : World} {S : List Frame} {loose : List Nat} {w : Nat}
    (detached : h.Detached h' w) (balancing : Balancing h₀ S loose h)
    (tracks : h'.Tracks fun _ => []) : Balancing h₀ S loose h' where
  books := by
    rw [detached.holding]
    exact detached.books balancing.books (detached.registered balancing.books.registered)
  tracks := tracks
  fanning := by
    rw [detached.holding]
    exact detached.fanning balancing.fanning
  remembers := detached.remembers balancing.remembers

end World

/-- Finishing a waiter keeps the books balancing. -/
theorem finish_balancing (h₀ : World) (S : List Frame) (loose : List Nat) (w : Nat) :
    Keeps (World.Balancing h₀ S loose) (finish w) := by
  intro h u h' balancing run
  obtain ⟨detached, owners, -⟩ := finish_detaches run
  have tracks := detached.tracks owners balancing.tracks
  simp only [List.erase_nil] at tracks
  exact detached.balancing balancing tracks

namespace World

/-- Two worlds with the same records, objects, requests and labels, whose statuses may
differ. -/
structure Restated (h h' : World) : Prop where
  waiters : h'.waiters = h.waiters
  owners : h'.owners = h.owners
  fetches : h'.fetches = h.fetches
  calls : h'.bus.calls = h.bus.calls
  has : ∀ s, h'.Has s ↔ h.Has s
  clientOwner : ∀ c, (h'.clients.getD c default).owner = (h.clients.getD c default).owner
  plainLabels : h'.plainLabels = h.plainLabels
  accountLabels : h'.accountLabels = h.accountLabels
  ownerLabels : h'.ownerLabels = h.ownerLabels

theorem Restated.setStatus (h : World) (s : Subject) (st : Status) : h.Restated (h.setStatus s st) :=
  ⟨by simp, by simp, by simp, by simp, fun _ => has_setStatus, setStatus_clientOwner h s st,
    by simp, by simp, by simp⟩

section Restated

variable {h h' : World} (restated : h.Restated h')
include restated

theorem Restated.inRange (inRange : h.InRange) : h'.InRange where
  plainLabel l i found := (restated.has _).2 (inRange.plainLabel l i (restated.plainLabels ▸ found))
  accountLabel l a found :=
    (restated.has _).2 (inRange.accountLabel l a (restated.accountLabels ▸ found))
  ownerLabel l o found := restated.owners ▸ inRange.ownerLabel l o (restated.ownerLabels ▸ found)
  clientOwner c has := by
    rw [restated.clientOwner, restated.owners]
    exact inRange.clientOwner c ((restated.has _).1 has)
  waiterOwner w o owned := by
    rw [restated.owners]
    exact inRange.waiterOwner w o (restated.waiters ▸ owned)
  waiterClient w c reacts :=
    (restated.has _).2 (inRange.waiterClient w c (restated.waiters ▸ reacts))

/-- Restating keeps the books balanced once the statuses balance, when every fetch live before
is live after. -/
theorem Restated.books {live live' : Nat → Prop} (wider : ∀ f, live f → live' f)
    (books : h.Books live) (statuses : h'.Statuses) (settles : h'.Settles live') :
    h'.Books live' where
  inRange := restated.inRange books.inRange
  registered w f attached := by
    rw [restated.waiters, restated.fetches] at *
    obtain ⟨live, listed, pending, unfinished⟩ := books.registered w f attached
    exact ⟨wider f live, listed, pending, unfinished⟩
  statuses := statuses
  settles := settles
  unique := by
    simpa only [Unique, restated.fetches] using books.unique
  requests i inside f routed := by
    rw [restated.calls, restated.fetches] at *
    obtain ⟨valid, once, pending⟩ := books.requests i inside f routed
    exact ⟨valid, once, fun unanswered live => wider f (pending unanswered live)⟩

theorem Restated.tracks {aside : Nat → List Nat} (tracks : h.Tracks aside) : h'.Tracks aside := by
  simpa only [Tracks, restated.waiters, restated.owners] using tracks

/-- Restating keeps the operations under way when every fetch live before is live after and
every fetch in progress after was in progress before. -/
theorem Restated.fanning {S : List Frame} {live live' : Nat → Prop}
    (wider : ∀ f, live f → live' f) (narrow : ∀ f, h'.Holding f → h.Holding f)
    (fanning : h.Fanning S live) : h'.Fanning S live' where
  distinct := fanning.distinct
  fanned f fans := by
    rw [restated.fetches, restated.calls]
    obtain ⟨disposed, answered⟩ := fanning.fanned f fans
    exact ⟨disposed.imp_right (wider f), answered⟩
  answered i inside f routed answered live holding := by
    rw [restated.calls, restated.fetches] at *
    exact fanning.answered i inside f routed answered live (narrow f holding)
  waiting s m o waits := by
    rw [restated.has, restated.owners]
    exact fanning.waiting s m o waits

end Restated

/-- Emptying the fetches in progress of an object leaves the books balancing, with those fetches
loose. -/
theorem Balanced.emptied {h₀ h : World} {S : List Frame} {s : Subject}
    (balanced : Balanced h₀ S h) :
    Balancing h₀ S ((h.status s).pending.map Prod.snd)
      (h.setStatus s { h.status s with pending := [] }) := by
  let h₁ := h.setStatus s { h.status s with pending := [] }
  have self : h₁.status s = { h.status s with pending := [] } := by
    by_cases has : h.Has s
    · exact status_setStatus_self _ has
    · rw [status_of_not_has (fun has' => has (has_setStatus.mp has')), status_of_not_has has]
  have other : ∀ s', s' ≠ s → h₁.status s' = h.status s' := fun s' ne => status_setStatus_of_ne _ ne
  have fetches : h₁.fetches = h.fetches := setStatus_fetches _ _ _
  have ready : ∀ s', (h₁.status s').ready = (h.status s').ready := by
    intro s'
    by_cases same : s' = s
    · rw [same, self]
    · rw [other s' same]
  have narrow : ∀ g, h₁.Holding g → h.Holding g := by
    intro g holding
    simp only [Holding, fetches] at holding ⊢
    by_cases same : (h.fetches.getD g default).subject = s
    · rw [same, self] at holding
      simp [Status.fetching?, List.lookup] at holding
    · rwa [other _ same] at holding
  have widen : ∀ g, h.Holding g → h₁.Holding g ∨ g ∈ (h.status s).pending.map Prod.snd := by
    intro g holding
    by_cases same : (h.fetches.getD g default).subject = s
    · have listed : ((h.fetches.getD g default).descriptor.name, g) ∈ (h.status s).pending := by
        rw [← same]
        exact mem_of_lookup holding
      exact .inr (List.mem_map.mpr ⟨_, listed, rfl⟩)
    · left
      simp only [Holding, fetches]
      rw [other _ same]
      exact holding
  have restated := Restated.setStatus h s { h.status s with pending := [] }
  have statuses : h₁.Statuses := by
    intro s'
    by_cases same : s' = s
    · subst same
      rw [self]
      simp [Status.fetching?, List.lookup]
    · rw [other s' same, fetches]
      exact balanced.books.statuses s'
  have settles : h₁.Settles fun f => h₁.Holding f ∨ f ∈ (h.status s).pending.map Prod.snd := by
    intro f inside live
    rw [fetches] at inside live ⊢
    rcases balanced.books.settles f inside live with holding | determined
    · exact .inl (widen f holding)
    · right
      rwa [(determined_of_ready (ready _) _).1]
  refine ⟨restated.books widen balanced.books statuses settles, restated.tracks balanced.tracks,
    restated.fanning widen narrow balanced.fanning, fun s' iface determined => ?_⟩
  obtain ⟨still, same⟩ := balanced.remembers s' iface determined
  rw [(determined_of_ready (ready s') iface).1, (determined_of_ready (ready s') iface).2]
  exact ⟨still, same⟩


end World

namespace World

/-- Marking disposed of a fetch that no status lists keeps the books balancing. -/
theorem Balancing.markDisposed {h₀ h : World} {S : List Frame} {loose : List Nat} {f : Nat}
    (balancing : Balancing h₀ S loose h) (unlisted : ∀ s iface, (iface, f) ∉ (h.status s).pending) :
    Balancing h₀ S loose { h with fetches := h.fetches.modify f fun x => { x with disposed := true } } := by
  let h₁ : World := { h with fetches := h.fetches.modify f fun x => { x with disposed := true } }
  have subject : ∀ g, (h₁.fetches.getD g default).subject = (h.fetches.getD g default).subject :=
    fun _ => getD_modify_of_keeps _ _ _ _ Fetch.subject fun _ => rfl
  have descriptor : ∀ g, (h₁.fetches.getD g default).descriptor = (h.fetches.getD g default).descriptor :=
    fun _ => getD_modify_of_keeps _ _ _ _ Fetch.descriptor fun _ => rfl
  have listed : ∀ g, (h₁.fetches.getD g default).waiters = (h.fetches.getD g default).waiters :=
    fun _ => getD_modify_of_keeps _ _ _ _ Fetch.waiters fun _ => rfl
  have count : h₁.fetches.size = h.fetches.size := by simp [h₁]
  -- a fetch disposed of afterwards was disposed of before, or is `f`
  have disposed : ∀ g, g < h.fetches.size → (h₁.fetches.getD g default).disposed = false →
      (h.fetches.getD g default).disposed = false ∧ g ≠ f := by
    intro g inside live
    by_cases same : g = f
    · subst same
      simp only [h₁, getD_modify, inside, and_self, if_true] at live
      cases live
    · rw [show h₁.fetches.getD g default = h.fetches.getD g default from
        getD_modify_ne _ _ same] at live
      exact ⟨live, same⟩
  have holding : h₁.Holding = h.Holding := by
    funext g
    simp only [Holding, subject, descriptor]
    rfl
  have books := balancing.books
  refine ⟨⟨?_, ?_, ?_, ?_, ?_, ?_⟩, balancing.tracks, ?_, balancing.remembers⟩
  · exact { books.inRange with }
  · intro w g attached
    rw [holding, listed]
    exact books.registered w g attached
  · intro s
    obtain ⟨keys, entries, idle⟩ := books.statuses s
    refine ⟨keys, fun iface g entry => ?_, idle⟩
    obtain ⟨inside, owned, named, live⟩ := entries iface g entry
    have other : g ≠ f := fun same => unlisted s iface (same ▸ entry)
    rw [count, subject, descriptor,
      show h₁.fetches.getD g default = h.fetches.getD g default from getD_modify_ne _ _ other]
    exact ⟨inside, owned, named, live⟩
  · intro g inside live
    rw [count] at inside
    rw [holding, subject, descriptor]
    exact books.settles g inside (disposed g inside live).1
  · intro g g' inside inside' live live' owned named
    rw [count] at inside inside'
    rw [subject, subject, descriptor, descriptor] at *
    exact books.unique g g' inside inside' (disposed g inside live).1 (disposed g' inside' live').1
      owned named
  · intro i inside g routed
    obtain ⟨valid, once, unanswered⟩ := books.requests i inside g routed
    refine ⟨count ▸ valid, once, fun waiting live => ?_⟩
    rw [holding]
    exact unanswered waiting (disposed g valid live).1
  · obtain ⟨distinct, fanned, answered, waiting⟩ := balancing.fanning
    refine ⟨distinct, fun g fans => ?_, fun i inside g routed done live held => ?_, waiting⟩
    · obtain ⟨settled, request⟩ := fanned g fans
      have valid : g < h.fetches.size := by
        obtain ⟨i, inside, routed, -⟩ := request
        exact (books.requests i inside g routed).1
      refine ⟨?_, request⟩
      rw [holding]
      by_cases same : g = f
      · subst same
        left
        simp only [getD_modify, valid, and_self, if_true]
      · rwa [show h₁.fetches.getD g default = h.fetches.getD g default from getD_modify_ne _ _ same]
    · rw [holding] at held
      exact answered i inside g routed done
        (disposed g (books.requests i inside g routed).1 live).1 held

/-- A loose fetch with no registered waiter left, disposed of or settled, is loose no more. A
settled fetch has determined its interface, has its request answered and is not fanning out. -/
theorem Balancing.release {h₀ h : World} {S : List Frame} {loose : List Nat} {f : Nat}
    (balancing : Balancing h₀ S (f :: loose) h)
    (unregistered : ∀ w, (h.waiters.getD w default).fetch ≠ some f)
    (settled : (h.fetches.getD f default).disposed = true ∨
      ((h.status (h.fetches.getD f default).subject).isReady
        (h.fetches.getD f default).descriptor.name = true ∧
      (∀ i < h.bus.calls.size, (h.bus.calls.getD i default).route = .fetch f →
        (h.bus.calls.getD i default).answered = true) ∧ f ∉ S.filterMap Frame.fanning)) :
    Balancing h₀ S loose h := by
  have books := balancing.books
  -- a fetch live with `f` loose and other than `f` is live without
  have narrow : ∀ g, g ≠ f → (h.Holding g ∨ g ∈ f :: loose) → h.Holding g ∨ g ∈ loose := by
    intro g other live
    rcases live with holding | listed
    · exact .inl holding
    · exact .inr ((List.mem_cons.mp listed).resolve_left other)
  refine ⟨⟨books.inRange, ?_, books.statuses, ?_, books.unique, ?_⟩, balancing.tracks, ?_,
    balancing.remembers⟩
  · intro w g attached
    obtain ⟨live, listed, pending, unfinished⟩ := books.registered w g attached
    have other : g ≠ f := fun same => unregistered w (same ▸ attached)
    exact ⟨narrow g other live, listed, pending, unfinished⟩
  · intro g inside live
    by_cases same : g = f
    · subst same
      rcases settled with gone | ⟨determined, -⟩
      · rw [gone] at live
        cases live
      · exact .inr determined
    · rcases books.settles g inside live with held | determined
      · exact .inl (narrow g same held)
      · exact .inr determined
  · intro i inside g routed
    obtain ⟨valid, once, unanswered⟩ := books.requests i inside g routed
    refine ⟨valid, once, fun waiting live => ?_⟩
    by_cases same : g = f
    · subst same
      rcases settled with gone | ⟨-, answered, -⟩
      · rw [gone] at live
        cases live
      · rw [answered i inside routed] at waiting
        cases waiting
    · exact narrow g same (unanswered waiting live)
  · obtain ⟨distinct, fanned, answered, waiting⟩ := balancing.fanning
    refine ⟨distinct, fun g fans => ?_, answered, waiting⟩
    obtain ⟨state, request⟩ := fanned g fans
    refine ⟨?_, request⟩
    by_cases same : g = f
    · subst same
      rcases settled with gone | ⟨-, -, quiet⟩
      · exact .inl gone
      · exact absurd fans quiet
    · exact state.imp_right (narrow g same)

/-- Finishing, one by one, the waiters of a list that are neither cancelled nor done keeps the
books balancing, and leaves no waiter registered on fetch `f` when the list held all of them.

Proof: along the list, every waiter still registered on `f` is in the part not yet walked: a
waiter finished is registered on no fetch, and a waiter skipped is cancelled or done, so it was
registered on none. -/
theorem finishAll {h₀ ref : World} {S : List Frame} {loose : List Nat} {f : Nat} (ws : List Nat)
    (body : Nat → PUnit → HubM (ForInStep PUnit))
    (pass : ∀ w h h' step, (body w ⟨⟩).run h = .ok step h' → step = .yield ⟨⟩ ∧
      ((((h.waiters.getD w default).cancelled = true ∨ (h.waiters.getD w default).done = true) ∧
        h' = h) ∨ (finish w).run h = .ok () h')) :
    Triple (fun h => ref.Steady h ∧ Balancing h₀ S loose h ∧
        ∀ w, (h.waiters.getD w default).fetch = some f → w ∈ ws)
      (forIn ws ⟨⟩ body)
      fun _ h => ref.Steady h ∧ Balancing h₀ S loose h ∧
        ∀ w, (h.waiters.getD w default).fetch ≠ some f := by
  intro h u h' ⟨steady, balancing, listed⟩ run
  let inv : List Nat → World → Prop := fun walked h => ref.Steady h ∧ Balancing h₀ S loose h ∧
    ∀ w, (h.waiters.getD w default).fetch = some f → w ∈ ws.drop walked.length
  have walked : inv ([] ++ ws) h' := by
    refine Triple.forIn_along inv body [] ws (fun before w after split => ?_)
      ⟨steady, balancing, by simpa using listed⟩ run
    intro h₁ step h₂ ⟨steady₁, balancing₁, listed₁⟩ ran
    have rest : ws.drop ([] ++ before).length = w :: after := by simp [split]
    have rest' : ws.drop ([] ++ before ++ [w]).length = after := by simp [split]
    obtain ⟨yielded, ⟨stopped, rfl⟩ | finished⟩ := pass w h₁ h₂ step ran
    · -- a waiter cancelled or done is registered on no fetch
      refine ⟨yielded, steady₁, balancing₁, fun w' attached => ?_⟩
      have other : w' ≠ w := by
        rintro rfl
        obtain ⟨-, -, live, pending⟩ := balancing₁.books.registered w' f attached
        rw [live, pending] at stopped
        simp at stopped
      rw [rest']
      have := listed₁ w' attached
      rw [rest] at this
      exact (List.mem_cons.mp this).resolve_left other
    · obtain ⟨detached, -, -⟩ := finish_detaches finished
      refine ⟨yielded, steady₁.trans detached.toSteady, finish_balancing h₀ S loose w balancing₁ finished,
        fun w' attached => ?_⟩
      have other : w' ≠ w := by
        rintro rfl
        rw [detached.off] at attached
        cases attached
      rw [(detached.others w' other).1] at attached
      rw [rest']
      have := listed₁ w' attached
      rw [rest] at this
      exact (List.mem_cons.mp this).resolve_left other
  obtain ⟨steady', balancing', listed'⟩ := walked
  refine ⟨steady', balancing', fun w attached => ?_⟩
  have := listed' w attached
  simp at this

/-- A pass over a fetch's waiters that finishes the waiter unless `go` says it is cancelled or
done. -/
theorem finishing_pass (go : Waiter → Bool) (skips : ∀ wt, go wt = false → wt.cancelled = true ∨ wt.done = true)
    (w : Nat) (h h' : World) (step : ForInStep PUnit)
    (ran : (do
        let wt ← waiter w
        if go wt = true then do
          finish w
          pure (ForInStep.yield ⟨⟩)
        else pure (ForInStep.yield ⟨⟩) : HubM (ForInStep PUnit)).run h = .ok step h') :
    step = .yield ⟨⟩ ∧
      ((((h.waiters.getD w default).cancelled = true ∨ (h.waiters.getD w default).done = true) ∧
        h' = h) ∨ (finish w).run h = .ok () h') := by
  simp only [bind_ok, run_waiter, EStateM.Result.ok.injEq, exists_returned] at ran
  split at ran
  · obtain ⟨⟨⟩, h₁, finished, returned⟩ := bind_ok.mp ran
    simp only [run_pure, EStateM.Result.ok.injEq] at returned
    obtain ⟨rfl, rfl⟩ := returned
    exact ⟨rfl, .inr finished⟩
  · rename_i stopped
    simp only [run_pure, EStateM.Result.ok.injEq] at ran
    obtain ⟨rfl, rfl⟩ := ran
    exact ⟨rfl, .inl ⟨skips _ (by simpa using stopped), rfl⟩⟩

end World

/-- Disposing of an object's fetches keeps the books balanced.

Proof: the object's fetches in progress are taken out of its status first and count as loose
(`Balanced.emptied`). Each of them in turn is marked disposed of, which no status can object
to, since only this object's status listed it; its waiters still registered are finished
(`finishAll`), after which it is loose no more (`Balancing.release`). -/
theorem disposeFetches_balanced (h₀ : World) (S : List Frame) (s : Subject) :
    Keeps (World.Balanced h₀ S) (disposeFetches s) := by
  intro h u h' balanced run
  simp only [disposeFetches, bind_ok, run_get, run_modify, EStateM.Result.ok.injEq,
    exists_returned, exists_returned_unit] at run
  obtain ⟨⟨⟩, h₁, looped, returned⟩ := run
  rw [ok_pure returned]
  let pending := (h.status s).pending
  -- the fetches in progress of the object, each valid and of the object
  have entries : ∀ p ∈ pending, p.2 < h.fetches.size ∧ (h.fetches.getD p.2 default).subject = s :=
    fun p listed => by
      obtain ⟨valid, owned, -, -⟩ := (balanced.books.statuses s).2.1 p.1 p.2 listed
      exact ⟨valid, owned⟩
  let inv : List (String × Nat) → World → Prop := fun walked h =>
    World.Balancing h₀ S ((pending.drop walked.length).map Prod.snd) h ∧ (h.status s).pending = [] ∧
      ∀ p ∈ pending, p.2 < h.fetches.size ∧ (h.fetches.getD p.2 default).subject = s
  have start : inv [] (h.setStatus s { h.status s with pending := [] }) := by
    refine ⟨balanced.emptied, ?_, fun p listed => ?_⟩
    · by_cases has : h.Has s
      · rw [World.status_setStatus_self _ has]
      · rw [World.status_of_not_has (fun has' => has (World.has_setStatus.mp has'))]
    · simpa using entries p listed
  have walked : inv ([] ++ pending) h₁ := by
    refine Triple.forIn_along inv _ [] pending (fun before x after split => ?_) start looped
    intro h₂ step h₃ ⟨balancing, emptied, valid⟩ ran
    obtain ⟨iface, f⟩ := x
    have listed : (iface, f) ∈ pending := by simp [split]
    obtain ⟨inside, owned⟩ := valid _ listed
    have rest : pending.drop ([] ++ before).length = (iface, f) :: after := by simp [split]
    have rest' : pending.drop ([] ++ before ++ [(iface, f)]).length = after := by simp [split]
    -- only the object's status listed the fetch, and it lists nothing any more
    have unlisted : ∀ s' iface', (iface', f) ∉ (h₂.status s').pending := by
      intro s' iface' entry
      by_cases same : s' = s
      · rw [same, emptied] at entry
        cases entry
      · have := ((balancing.books.statuses s').2.1 iface' f entry).2.1
        exact same (this.symm.trans owned)
    simp only [bind_ok, run_modifyFetch, run_fetch, EStateM.Result.ok.injEq, exists_returned,
      exists_returned_unit] at ran
    obtain ⟨⟨⟩, h₄, finished, returned⟩ := ran
    simp only [run_pure, EStateM.Result.ok.injEq] at returned
    obtain ⟨rfl, rfl⟩ := returned
    rw [rest] at balancing
    have marked := balancing.markDisposed unlisted
    rw [← Array.forIn_toList] at finished
    have finishedAll := World.finishAll (f := f) _ _
      (World.finishing_pass (fun wt => !(wt.cancelled || wt.done)) fun wt stopped => by
        cases cancelled : wt.cancelled
        · exact .inr (by simpa [cancelled] using stopped)
        · exact .inl rfl)
      ⟨(World.Alike.refl _).toSteady, marked,
        fun w attached => Array.mem_toList_iff.mpr (marked.books.registered w f attached).2.1⟩ finished
    obtain ⟨steady, balancing', unregistered⟩ := finishedAll
    have disposed : (h₄.fetches.getD f default).disposed = true := by
      rw [steady.disposed f, getD_modify, if_pos ⟨rfl, inside⟩]
    refine ⟨rfl, ?_, ?_, fun p listed' => ?_⟩
    · rw [rest']
      exact balancing'.release unregistered (.inl disposed)
    · rw [steady.status s]
      exact emptied
    · obtain ⟨inside', owned'⟩ := valid p listed'
      refine ⟨?_, ?_⟩
      · rw [steady.fetchCount, Array.size_modify]
        exact inside'
      · rw [steady.subject]
        exact (getD_modify_of_keeps h₂.fetches f p.snd (fun x => { x with disposed := true })
          Fetch.subject fun _ => rfl).trans owned'
  obtain ⟨balancing, -, -⟩ := walked
  rw [List.nil_append, List.drop_length, List.map_nil] at balancing
  exact balancing.balanced

/-! ## Settling a fetch -/

namespace World

/-- A world whose fetches differ only in what the books do not read, save their waiter lists. -/
theorem Steady.of_fetches {h : World} {fetches : Array Fetch} (size : fetches.size = h.fetches.size)
    (subject : ∀ f, (fetches.getD f default).subject = (h.fetches.getD f default).subject)
    (descriptor : ∀ f, (fetches.getD f default).descriptor = (h.fetches.getD f default).descriptor)
    (disposed : ∀ f, (fetches.getD f default).disposed = (h.fetches.getD f default).disposed) :
    h.Steady { h with fetches } :=
  { (Alike.refl h).toSteady with fetchCount := size, subject, descriptor, disposed }

/-- Marking a fetch as firing or not leaves the books as they were. -/
theorem quiet_modifyFiring (f : Nat) (firing : Bool) :
    Quiet (modifyFetch f fun x => { x with firing }) := by
  intro h u h' run
  simp only [run_modifyFetch, EStateM.Result.ok.injEq] at run
  rw [← run.2]
  exact
    { toSteady := Steady.of_fetches (by simp)
        (fun _ => getD_modify_of_keeps _ _ _ _ Fetch.subject fun _ => rfl)
        (fun _ => getD_modify_of_keeps _ _ _ _ Fetch.descriptor fun _ => rfl)
        (fun _ => getD_modify_of_keeps _ _ _ _ Fetch.disposed fun _ => rfl)
      fetch := fun _ => rfl
      cancelled := fun _ => rfl
      done := fun _ => rfl
      owners := rfl
      listed := fun _ => getD_modify_of_keeps _ _ _ _ Fetch.waiters fun _ => rfl }

/-- A fetch in progress is of an object the world has: the status of any other is empty. -/
theorem Holding.has {h : World} {f : Nat} (holding : h.Holding f) :
    h.Has (h.fetches.getD f default).subject :=
  Classical.byContradiction fun missing => by
    simp only [Holding, status_of_not_has missing] at holding
    cases holding

/-- A fetch in progress is one the world has: its status names it, which only a valid fetch
can be. -/
theorem Statuses.lt_of_holding {h : World} (statuses : h.Statuses) {f : Nat}
    (holding : h.Holding f) : f < h.fetches.size :=
  ((statuses _).2.1 _ f (mem_of_lookup holding)).1

/-- A fetch disposed of is not in progress: a status names only fetches not disposed of. -/
theorem Statuses.not_holding {h : World} (statuses : h.Statuses) {f : Nat}
    (disposed : (h.fetches.getD f default).disposed = true) : ¬h.Holding f := fun holding => by
  have := ((statuses _).2.1 _ f (mem_of_lookup holding)).2.2.2
  rw [this] at disposed
  cases disposed

/-- The fan-out ends once the fetch is no longer in progress. -/
theorem Fanning.settled {h : World} {S : List Frame} {live : Nat → Prop} {f j : Nat}
    (fanning : h.Fanning (.fanOut f j :: S) live) (released : ¬h.Holding f) : h.Fanning S live where
  distinct := (List.nodup_cons.mp fanning.distinct).2
  fanned g fans := fanning.fanned g (List.mem_cons_of_mem f fans)
  answered i inside g routed answered live holding := by
    rcases List.mem_cons.mp (fanning.answered i inside g routed answered live holding) with same | rest
    · exact absurd (same ▸ holding) released
    · exact rest
  waiting s m o waits := fanning.waiting s m o (List.mem_cons_of_mem _ waits)

section FanOut

variable {h₀ h : World} {S : List Frame} {f j : Nat} (balanced : Balanced h₀ (.fanOut f j :: S) h)
include balanced

/-- A fetch fanning out and not disposed of is in progress. -/
theorem Balanced.holding_fanned (live : (h.fetches.getD f default).disposed = false) :
    h.Holding f :=
  (balanced.fanning.fanned f (List.mem_cons_self ..)).1.resolve_left
    (by rw [live]; exact Bool.false_ne_true)

/-- Every request of a fetch fanning out was answered: it has one, which was. -/
theorem Balanced.answered_fanned :
    ∀ i < h.bus.calls.size, (h.bus.calls.getD i default).route = .fetch f →
      (h.bus.calls.getD i default).answered = true := by
  intro i inside routed
  obtain ⟨-, k, within, routed', answered⟩ := balanced.fanning.fanned f (List.mem_cons_self ..)
  obtain ⟨-, once, -⟩ := balanced.books.requests k within f routed'
  rw [once i inside routed]
  exact answered

/-- Determining the interface of a fetch whose fan-out has ended leaves the books balancing for
the operations below the fan-out, with the fetch loose.

Proof: the fetch was in progress, so its interface was not determined and the only change to
the statuses takes it out of progress and determines its interface. Every other fetch in
progress stays so; every interface determined stays so with the same outcome. -/
theorem Balanced.readied {s : Subject} {name : String} (err : Option String)
    (owned : (h.fetches.getD f default).subject = s)
    (named : (h.fetches.getD f default).descriptor.name = name)
    (live : (h.fetches.getD f default).disposed = false) :
    Balancing h₀ S [f] (h.setStatus s ((h.status s).markReady name err)) := by
  classical
  have holding := balanced.holding_fanned live
  have has : h.Has s := owned ▸ holding.has
  have progress : (h.status s).fetching? name = some f := by
    simpa only [Holding, owned, named] using holding
  have fresh : (h.status s).isReady name = false := by
    cases ready : (h.status s).isReady name
    · rfl
    · have := (balanced.books.statuses s).2.2 name ready
      rw [progress] at this
      cases this
  let h₁ := h.setStatus s ((h.status s).markReady name err)
  have self : h₁.status s = (h.status s).markReady name err := status_setStatus_self _ has
  have other : ∀ s', s' ≠ s → h₁.status s' = h.status s' := fun s' ne => status_setStatus_of_ne _ ne
  have fetches : h₁.fetches = h.fetches := setStatus_fetches _ _ _
  -- the only fetch taken out of progress is the one for `name` of `s`, which is `f`
  have fetching : ∀ s' iface, (h₁.status s').fetching? iface =
      if s' = s ∧ iface = name then none else (h.status s').fetching? iface := by
    intro s' iface
    by_cases same : s' = s
    · subst same
      rw [self, fetching?_markReady]
      simp
    · rw [other s' same]
      simp only [same, false_and, if_false]
  have narrow : ∀ g, h₁.Holding g → h.Holding g := by
    intro g holding'
    simp only [Holding, fetches, fetching] at holding' ⊢
    split at holding'
    · cases holding'
    · exact holding'
  have widen : ∀ g, h.Holding g → h₁.Holding g ∨ g ∈ [f] := by
    intro g holding'
    by_cases same : (h.fetches.getD g default).subject = s ∧
        (h.fetches.getD g default).descriptor.name = name
    · have found : (h.status s).fetching? name = some g := by
        simpa only [Holding, same.1, same.2] using holding'
      rw [progress, Option.some.injEq] at found
      exact .inr (List.mem_singleton.mpr found.symm)
    · left
      simp only [Holding, fetches, fetching, if_neg same]
      exact holding'
  have released : ¬h₁.Holding f := by
    intro holding'
    simp only [Holding, fetches, fetching, owned, named, and_self, if_true] at holding'
    cases holding'
  -- determined interfaces stay determined, with their outcomes
  have determined : ∀ s' iface, (h.status s').isReady iface = true →
      (h₁.status s').isReady iface = true ∧
        (h₁.status s').fetchError? iface = (h.status s').fetchError? iface := by
    intro s' iface ready
    by_cases same : s' = s
    · subst same
      rw [self, isReady_markReady fresh, fetchError?_markReady fresh err ready, ready]
      simp
    · rw [other s' same]
      exact ⟨ready, rfl⟩
  have statuses : h₁.Statuses := by
    intro s'
    by_cases same : s' = s
    · subst same
      obtain ⟨keys, entries, exclusive⟩ := balanced.books.statuses s'
      rw [self, fetches]
      refine ⟨keys.sublist ((List.filter_sublist).map _),
        fun iface g listed => entries iface g (List.mem_filter.mp listed).1,
        fun iface ready => ?_⟩
      rw [fetching?_markReady]
      split
      · rfl
      · rename_i unnamed
        rw [isReady_markReady fresh] at ready
        have unnamed' : (name == iface) = false := by simp [Ne.symm unnamed]
        rw [unnamed', Bool.or_false] at ready
        exact exclusive iface ready
    · rw [other s' same, fetches]
      exact balanced.books.statuses s'
  have settles : h₁.Settles fun g => h₁.Holding g ∨ g ∈ [f] := by
    intro g inside unsettled
    rw [fetches] at inside unsettled ⊢
    rcases balanced.books.settles g inside unsettled with holding' | ready
    · exact .inl (widen g holding')
    · exact .inr (determined _ _ ready).1
  have restated := Restated.setStatus h s ((h.status s).markReady name err)
  refine ⟨restated.books widen balanced.books statuses settles, restated.tracks balanced.tracks,
    (restated.fanning widen narrow balanced.fanning).settled released, fun s' iface ready => ?_⟩
  obtain ⟨still, same⟩ := balanced.remembers s' iface ready
  obtain ⟨still', same'⟩ := determined s' iface still
  exact ⟨still', same'.trans same⟩

end FanOut

/-- Emptying the waiter list of a fetch on which no waiter is registered keeps the books
balanced. -/
theorem Balanced.cleared {h₀ h : World} {S : List Frame} {f : Nat} (balanced : Balanced h₀ S h)
    (unregistered : ∀ w, (h.waiters.getD w default).fetch ≠ some f) :
    Balanced h₀ S { h with fetches := h.fetches.modify f fun x => { x with waiters := #[] } } := by
  have steady : h.Steady { h with fetches := h.fetches.modify f fun x => { x with waiters := #[] } } :=
    Steady.of_fetches (by simp)
      (fun _ => getD_modify_of_keeps _ _ _ _ Fetch.subject fun _ => rfl)
      (fun _ => getD_modify_of_keeps _ _ _ _ Fetch.descriptor fun _ => rfl)
      (fun _ => getD_modify_of_keeps _ _ _ _ Fetch.disposed fun _ => rfl)
  refine ⟨?_, balanced.tracks, ?_, steady.remembers balanced.remembers⟩
  · rw [steady.holding]
    refine steady.books balanced.books fun w g attached => ?_
    have other : g ≠ f := fun same => unregistered w (same ▸ attached)
    obtain ⟨live, listed, pending, unfinished⟩ := balanced.books.registered w g attached
    rw [getD_modify_ne h.fetches (fun x : Fetch => { x with waiters := #[] }) other]
    exact ⟨live, listed, pending, unfinished⟩
  · rw [steady.holding]
    exact steady.fanning balanced.fanning

end World

/-- Settling a fetch whose fan-out has reached every waiter keeps the books balanced for the
operations below the fan-out.

Proof: marking the fetch as no longer firing changes nothing the books read. If the fetch was
disposed of meanwhile, its status no longer names it and the fan-out simply ends. Otherwise its
interface is determined with the outcome (`Balanced.readied`), which leaves the fetch loose;
its waiters still registered are finished (`finishAll`), after which it is loose no more, since
its interface is determined and its one request was answered (`Balancing.release`); and its
waiter list, which no waiter refers to any more, is emptied (`Balanced.cleared`). -/
theorem settleFetch_balanced (h₀ : World) (S : List Frame) (f j : Nat) (err : Option String) :
    Triple (World.Balanced h₀ (.fanOut f j :: S)) (settleFetch f err) fun _ => World.Balanced h₀ S := by
  intro h u h' balanced run
  simp only [settleFetch, bind_ok, run_fetch, EStateM.Result.ok.injEq, exists_returned] at run
  obtain ⟨⟨⟩, h₁, stopped, run⟩ := run
  have balanced₁ := (World.quiet_modifyFiring f false h _ h₁ stopped).balanced balanced
  split at run
  · -- disposed of meanwhile: no status names it, so it is not in progress
    rename_i disposed
    rw [ok_pure run]
    exact { balanced₁ with
      fanning := balanced₁.fanning.settled (balanced₁.books.statuses.not_holding disposed) }
  · rename_i live
    simp only [Bool.not_eq_true] at live
    obtain ⟨⟨⟩, h₃, readied, run⟩ := bind_ok.mp run
    simp only [run_modify, EStateM.Result.ok.injEq] at readied
    obtain ⟨-, rfl⟩ := readied
    obtain ⟨⟨⟩, h₄, finished, cleared⟩ := bind_ok.mp run
    simp only [run_modifyFetch, EStateM.Result.ok.injEq] at cleared
    obtain ⟨-, rfl⟩ := cleared
    have balancing := balanced₁.readied err rfl rfl live
    have has := (balanced₁.holding_fanned live).has
    rw [← Array.forIn_toList] at finished
    obtain ⟨steady, balancing', unregistered⟩ :=
      World.finishAll (f := f) (h₁.fetches.getD f default).waiters.toList _
      (World.finishing_pass (fun wt => !wt.cancelled && !wt.done) fun wt stopped => by
        cases cancelled : wt.cancelled
        · exact .inr (by simpa [cancelled] using stopped)
        · exact .inl rfl)
      ⟨(World.Alike.refl _).toSteady, balancing, fun w attached => by
        have listed := (balancing.books.registered w f attached).2.1
        rw [World.setStatus_fetches] at listed
        exact Array.mem_toList_iff.mpr listed⟩
      finished
    -- the interface is determined and the one request of the fetch was answered
    have ready : (h₄.status (h₄.fetches.getD f default).subject).isReady
        (h₄.fetches.getD f default).descriptor.name = true := by
      rw [steady.subject, steady.descriptor, steady.status, World.setStatus_fetches,
        World.status_setStatus_self _ has]
      exact isReady_markReady_self _ _ _
    have answered : ∀ i < h₄.bus.calls.size, (h₄.bus.calls.getD i default).route = .fetch f →
        (h₄.bus.calls.getD i default).answered = true := by
      rw [steady.calls, World.setStatus_bus]
      exact balanced₁.answered_fanned
    have unfanned : f ∉ S.filterMap Frame.fanning :=
      (List.nodup_cons.mp balanced₁.fanning.distinct).1
    exact (balancing'.release unregistered (.inr ⟨ready, answered, unfanned⟩)).balanced.cleared
      unregistered

end MissionControl.Hub
