import MissionControl.Proofs.Hub.Books
import MissionControl.Proofs.Hub.Footprint

/-!
# The books of the registry's startup lock

The registry completes its startup once it has read the activatable names on the bus and every
client it registered before then is ready. It counts what it still waits for in its startup
lock: one share for the listing of the activatable names, and one for each registered client
holding a share. A share is taken when a client is registered before startup is complete and
given back when that client becomes ready or is forgotten; the listing's share is given back
once the activatable names have been read. The last share given back completes startup and,
while the registry listens, announces it.

`World.Startup S h owed` states these books with the operations of `S` under way and `owed`
shares already taken out of their count but not yet given back:

* the requests listing the names and the activatable names: at most one of each, the second
  only once the first is answered, and the frames reading their replies (`World.Listings`);
* the entries of the registry, with distinct names and distinct clients, each client one of the
  world's and linked to the registry (`Registry.Enrolled`);
* the registry listens exactly while it is open;
* while the registry is open and startup not complete, the lock is the listing's share, plus
  one for each entry holding a share, plus what is owed, and is positive; each entry holds a
  share exactly when its client is not ready. Once startup is complete the lock is zero, the
  listing has been read and no entry holds a share (`Registry.Locked`). A closed registry that
  has not started up still counts at least the shares it holds and owes.

`World.Announces h₀ notes h` says what `notes`, taken on the way from `h₀` to `h`, report of the
lock (`Note.lockNotes`): startup completed at most once, and only by a registry open and not yet
started up in `h₀` that is started up in `h`; exactly once if the registry, open in `h`, started
up on the way; and never a share given back with none left.

Most operations of the hub leave everything these books read untouched (`World.Untouched`, a
footprint of the readiness broker); this module proves so for the others that do, and proves the
books kept by the operations of the registry itself: releasing a share, a client becoming ready,
a client forgotten, a client added, and the registry started and closed.
-/

set_option autoImplicit false

namespace MissionControl.Hub

open Readiness

/-- Whether a frame reads the names on the bus. -/
def Frame.isNaming : Frame → Bool
  | .naming => true
  | _ => false

/-- Whether a frame reads the activatable names on the bus. -/
def Frame.isListing : Frame → Bool
  | .listing => true
  | _ => false

/-- Whether a call asks for the activatable names. -/
def Route.isListing : Route → Bool
  | .activatableNames => true
  | _ => false

theorem Route.isListing_iff {route : Route} : route.isListing = true ↔ route = .activatableNames := by
  cases route <;> simp [Route.isListing]

mutual

/-- The notes about the registry's startup lock among a note and those it groups: startup
completed, and a share given back with none left. -/
def Note.lockNotes : Note → List Note
  | .registryReady => [.registryReady]
  | .releasedBelowZero => [.releasedBelowZero]
  | .unordered notes => Note.lockNotesIn notes
  | _ => []

/-- The notes about the registry's startup lock among notes and those they group, in order. -/
def Note.lockNotesIn : List Note → List Note
  | [] => []
  | n :: rest => n.lockNotes ++ Note.lockNotesIn rest

end

@[simp] theorem Note.lockNotesIn_append (ns ms : List Note) :
    Note.lockNotesIn (ns ++ ms) = Note.lockNotesIn ns ++ Note.lockNotesIn ms := by
  induction ns with
  | nil => simp [Note.lockNotesIn]
  | cons n rest ih => simp [Note.lockNotesIn, ih]

/-- A plain note says nothing of the lock. -/
theorem Note.lockNotes_of_plain {n : Note} (plain : n.isPlain = true) : n.lockNotes = [] := by
  cases n <;> simp_all [Note.isPlain, Note.lockNotes]

namespace World

/-- Whether the request for the activatable names has been answered. -/
def listed (h : World) : Bool :=
  h.bus.calls.any fun c => c.answered && c.route.isListing

theorem listed_iff {h : World} : h.listed = true ↔ ∃ i < h.bus.calls.size,
    (h.bus.calls.getD i default).route = .activatableNames ∧ (h.bus.calls.getD i default).answered = true := by
  have read : ∀ i (inside : i < h.bus.calls.size), h.bus.calls.getD i default = h.bus.calls[i] :=
    fun i inside => by simp [Array.getD_eq_getD_getElem?, inside]
  simp only [listed, Array.any_eq_true, Bool.and_eq_true, Route.isListing_iff]
  constructor
  · rintro ⟨i, inside, answered, listing⟩
    exact ⟨i, inside, by rw [read i inside]; exact listing, by rw [read i inside]; exact answered⟩
  · rintro ⟨i, inside, listing, answered⟩
    rw [read i inside] at listing answered
    exact ⟨i, inside, answered, listing⟩

/-- The share of the startup lock still held for the listing of the activatable names: none once
their request is answered and no operation is reading the reply. -/
def listingShare (S : List Frame) (h : World) : Nat :=
  if h.listed && !S.any Frame.isListing then 0 else 1

/-- The requests for the names and for the activatable names on the bus, and the operations
reading their replies: each is asked at most once, the names only by a started registry and the
activatable names only once the names are answered; a reply is read by at most one operation, and
the names' only before the activatable names are asked for. -/
structure Listings (S : List Frame) (h : World) : Prop where
  namesOnce : ∀ i < h.bus.calls.size, ∀ j < h.bus.calls.size,
    (h.bus.calls.getD i default).route = .names → (h.bus.calls.getD j default).route = .names → i = j
  listOnce : ∀ i < h.bus.calls.size, ∀ j < h.bus.calls.size,
    (h.bus.calls.getD i default).route = .activatableNames →
    (h.bus.calls.getD j default).route = .activatableNames → i = j
  namesStarted : ∀ i < h.bus.calls.size, (h.bus.calls.getD i default).route = .names →
    ∃ r, h.registry = some r ∧ r.started = true
  listAfterNames : ∀ i < h.bus.calls.size, (h.bus.calls.getD i default).route = .activatableNames →
    ∃ j < h.bus.calls.size, (h.bus.calls.getD j default).route = .names ∧
      (h.bus.calls.getD j default).answered = true
  naming : S.any Frame.isNaming = true →
    (∀ i < h.bus.calls.size, (h.bus.calls.getD i default).route ≠ .activatableNames) ∧
    ∃ j < h.bus.calls.size, (h.bus.calls.getD j default).route = .names ∧
      (h.bus.calls.getD j default).answered = true
  namingOnce : S.countP Frame.isNaming ≤ 1
  listing : S.any Frame.isListing = true → h.listed = true
  listingOnce : S.countP Frame.isListing ≤ 1

end World

/-- The entries of a registry: distinct names and distinct clients, each client one of the
world's and linked to the registry. -/
structure Registry.Enrolled (r : Registry) (h : World) : Prop where
  names : (r.entries.map (·.name)).Nodup
  clients : (r.entries.map (·.client)).Nodup
  inside : ∀ e ∈ r.entries, e.client < h.clients.size
  linked : ∀ e ∈ r.entries, (h.clients.getD e.client default).readyLinked = true

/-- The startup lock of an open registry, with the operations of `S` under way and `owed` shares
taken out of the count but not yet given back. -/
structure Registry.Locked (r : Registry) (S : List Frame) (h : World) (owed : Nat) : Prop where
  pending : r.startedUp = false →
    r.startupLock = World.listingShare S h + r.entries.countP (·.lockHeld) + owed ∧ 0 < r.startupLock
  held : r.startedUp = false →
    ∀ e ∈ r.entries, e.lockHeld = !(h.clients.getD e.client default).proxy.ready
  complete : r.startedUp = true → owed = 0 ∧ r.startupLock = 0 ∧ World.listingShare S h = 0 ∧
    ∀ e ∈ r.entries, e.lockHeld = false

theorem Registry.Enrolled.transfer {r : Registry} {h h' : World} (enrolled : r.Enrolled h)
    (clients : h'.clients.size = h.clients.size)
    (linked : ∀ c, (h'.clients.getD c default).readyLinked = (h.clients.getD c default).readyLinked) :
    r.Enrolled h' :=
  ⟨enrolled.names, enrolled.clients, fun e entry => clients ▸ enrolled.inside e entry,
    fun e entry => (linked e.client).trans (enrolled.linked e entry)⟩

/-- A registry with the same entries is enrolled alike. -/
theorem Registry.Enrolled.of_entries {r r' : Registry} {h : World} (enrolled : r.Enrolled h)
    (entries : r'.entries = r.entries) : r'.Enrolled h := by
  obtain ⟨names, clients, inside, linked⟩ := enrolled
  rw [← entries] at names clients inside linked
  exact ⟨names, clients, inside, linked⟩

theorem Registry.Locked.transfer {r : Registry} {S S' : List Frame} {h h' : World} {owed : Nat}
    (locked : r.Locked S h owed) (share : h'.listingShare S' = h.listingShare S)
    (ready : ∀ c, (h'.clients.getD c default).proxy.ready = (h.clients.getD c default).proxy.ready) :
    r.Locked S' h' owed := by
  obtain ⟨pending, held, complete⟩ := locked
  refine ⟨fun idle => ?_, fun idle e entry => ?_, fun done => ?_⟩
  · rw [share]
    exact pending idle
  · rw [ready]
    exact held idle e entry
  · rw [share]
    exact complete done

namespace World

/-- The books of the startup lock, with the operations of `S` under way and `owed` shares taken
out of the count but not yet given back. -/
structure Startup (S : List Frame) (h : World) (owed : Nat) : Prop where
  listings : h.Listings S
  enrolled : ∀ r, h.registry = some r → r.Enrolled h
  listening : ∀ r, h.registry = some r → (r.listening = true ↔ r.closed = false)
  locked : ∀ r, h.registry = some r → r.closed = false → r.Locked S h owed
  shut : ∀ r, h.registry = some r → r.closed = true → r.startedUp = false →
    h.listingShare S + r.entries.countP (·.lockHeld) + owed ≤ r.startupLock

/-- What `notes`, taken on the way from `h₀` to `h`, report of the startup lock: startup
completed at most once, and only by a registry open and not yet started up in `h₀` that is
started up in `h`; exactly once if the registry started up on the way and is open in `h`; and no
share given back with none left. The registry stays, and neither completing startup nor closing
is undone. -/
structure Announces (h₀ : World) (notes : List Note) (h : World) : Prop where
  absent : h₀.registry = none → h.registry = none
  kept : ∀ r₀, h₀.registry = some r₀ → ∃ r, h.registry = some r ∧
    (r₀.startedUp = true → r.startedUp = true) ∧ (r₀.closed = true → r.closed = true)
  once : Note.lockNotesIn notes = [] ∨
    (Note.lockNotesIn notes = [.registryReady] ∧ ∃ r₀ r, h₀.registry = some r₀ ∧
      h.registry = some r ∧ r₀.startedUp = false ∧ r₀.closed = false ∧ r.startedUp = true)
  flipped : ∀ r₀ r, h₀.registry = some r₀ → h.registry = some r → r₀.startedUp = false →
    r.startedUp = true → r.closed = false → Note.lockNotesIn notes = [.registryReady]

/-! ## Worlds with the same startup books -/

section Same

variable {h h' : World}

theorem listed_of_calls (calls : h'.bus.calls = h.bus.calls) : h'.listed = h.listed := by
  simp only [World.listed, calls]

theorem listingShare_of_calls (calls : h'.bus.calls = h.bus.calls) (S : List Frame) :
    h'.listingShare S = h.listingShare S := by
  simp only [World.listingShare, listed_of_calls calls]

theorem Listings.of_calls {S : List Frame} (listings : h.Listings S)
    (registry : h'.registry = h.registry) (calls : h'.bus.calls = h.bus.calls) : h'.Listings S := by
  obtain ⟨namesOnce, listOnce, namesStarted, listAfterNames, naming, namingOnce, listing,
    listingOnce⟩ := listings
  rw [← registry] at namesStarted
  rw [← calls] at namesOnce listOnce namesStarted listAfterNames naming
  rw [← listed_of_calls calls] at listing
  exact ⟨namesOnce, listOnce, namesStarted, listAfterNames, naming, namingOnce, listing, listingOnce⟩

/-- The startup books read only the registry, the requests on the bus, and the clients' number,
readiness and links to the registry. -/
theorem Startup.of_books {S : List Frame} {owed : Nat} (startup : h.Startup S owed)
    (registry : h'.registry = h.registry) (calls : h'.bus.calls = h.bus.calls)
    (clients : h'.clients.size = h.clients.size)
    (ready : ∀ c, (h'.clients.getD c default).proxy.ready = (h.clients.getD c default).proxy.ready)
    (linked : ∀ c, (h'.clients.getD c default).readyLinked = (h.clients.getD c default).readyLinked) :
    h'.Startup S owed := by
  refine ⟨startup.listings.of_calls registry calls, fun r registered => ?_, fun r registered => ?_,
    fun r registered open' => ?_, fun r registered closed idle => ?_⟩
  all_goals rw [registry] at registered
  · exact (startup.enrolled r registered).transfer clients linked
  · exact startup.listening r registered
  · exact (startup.locked r registered open').transfer (listingShare_of_calls calls S) ready
  · rw [listingShare_of_calls calls S]
    exact startup.shut r registered closed idle

end Same

/-- Two worlds that agree on everything the startup books read, and on what the notes report of
the lock. -/
structure Untouched (h h' : World) : Prop where
  registry : h'.registry = h.registry
  calls : h'.bus.calls = h.bus.calls
  clients : h'.clients.size = h.clients.size
  ready : ∀ c, (h'.clients.getD c default).proxy.ready = (h.clients.getD c default).proxy.ready
  linked : ∀ c, (h'.clients.getD c default).readyLinked = (h.clients.getD c default).readyLinked
  lockNotes : Note.lockNotesIn h'.notes.toList = Note.lockNotesIn h.notes.toList

/-- A world with the same registry, requests, clients and notes. -/
theorem Untouched.of_same {h h' : World} (registry : h'.registry = h.registry)
    (calls : h'.bus.calls = h.bus.calls) (clients : h'.clients = h.clients) (notes : h'.notes = h.notes) :
    h.Untouched h' :=
  ⟨registry, calls, by rw [clients], fun _ => by rw [clients], fun _ => by rw [clients], by rw [notes]⟩

theorem Untouched.refl (h : World) : h.Untouched h := .of_same rfl rfl rfl rfl

theorem Untouched.trans {h₁ h₂ h₃ : World} (first : h₁.Untouched h₂) (second : h₂.Untouched h₃) :
    h₁.Untouched h₃ :=
  ⟨second.registry.trans first.registry, second.calls.trans first.calls,
    second.clients.trans first.clients, fun c => (second.ready c).trans (first.ready c),
    fun c => (second.linked c).trans (first.linked c), second.lockNotes.trans first.lockNotes⟩

section Untouched

variable {h h' : World} (untouched : h.Untouched h')
include untouched

theorem Untouched.startup {S : List Frame} {owed : Nat} (startup : h.Startup S owed) :
    h'.Startup S owed :=
  startup.of_books untouched.registry untouched.calls untouched.clients untouched.ready
    untouched.linked

theorem Untouched.announces {h₀ : World} (announces : h₀.Announces h.notes.toList h) :
    h₀.Announces h'.notes.toList h' := by
  obtain ⟨absent, kept, once, flipped⟩ := announces
  rw [← untouched.registry] at absent kept once flipped
  rw [← untouched.lockNotes] at once flipped
  exact ⟨absent, kept, once, flipped⟩

end Untouched

/-- A note that says nothing of the lock leaves the startup books untouched. -/
theorem untouched_push_note (h : World) {n : Note} (silent : n.lockNotes = []) :
    h.Untouched { h with notes := h.notes.push n } :=
  ⟨rfl, rfl, rfl, fun _ => rfl, fun _ => rfl, by simp [Array.toList_push, Note.lockNotesIn, silent]⟩

/-- Changing a client but neither its readiness nor its link to the registry leaves the startup
books untouched. -/
theorem untouched_modifyClient (h : World) (c : Nat) (g : ClientObject → ClientObject)
    (ready : ∀ x, (g x).proxy.ready = x.proxy.ready)
    (linked : ∀ x, (g x).readyLinked = x.readyLinked) :
    h.Untouched { h with clients := h.clients.modify c g } :=
  ⟨rfl, rfl, Array.size_modify .., fun _ => getD_modify_of_keeps _ _ _ _ (fun x : ClientObject => x.proxy.ready) ready,
    fun _ => getD_modify_of_keeps _ _ _ _ _ linked, rfl⟩

theorem untouched_setStatus (h : World) (s : Subject) (st : Status) : h.Untouched (h.setStatus s st) := by
  cases s with
  | plain i => exact .of_same rfl rfl rfl rfl
  | account a => exact .of_same rfl rfl rfl rfl
  | client c => exact h.untouched_modifyClient c _ (fun _ => rfl) fun _ => rfl

/-- Grouping the later notes keeps what they report of the lock. -/
theorem untouched_group (h : World) (start : Nat) :
    h.Untouched { h with notes :=
      ((h.notes.extract 0 start).push (.unordered (h.notes.extract start h.notes.size).toList)) } := by
  refine ⟨rfl, rfl, rfl, fun _ => rfl, fun _ => rfl, ?_⟩
  have split : h.notes.toList = (h.notes.extract 0 start).toList ++
      (h.notes.extract start h.notes.size).toList := by
    simp only [Array.toList_extract, List.extract, List.drop_zero, Nat.sub_zero]
    rw [List.take_of_length_le (l := h.notes.toList.drop start) (by simp)]
    exact (List.take_append_drop start h.notes.toList).symm
  simp only [Array.toList_push, Note.lockNotesIn_append, Note.lockNotesIn, Note.lockNotes,
    List.append_nil]
  rw [split, Note.lockNotesIn_append]

/-- What the readiness broker keeps for itself is none of the startup books' business. -/
theorem untouched : Footprint Untouched where
  refl := Untouched.refl
  trans := Untouched.trans
  waiter _ _ _ _ := .of_same rfl rfl rfl rfl
  owners _ _ := .of_same rfl rfl rfl rfl
  fetches _ _ := .of_same rfl rfl rfl rfl
  latch _ _ _ _ := .of_same rfl rfl rfl rfl
  waiterLabels _ _ := .of_same rfl rfl rfl rfl
  note h n plain := h.untouched_push_note (Note.lockNotes_of_plain plain)
  status h s st := h.untouched_setStatus s st
  daemon _ _ := .of_same rfl rfl rfl rfl
  post _ _ := .of_same rfl rfl rfl rfl

end World

/-! ## Operations that leave the startup books untouched -/

section Untouching

variable {α : Type}

/-- An operation that leaves the startup books untouched keeps them. -/
theorem Stays.startup {S : List Frame} {owed : Nat} {h₀ : World} {x : HubM α}
    (stays : Stays World.Untouched x) :
    Keeps (fun h => h.Startup S owed ∧ h₀.Announces h.notes.toList h) x :=
  stays.keeps fun _ _ untouched books => ⟨untouched.startup books.1, untouched.announces books.2⟩

theorem untouched_modifyClient (c : Nat) (g : ClientObject → ClientObject)
    (ready : ∀ x, (g x).proxy.ready = x.proxy.ready)
    (linked : ∀ x, (g x).readyLinked = x.readyLinked) : Stays World.Untouched (modifyClient c g) :=
  Stays.of_modify fun h => h.untouched_modifyClient c g ready linked

/-- Changing a proxy but not its readiness leaves the startup books untouched. -/
theorem untouched_modifyProxy (c : Nat) (g : Client.Proxy → Client.Proxy)
    (ready : ∀ p, (g p).ready = p.ready) : Stays World.Untouched (modifyProxy c g) :=
  untouched_modifyClient c _ (fun x => ready x.proxy) fun _ => rfl

theorem untouched_modifyAccount (a : Nat) (g : AccountObject → AccountObject) :
    Stays World.Untouched (modifyAccount a g) :=
  Stays.of_modify fun _ => .of_same rfl rfl rfl rfl

theorem untouched_newWaiter (wt : Waiter) : Stays World.Untouched (newWaiter wt) :=
  Stays.of_modifyGet fun _ => .of_same rfl rfl rfl rfl

theorem untouched_newLatch (l : Latch) : Stays World.Untouched (newLatch l) :=
  Stays.of_modifyGet fun _ => .of_same rfl rfl rfl rfl

theorem untouched_subscribe (rule : MatchRule) (l : Listener) :
    Stays World.Untouched (subscribe rule l) := by
  unfold subscribe
  refine World.untouched.bind (Stays.of_modifyGet fun _ => .of_same rfl rfl rfl rfl)
    fun id => World.untouched.bind World.untouched.stays_linkOpen fun linked => ?_
  split
  · exact World.untouched.bind (World.untouched.stays_daemonCall _ _) fun _ => World.untouched.pure _
  · exact World.untouched.pure _

theorem untouched_unsubscribe (id : Nat) : Stays World.Untouched (unsubscribe id) := by
  unfold unsubscribe
  refine World.untouched.bind World.untouched.stays_get fun h => ?_
  dsimp only
  split
  · exact World.untouched.pure _
  · refine World.untouched.bind (Stays.of_modify fun _ => .of_same rfl rfl rfl rfl)
      fun _ => World.untouched.bind World.untouched.stays_linkOpen fun linked => ?_
    split
    · exact World.untouched.stays_daemonCall _ _
    · exact World.untouched.pure _

/-- Building object state from a completed fetch changes no client's readiness. -/
theorem untouched_build (s : Subject) (d : Descriptor) (props : Option Properties) :
    Stays World.Untouched (build s d props) := by
  unfold build
  split
  · exact World.untouched.bind World.untouched.stays_get fun _ => World.untouched.stays_note _ rfl
  · exact untouched_modifyProxy _ _ fun _ => rfl
  · exact untouched_modifyProxy _ _ fun _ => rfl
  · exact untouched_modifyProxy _ _ fun _ => rfl
  · exact untouched_modifyProxy _ _ fun _ => rfl
  · exact untouched_modifyAccount _ _
  · exact untouched_modifyAccount _ _
  · exact Stays.of_throw _
  · exact Stays.of_throw _
  · exact Stays.of_throw _

theorem untouched_watch (s : Subject) (iface : String) (k : Watcher) :
    Stays World.Untouched (watch s iface k) := by
  unfold watch
  split
  · exact World.untouched.bind World.untouched.stays_get fun _ => World.untouched.stays_note _ rfl
  · split
    · unfold watchAccount
      refine World.untouched.bind (World.untouched.of_read fun h => ⟨_, run_account _ h⟩) fun acc => ?_
      exact World.untouched.bind (untouched_subscribe _ _) fun _ => untouched_modifyAccount _ _
    · exact Stays.of_throw _

theorem untouched_applyAccountChange (a : Nat) (body : List Value) :
    Stays World.Untouched (applyAccountChange a body) := by
  unfold applyAccountChange
  split
  · exact untouched_modifyAccount _ _
  · exact World.untouched.pure _

theorem untouched_absorbResult (fs : Fetch) (result : Except String (Option Properties)) :
    Stays World.Untouched (absorbResult fs result) := by
  unfold absorbResult
  split
  · exact untouched_build _ _ _
  · exact World.untouched.bind World.untouched.stays_get fun _ => World.untouched.stays_note _ rfl

theorem untouched_groupNotesFrom (start : Nat) : Stays World.Untouched (groupNotesFrom start) := by
  unfold groupNotesFrom
  refine Stays.of_modify fun h => ?_
  dsimp only
  split
  · exact World.Untouched.refl h
  · exact h.untouched_group start

theorem untouched_disposeAccount (a : Nat) : Stays World.Untouched (disposeAccount a) := by
  unfold disposeAccount
  refine World.untouched.bind (World.untouched.of_read fun h => ⟨_, run_account a h⟩) fun acc => ?_
  refine World.untouched.bind ?_ fun _ => World.untouched.bind (untouched_modifyAccount _ _) fun _ =>
    World.untouched.stays_disposeFetches _
  exact World.untouched.forIn fun id =>
    World.untouched.bind (untouched_unsubscribe id) fun _ => World.untouched.pure _

theorem untouched_removeAccount (a : Nat) : Stays World.Untouched (removeAccount a) := by
  unfold removeAccount
  refine World.untouched.bind (World.untouched.of_read fun h => ⟨_, run_account a h⟩) fun acc => ?_
  split
  · exact World.untouched.pure _
  · exact World.untouched.bind (untouched_modifyAccount _ _) fun _ => untouched_disposeAccount a

theorem untouched_registerAll (type : String)
    (ds : List (String × Readiness.Builder × Option Readiness.Watcher)) :
    Stays World.Untouched (registerAll type ds) := by
  unfold registerAll
  refine World.untouched.bind World.untouched.stays_get fun h => ?_
  split
  refine World.untouched.bind (Stays.of_modify fun _ => .of_same rfl rfl rfl rfl)
    fun _ => ?_
  split
  · exact World.untouched.pure _
  · exact World.untouched.pure _

/-- A client that starts watches its name and changes nothing the books read. -/
theorem untouched_openClient (c : Nat) (name : String) : Stays World.Untouched (openClient c name) := by
  unfold openClient
  exact World.untouched.bind (untouched_modifyProxy _ _ fun _ => rfl) fun _ =>
    World.untouched.bind (untouched_subscribe _ _) fun _ =>
      untouched_modifyClient _ _ (fun _ => rfl) fun _ => rfl

end Untouching

/-! ## Requests and the frames reading their replies -/

namespace World

section Frames

variable {h : World} {S : List Frame} {F : Frame}

/-- A frame that reads no listing of names leaves the listing's share as it was. -/
theorem listingShare_cons (listing : F.isListing = false) :
    h.listingShare (F :: S) = h.listingShare S := by
  simp [listingShare, List.any_cons, listing]

theorem listingShare_le_one : h.listingShare S ≤ 1 := by
  unfold listingShare
  split <;> omega

/-- While the activatable names are read, their share is held. -/
theorem listingShare_listing : h.listingShare (.listing :: S) = 1 := by
  simp [listingShare, Frame.isListing]

theorem Listings.push (listings : h.Listings S) (naming : F.isNaming = false)
    (listing : F.isListing = false) : h.Listings (F :: S) := by
  obtain ⟨namesOnce, listOnce, namesStarted, listAfterNames, naming', namingOnce, listing',
    listingOnce⟩ := listings
  refine ⟨namesOnce, listOnce, namesStarted, listAfterNames, fun reading => naming' ?_, ?_,
    fun reading => listing' ?_, ?_⟩
  · simpa [naming] using reading
  · simpa [List.countP_cons, naming] using namingOnce
  · simpa [listing] using reading
  · simpa [List.countP_cons, listing] using listingOnce

theorem Listings.pop (listings : h.Listings (F :: S)) : h.Listings S := by
  obtain ⟨namesOnce, listOnce, namesStarted, listAfterNames, naming, namingOnce, listing,
    listingOnce⟩ := listings
  refine ⟨namesOnce, listOnce, namesStarted, listAfterNames, fun reading => naming ?_, ?_,
    fun reading => listing ?_, ?_⟩
  · simp [reading]
  · simp only [List.countP_cons] at namingOnce
    omega
  · simp [reading]
  · simp only [List.countP_cons] at listingOnce
    omega

/-- An operation under way that reads no listing leaves the startup books as they were. -/
theorem Startup.push {owed : Nat} (startup : h.Startup S owed) (naming : F.isNaming = false)
    (listing : F.isListing = false) : h.Startup (F :: S) owed :=
  { startup with
    listings := startup.listings.push naming listing
    locked := fun r registered open' => by
      obtain ⟨pending, held, complete⟩ := startup.locked r registered open'
      rw [← listingShare_cons (S := S) (h := h) listing] at pending complete
      exact ⟨pending, held, complete⟩
    shut := fun r registered closed idle => by
      rw [listingShare_cons listing]
      exact startup.shut r registered closed idle }

theorem Startup.pop {owed : Nat} (startup : h.Startup (F :: S) owed)
    (listing : F.isListing = false) : h.Startup S owed :=
  { startup with
    listings := startup.listings.pop
    locked := fun r registered open' => by
      obtain ⟨pending, held, complete⟩ := startup.locked r registered open'
      rw [listingShare_cons (S := S) (h := h) listing] at pending complete
      exact ⟨pending, held, complete⟩
    shut := fun r registered closed idle => by
      rw [← listingShare_cons listing]
      exact startup.shut r registered closed idle }

/-- Once the activatable names are read, the listing's share is owed: the names are answered,
and no other operation reads them. -/
theorem Startup.pop_listing (startup : h.Startup (.listing :: S) 0) : h.Startup S 1 := by
  have listed : h.listed = true := startup.listings.listing (by simp [Frame.isListing])
  have alone : S.any Frame.isListing = false := by
    have once := startup.listings.listingOnce
    simp only [List.countP_cons, Frame.isListing, ↓reduceIte] at once
    have none : S.countP Frame.isListing = 0 := by omega
    rw [List.countP_eq_zero] at none
    simpa [List.any_eq_false] using none
  have share : h.listingShare S = 0 := by simp [listingShare, listed, alone]
  refine ⟨startup.listings.pop, startup.enrolled, startup.listening, fun r registered open' => ?_,
    fun r registered closed idle => ?_⟩
  · obtain ⟨pending, held, complete⟩ := startup.locked r registered open'
    refine ⟨fun idle => ?_, held, fun done => ?_⟩
    · obtain ⟨counted, positive⟩ := pending idle
      rw [listingShare_listing] at counted
      rw [share]
      exact ⟨by omega, positive⟩
    · -- startup is not complete while the listing's share is held
      have held := (complete done).2.2.1
      rw [listingShare_listing] at held
      cases held
  · have counted := startup.shut r registered closed idle
    rw [listingShare_listing] at counted
    rw [share]
    omega

/-- A closed registry that stops reading the activatable names keeps the books. -/
theorem Startup.abandon_listing {owed : Nat} (startup : h.Startup (.listing :: S) owed)
    (closed : ∀ r, h.registry = some r → r.closed = true) : h.Startup S owed := by
  refine ⟨startup.listings.pop, startup.enrolled, startup.listening, fun r registered open' => ?_,
    fun r registered shut idle => ?_⟩
  · rw [closed r registered] at open'
    cases open'
  · have counted := startup.shut r registered shut idle
    have le : h.listingShare S ≤ 1 := listingShare_le_one
    rw [listingShare_listing] at counted
    omega

end Frames


section Calls

variable {h : World} {S : List Frame}

/-- A call recorded on the bus comes last, unanswered; the others stay as they were. -/
theorem getD_record (dest path method : String) (args : List Value) (route : Route) (j : Nat) :
    (h.bus.record dest path method args route).1.calls.getD j default =
      if j = h.bus.calls.size then { dest, path, method, args, route } else h.bus.calls.getD j default :=
  getD_push _ _ _

/-- Marking a call answered changes no route, and answers that call alone. -/
theorem getD_markAnswered (i j : Nat) :
    ((h.bus.markAnswered i).calls.getD j default).route = (h.bus.calls.getD j default).route ∧
    ((h.bus.markAnswered i).calls.getD j default).answered =
      ((h.bus.calls.getD j default).answered || (i = j ∧ j < h.bus.calls.size)) := by
  simp only [Bus.Scripted.markAnswered, getD_modify]
  split
  · rename_i same
    simp [same]
  · rename_i other
    simp [other]

/-- A call recorded on the bus is unanswered, so it leaves the listing answered or not. -/
theorem listed_record (dest path method : String) (args : List Value) (route : Route) :
    { h with bus := (h.bus.record dest path method args route).1 }.listed = h.listed := by
  simp [listed, Bus.Scripted.record]

/-- After a call is recorded, a call with another route was there before. -/
theorem record_old {dest path method : String} {args : List Value} {route : Route} {j : Nat}
    (inside : j < (h.bus.record dest path method args route).1.calls.size)
    (differs : ((h.bus.record dest path method args route).1.calls.getD j default).route ≠ route) :
    j < h.bus.calls.size ∧
      (h.bus.record dest path method args route).1.calls.getD j default = h.bus.calls.getD j default := by
  have sized : (h.bus.record dest path method args route).1.calls.size = h.bus.calls.size + 1 :=
    Array.size_push _
  rw [getD_record] at differs ⊢
  split at differs
  · exact absurd rfl differs
  · rename_i other
    exact ⟨by omega, if_neg other⟩

/-- A call recorded on the bus that asks for no activatable names keeps the requests and their
readers, when it asks for the names only for a started registry that has not asked for them. -/
theorem Listings.record (listings : h.Listings S) (dest path method : String) (args : List Value)
    {route : Route}
    (names : route = .names → (∀ i < h.bus.calls.size, (h.bus.calls.getD i default).route ≠ .names) ∧
      ∃ r, h.registry = some r ∧ r.started = true)
    (listing : route ≠ .activatableNames) :
    { h with bus := (h.bus.record dest path method args route).1 }.Listings S := by
  obtain ⟨namesOnce, listOnce, namesStarted, listAfterNames, naming, namingOnce, listing',
    listingOnce⟩ := listings
  have sized : (h.bus.record dest path method args route).1.calls.size = h.bus.calls.size + 1 :=
    Array.size_push _
  -- a call listing the names is the new one or was there before
  have named : ∀ j < (h.bus.record dest path method args route).1.calls.size,
      ((h.bus.record dest path method args route).1.calls.getD j default).route = .names →
      (j = h.bus.calls.size ∧ route = .names) ∨ (j < h.bus.calls.size ∧
        (h.bus.calls.getD j default).route = .names) := by
    intro j inside same
    by_cases fresh : route = .names
    · rw [getD_record] at same
      split at same
      · exact .inl ⟨by assumption, fresh⟩
      · exact .inr ⟨by omega, same⟩
    · obtain ⟨inside, old⟩ := record_old inside (same ▸ Ne.symm fresh)
      exact .inr ⟨inside, old ▸ same⟩
  refine ⟨fun i inside j within called called' => ?_, fun i inside j within asked asked' => ?_,
    fun i inside called => ?_, fun i inside asked => ?_, fun reading => ?_, namingOnce,
    fun reading => ?_, listingOnce⟩
  · rcases named i inside called with ⟨rfl, fresh⟩ | ⟨inside, old⟩ <;>
      rcases named j within called' with ⟨rfl, fresh'⟩ | ⟨within, old'⟩
    · rfl
    · exact absurd old' ((names fresh).1 j within)
    · exact absurd old ((names fresh').1 i inside)
    · exact namesOnce i inside j within old old'
  · obtain ⟨inside, same⟩ := record_old inside (asked ▸ Ne.symm listing)
    obtain ⟨within, same'⟩ := record_old within (asked' ▸ Ne.symm listing)
    rw [same] at asked
    rw [same'] at asked'
    exact listOnce i inside j within asked asked'
  · rcases named i inside called with ⟨-, fresh⟩ | ⟨inside, old⟩
    · exact (names fresh).2
    · exact namesStarted i inside old
  · obtain ⟨inside, same⟩ := record_old inside (asked ▸ Ne.symm listing)
    rw [same] at asked
    obtain ⟨j, within, called, answered⟩ := listAfterNames i inside asked
    refine ⟨j, by rw [sized]; omega, ?_⟩
    rw [getD_record, if_neg (by omega)]
    exact ⟨called, answered⟩
  · obtain ⟨unasked, j, within, called, answered⟩ := naming reading
    refine ⟨fun i inside asked => ?_, j, by rw [sized]; omega, ?_⟩
    · obtain ⟨inside, same⟩ := record_old inside (asked ▸ Ne.symm listing)
      rw [same] at asked
      exact unasked i inside asked
    · rw [getD_record, if_neg (by omega)]
      exact ⟨called, answered⟩
  · rw [listed_record]
    exact listing' reading

/-- The request for the activatable names, recorded at the end of reading the names, keeps the
requests and their readers. -/
theorem Listings.record_listing (listings : h.Listings (.naming :: S)) (dest path method : String)
    (args : List Value) :
    { h with bus := (h.bus.record dest path method args .activatableNames).1 }.Listings S := by
  obtain ⟨namesOnce, listOnce, namesStarted, listAfterNames, naming, namingOnce, listing,
    listingOnce⟩ := listings
  obtain ⟨unasked, j, within, called, answered⟩ := naming (by simp [Frame.isNaming])
  have sized : (h.bus.record dest path method args .activatableNames).1.calls.size =
      h.bus.calls.size + 1 := Array.size_push _
  -- the only call asking for the activatable names is the new one
  have asking : ∀ i < (h.bus.record dest path method args .activatableNames).1.calls.size,
      ((h.bus.record dest path method args .activatableNames).1.calls.getD i default).route =
        .activatableNames → i = h.bus.calls.size := by
    intro i inside asked
    rw [getD_record] at asked
    split at asked
    · assumption
    · exact absurd asked (unasked i (by omega))
  refine ⟨fun i inside k within' called called' => ?_, fun i inside k within' asked asked' => ?_,
    fun i inside called => ?_, fun i inside asked => ?_, fun reading => ?_, ?_,
    fun reading => ?_, ?_⟩
  · obtain ⟨inside, same⟩ := record_old inside (by rw [called]; intro same; cases same)
    obtain ⟨within', same'⟩ := record_old within' (by rw [called']; intro same; cases same)
    rw [same] at called
    rw [same'] at called'
    exact namesOnce i inside k within' called called'
  · rw [asking i inside asked, asking k within' asked']
  · obtain ⟨inside, same⟩ := record_old inside (by rw [called]; intro same; cases same)
    rw [same] at called
    exact namesStarted i inside called
  · refine ⟨j, by rw [sized]; omega, ?_⟩
    rw [getD_record, if_neg (by omega)]
    exact ⟨called, answered⟩
  · simp only [List.countP_cons, Frame.isNaming, ↓reduceIte] at namingOnce
    have none : S.countP Frame.isNaming = 0 := by omega
    rw [List.countP_eq_zero] at none
    obtain ⟨F, member, reads⟩ := List.any_eq_true.mp reading
    exact absurd reads (none F member)
  · simp only [List.countP_cons] at namingOnce
    omega
  · rw [listed_record]
    exact listing (by simp [reading])
  · simp only [List.countP_cons] at listingOnce
    omega

/-- Once a call is answered, the activatable names are answered exactly when they were before
or that call asked for them. -/
theorem listed_markAnswered {i : Nat} (inside : i < h.bus.calls.size) :
    { h with bus := h.bus.markAnswered i }.listed = true ↔
      h.listed = true ∨ (h.bus.calls.getD i default).route = .activatableNames := by
  have sized : (h.bus.markAnswered i).calls.size = h.bus.calls.size := Array.size_modify ..
  simp only [listed_iff, sized]
  constructor
  · rintro ⟨k, within, asked, answered⟩
    obtain ⟨route, answered'⟩ := getD_markAnswered (h := h) i k
    rw [route] at asked
    rw [answered', Bool.or_eq_true, decide_eq_true_eq] at answered
    rcases answered with answered | ⟨rfl, -⟩
    · exact .inl ⟨k, within, asked, answered⟩
    · exact .inr asked
  · rintro (⟨k, within, asked, answered⟩ | asked)
    · obtain ⟨route, answered'⟩ := getD_markAnswered (h := h) i k
      exact ⟨k, within, route ▸ asked, by rw [answered', answered, Bool.true_or]⟩
    · obtain ⟨route, answered'⟩ := getD_markAnswered (h := h) i i
      refine ⟨i, inside, route ▸ asked, ?_⟩
      rw [answered']
      simp [inside]

section Answer

variable {i : Nat} (listings : h.Listings S) (inside : i < h.bus.calls.size)
  (unanswered : (h.bus.calls.getD i default).answered = false)
include listings inside unanswered

/-- An unanswered call to list the names is the only one, so no reply to it is being read and
the activatable names are not yet asked for. -/
theorem Listings.names_unanswered (called : (h.bus.calls.getD i default).route = .names) :
    S.any Frame.isNaming = false ∧
      ∀ k < h.bus.calls.size, (h.bus.calls.getD k default).route ≠ .activatableNames := by
  have answeredNames : ∀ j < h.bus.calls.size, (h.bus.calls.getD j default).route = .names →
      (h.bus.calls.getD j default).answered = true → False := by
    intro j within called' answered
    rw [listings.namesOnce j within i inside called' called, unanswered] at answered
    cases answered
  refine ⟨?_, fun k within asked => ?_⟩
  · cases reading : S.any Frame.isNaming
    · rfl
    · obtain ⟨-, j, within, called', answered⟩ := listings.naming reading
      exact (answeredNames j within called' answered).elim
  · obtain ⟨j, within', called', answered⟩ := listings.listAfterNames k within asked
    exact answeredNames j within' called' answered

/-- An unanswered call for the activatable names is the only one, so they are not answered and
no reply to them is being read. -/
theorem Listings.listing_unanswered (asked : (h.bus.calls.getD i default).route = .activatableNames) :
    h.listed = false ∧ S.any Frame.isListing = false := by
  have unlisted : h.listed = false := by
    cases listed : h.listed
    · rfl
    · obtain ⟨k, within, asked', answered⟩ := listed_iff.mp listed
      rw [listings.listOnce k within i inside asked' asked, unanswered] at answered
      cases answered
  refine ⟨unlisted, ?_⟩
  cases reading : S.any Frame.isListing
  · rfl
  · rw [listings.listing reading] at unlisted
    cases unlisted

/-- Answering a call keeps the requests, with the reader of its reply under way. -/
theorem Listings.answer :
    { h with bus := h.bus.markAnswered i }.Listings (Frame.onReply (h.bus.calls.getD i default).route S) := by
  have sized : (h.bus.markAnswered i).calls.size = h.bus.calls.size := Array.size_modify ..
  have route : ∀ k, ((h.bus.markAnswered i).calls.getD k default).route =
      (h.bus.calls.getD k default).route := fun k => (getD_markAnswered i k).1
  have answered : ∀ k, (h.bus.calls.getD k default).answered = true →
      ((h.bus.markAnswered i).calls.getD k default).answered = true := fun k was => by
    rw [(getD_markAnswered i k).2, was, Bool.true_or]
  have answeredNow : ((h.bus.markAnswered i).calls.getD i default).answered = true := by
    rw [(getD_markAnswered i i).2]
    simp [inside]
  have within : i < (h.bus.markAnswered i).calls.size := by
    rw [sized]
    exact inside
  obtain ⟨namesOnce, listOnce, namesStarted, listAfterNames, naming, namingOnce, listing,
    listingOnce⟩ := listings
  -- what does not depend on the readers under way
  have base : ∀ k < (h.bus.markAnswered i).calls.size, ∀ j < (h.bus.markAnswered i).calls.size,
      ((h.bus.markAnswered i).calls.getD k default).route = .names →
      ((h.bus.markAnswered i).calls.getD j default).route = .names → k = j := by
    intro k within j within' called called'
    rw [route] at called called'
    rw [sized] at within within'
    exact namesOnce k within j within' called called'
  have base' : ∀ k < (h.bus.markAnswered i).calls.size, ∀ j < (h.bus.markAnswered i).calls.size,
      ((h.bus.markAnswered i).calls.getD k default).route = .activatableNames →
      ((h.bus.markAnswered i).calls.getD j default).route = .activatableNames → k = j := by
    intro k within j within' asked asked'
    rw [route] at asked asked'
    rw [sized] at within within'
    exact listOnce k within j within' asked asked'
  have started : ∀ k < (h.bus.markAnswered i).calls.size,
      ((h.bus.markAnswered i).calls.getD k default).route = .names →
      ∃ r, h.registry = some r ∧ r.started = true := by
    intro k within called
    rw [route] at called
    rw [sized] at within
    exact namesStarted k within called
  have after : ∀ k < (h.bus.markAnswered i).calls.size,
      ((h.bus.markAnswered i).calls.getD k default).route = .activatableNames →
      ∃ j < (h.bus.markAnswered i).calls.size, ((h.bus.markAnswered i).calls.getD j default).route = .names ∧
        ((h.bus.markAnswered i).calls.getD j default).answered = true := by
    intro k within asked
    rw [route] at asked
    rw [sized] at within
    obtain ⟨j, within', called, was⟩ := listAfterNames k within asked
    exact ⟨j, by rw [sized]; exact within', by rw [route]; exact called, answered j was⟩
  -- a reader of the names already under way stays so
  have naming' : S.any Frame.isNaming = true →
      (∀ k < (h.bus.markAnswered i).calls.size,
        ((h.bus.markAnswered i).calls.getD k default).route ≠ .activatableNames) ∧
      ∃ j < (h.bus.markAnswered i).calls.size, ((h.bus.markAnswered i).calls.getD j default).route = .names ∧
        ((h.bus.markAnswered i).calls.getD j default).answered = true := by
    intro reading
    obtain ⟨unasked, j, within, called, was⟩ := naming reading
    refine ⟨fun k within' asked => ?_, j, by rw [sized]; exact within, by rw [route]; exact called,
      answered j was⟩
    rw [route] at asked
    rw [sized] at within'
    exact unasked k within' asked
  have listing' : S.any Frame.isListing = true → { h with bus := h.bus.markAnswered i }.listed = true :=
    fun reading => (listed_markAnswered inside).mpr (.inl (listing reading))
  cases called : (h.bus.calls.getD i default).route with
  | names =>
    obtain ⟨idle, unasked⟩ := Listings.names_unanswered ⟨namesOnce, listOnce, namesStarted,
      listAfterNames, naming, namingOnce, listing, listingOnce⟩ inside unanswered called
    have calledNow : ((h.bus.markAnswered i).calls.getD i default).route = .names := by
      rw [route, called]
    refine ⟨base, base', started, after, fun _ => ⟨fun k within' asked => ?_, i, within, calledNow,
      answeredNow⟩, ?_, fun reading => listing' ?_, ?_⟩
    · rw [route] at asked
      rw [sized] at within'
      exact unasked k within' asked
    · simp only [Frame.onReply, List.countP_cons, Frame.isNaming, ↓reduceIte]
      have none : S.countP Frame.isNaming = 0 :=
        List.countP_eq_zero.mpr fun F member reads => by
          rw [List.any_eq_false] at idle
          exact idle F member reads
      omega
    · simpa [Frame.onReply, Frame.isListing] using reading
    · simpa [Frame.onReply, List.countP_cons, Frame.isListing] using listingOnce
  | activatableNames =>
    obtain ⟨-, idle⟩ := Listings.listing_unanswered ⟨namesOnce, listOnce, namesStarted,
      listAfterNames, naming, namingOnce, listing, listingOnce⟩ inside unanswered called
    refine ⟨base, base', started, after, fun reading => naming' ?_, ?_,
      fun _ => (listed_markAnswered inside).mpr (.inr called), ?_⟩
    · simpa [Frame.onReply, Frame.isNaming] using reading
    · simpa [Frame.onReply, List.countP_cons, Frame.isNaming] using namingOnce
    · simp only [Frame.onReply, List.countP_cons, Frame.isListing, ↓reduceIte]
      have none : S.countP Frame.isListing = 0 :=
        List.countP_eq_zero.mpr fun F member reads => by
          rw [List.any_eq_false] at idle
          exact idle F member reads
      omega
  | fetch f =>
    refine ⟨base, base', started, after, fun reading => naming' ?_, ?_, fun reading => listing' ?_, ?_⟩
    · simpa [Frame.onReply, Frame.isNaming] using reading
    · simpa [Frame.onReply, List.countP_cons, Frame.isNaming] using namingOnce
    · simpa [Frame.onReply, Frame.isListing] using reading
    · simpa [Frame.onReply, List.countP_cons, Frame.isListing] using listingOnce
  | avatar a => exact ⟨base, base', started, after, naming', namingOnce, listing', listingOnce⟩
  | tapCall => exact ⟨base, base', started, after, naming', namingOnce, listing', listingOnce⟩
  | tapProperties => exact ⟨base, base', started, after, naming', namingOnce, listing', listingOnce⟩
  | tapNames => exact ⟨base, base', started, after, naming', namingOnce, listing', listingOnce⟩

/-- Answering a call leaves the listing's share as it was: an answer to the activatable names
starts reading them, which holds the share until done. -/
theorem listingShare_answer :
    { h with bus := h.bus.markAnswered i }.listingShare (Frame.onReply (h.bus.calls.getD i default).route S) =
      h.listingShare S := by
  cases called : (h.bus.calls.getD i default).route with
  | activatableNames =>
    obtain ⟨unlisted, -⟩ := listings.listing_unanswered inside unanswered called
    simp [listingShare, Frame.onReply, Frame.isListing, unlisted]
  | _ =>
    have same : { h with bus := h.bus.markAnswered i }.listed = h.listed := by
      rw [Bool.eq_iff_iff, listed_markAnswered inside, called]
      simp
    simp [listingShare, Frame.onReply, Frame.isListing, same]

end Answer

end Calls

end World

/-! ## The registry's own operations -/

namespace World

/-- What a call asks of the books: the names on the bus are asked for once, by a started
registry; the activatable names at the end of reading the names. -/
def Asks (S : List Frame) (route : Route) (h : World) : Prop :=
  match route with
  | .names => (∀ i < h.bus.calls.size, (h.bus.calls.getD i default).route ≠ .names) ∧
      ∃ r, h.registry = some r ∧ r.started = true
  | .activatableNames => ∃ S', S = .naming :: S'
  | _ => True

/-- A call recorded as the books ask keeps them, with the reading of the names done once the
activatable names are asked for. -/
theorem Startup.record {h : World} {S : List Frame} {owed : Nat} (startup : h.Startup S owed)
    (dest path method : String) (args : List Value) {route : Route} (asks : h.Asks S route) :
    { h with bus := (h.bus.record dest path method args route).1 }.Startup (Frame.onCall route S) owed := by
  have listed := listed_record (h := h) dest path method args route
  -- the books apart from the requests read nothing of the bus but the listing's share
  have rest : ∀ S', { h with bus := (h.bus.record dest path method args route).1 }.Listings S' →
      { h with bus := (h.bus.record dest path method args route).1 }.listingShare S' = h.listingShare S →
      { h with bus := (h.bus.record dest path method args route).1 }.Startup S' owed :=
    fun S' listings share => ⟨listings,
      fun r registered => (startup.enrolled r registered).transfer rfl fun _ => rfl,
      startup.listening,
      fun r registered open' => (startup.locked r registered open').transfer share fun _ => rfl,
      fun r registered closed idle => by
        rw [share]
        exact startup.shut r registered closed idle⟩
  cases route with
  | names =>
    exact rest S (startup.listings.record dest path method args (fun _ => asks) (by intro same; cases same))
      (by simp only [listingShare, listed])
  | activatableNames =>
    obtain ⟨S', rfl⟩ := asks
    refine rest S' (startup.listings.record_listing dest path method args) ?_
    simp [listingShare, listed, Frame.isListing]
  | fetch f | avatar a | tapCall | tapProperties | tapNames =>
    exact rest S (startup.listings.record dest path method args (by intro same; cases same)
      (by intro same; cases same)) (by simp only [listingShare, listed])

/-- Answering a call keeps the books, with the reader of its reply under way. -/
theorem Startup.answer {h : World} {S : List Frame} {owed i : Nat} (startup : h.Startup S owed)
    (inside : i < h.bus.calls.size) (unanswered : (h.bus.calls.getD i default).answered = false) :
    { h with bus := h.bus.markAnswered i }.Startup
      (Frame.onReply (h.bus.calls.getD i default).route S) owed :=
  have share := listingShare_answer startup.listings inside unanswered
  ⟨startup.listings.answer inside unanswered,
    fun r registered => (startup.enrolled r registered).transfer rfl fun _ => rfl,
    startup.listening,
    fun r registered open' => (startup.locked r registered open').transfer share fun _ => rfl,
    fun r registered closed idle => by
      rw [share]
      exact startup.shut r registered closed idle⟩

/-- The requests on the bus as they were, and a registry started if it was, keep the requests
and their readers. -/
theorem Listings.of_started {h h' : World} {S : List Frame} (listings : h.Listings S)
    (calls : h'.bus.calls = h.bus.calls)
    (started : ∀ r, h.registry = some r → r.started = true → ∃ r', h'.registry = some r' ∧ r'.started = true) :
    h'.Listings S := by
  obtain ⟨namesOnce, listOnce, namesStarted, listAfterNames, naming, namingOnce, listing,
    listingOnce⟩ := listings
  rw [← calls] at namesOnce listOnce namesStarted listAfterNames naming
  rw [← listed_of_calls calls] at listing
  refine ⟨namesOnce, listOnce, fun i inside called => ?_, listAfterNames, naming, namingOnce,
    listing, listingOnce⟩
  obtain ⟨r, present, begun⟩ := namesStarted i inside called
  exact started r present begun

/-- A registry replaced by a later state of it, started if it was, keeps the requests and their
readers. -/
theorem Listings.of_registry {h : World} {S : List Frame} {r r' : Registry} (listings : h.Listings S)
    (registered : h.registry = some r) (started : r.started = true → r'.started = true) :
    { h with registry := some r' }.Listings S := by
  obtain ⟨namesOnce, listOnce, namesStarted, listAfterNames, naming, namingOnce, listing,
    listingOnce⟩ := listings
  refine ⟨namesOnce, listOnce, fun i inside called => ?_, listAfterNames, naming, namingOnce,
    listing, listingOnce⟩
  obtain ⟨r'', same, started''⟩ := namesStarted i inside called
  rw [registered, Option.some.injEq] at same
  subst same
  exact ⟨r', rfl, started started''⟩

/-- A registry replaced by a later state of it, started if it was, enrolled, listening exactly
while open and with its lock accounted for, keeps the books. -/
theorem Startup.of_registry {h : World} {S : List Frame} {owed : Nat} {r r' : Registry}
    (listings : h.Listings S) (registered : h.registry = some r)
    (started : r.started = true → r'.started = true) (enrolled : r'.Enrolled h)
    (listening : r'.listening = true ↔ r'.closed = false)
    (locked : r'.closed = false → r'.Locked S h owed)
    (shut : r'.closed = true → r'.startedUp = false →
      h.listingShare S + r'.entries.countP (·.lockHeld) + owed ≤ r'.startupLock) :
    { h with registry := some r' }.Startup S owed := by
  refine ⟨listings.of_registry registered started, fun r'' same => ?_, fun r'' same => ?_,
    fun r'' same => ?_, fun r'' same => ?_⟩
  all_goals
    cases same
  · exact enrolled.transfer rfl fun _ => rfl
  · exact listening
  · exact fun open' => (locked open').transfer rfl fun _ => rfl
  · exact shut

/-- A registry that changes neither its entries, its lock nor its phase keeps the books, provided
it stays started once started. -/
theorem Startup.of_phase {h : World} {S : List Frame} {owed : Nat} {r r' : Registry}
    (startup : h.Startup S owed) (registered : h.registry = some r)
    (started : r.started = true → r'.started = true) (entries : r'.entries = r.entries)
    (lock : r'.startupLock = r.startupLock) (startedUp : r'.startedUp = r.startedUp)
    (closed : r'.closed = r.closed) (listening : r'.listening = r.listening) :
    { h with registry := some r' }.Startup S owed := by
  refine Startup.of_registry startup.listings registered started
    ((startup.enrolled r registered).of_entries entries) ?_ (fun open' => ?_) fun shut idle => ?_
  · rw [listening, closed]
    exact startup.listening r registered
  · rw [closed] at open'
    obtain ⟨pending, held, complete⟩ := startup.locked r registered open'
    rw [← entries, ← lock, ← startedUp] at pending complete
    rw [← entries, ← startedUp] at held
    exact ⟨pending, held, complete⟩
  · rw [closed] at shut
    rw [startedUp] at idle
    rw [entries, lock]
    exact startup.shut r registered shut idle

/-- With its registry started up or gone, the books owe nothing. -/
theorem Startup.of_startedUp {h : World} {S : List Frame} {owed : Nat} (startup : h.Startup S owed)
    (done : ∀ r, h.registry = some r → r.startedUp = true) : h.Startup S 0 := by
  refine { startup with locked := fun r registered open' => ?_, shut := fun r registered _ idle => ?_ }
  · obtain ⟨-, -, complete⟩ := startup.locked r registered open'
    obtain ⟨-, lock, share, free⟩ := complete (done r registered)
    refine ⟨fun idle => ?_, fun idle => ?_, fun _ => ⟨rfl, lock, share, free⟩⟩
    · rw [done r registered] at idle
      cases idle
    · rw [done r registered] at idle
      cases idle
  · rw [done r registered] at idle
    cases idle

/-! ## What the notes report -/

section Announces

variable {h₀ h : World} {notes : List Note}

/-- Nothing is reported on the way from a world to itself. -/
theorem Announces.refl (h : World) : h.Announces [] h := by
  refine ⟨id, fun r₀ registered => ⟨r₀, registered, id, id⟩, .inl rfl,
    fun r₀ r registered current idle done _ => ?_⟩
  rw [registered, Option.some.injEq] at current
  subst current
  rw [idle] at done
  cases done

/-- Notes taken from a registry already started up report nothing of the lock. -/
theorem Announces.silent_of_done (announces : h₀.Announces notes h) {r₀ : Registry}
    (registered : h₀.registry = some r₀) (done : r₀.startedUp = true) : Note.lockNotesIn notes = [] := by
  rcases announces.once with none | ⟨-, r₀', -, registered', -, idle, -, -⟩
  · exact none
  · rw [registered, Option.some.injEq] at registered'
    rw [← registered', done] at idle
    cases idle

/-- Notes taken on the way to a registry not yet started up report nothing of the lock. -/
theorem Announces.silent_of_idle (announces : h₀.Announces notes h) {r : Registry}
    (current : h.registry = some r) (idle : r.startedUp = false) : Note.lockNotesIn notes = [] := by
  rcases announces.once with none | ⟨-, -, r', -, current', -, -, done⟩
  · exact none
  · rw [current, Option.some.injEq] at current'
    rw [← current', idle] at done
    cases done

/-- The registry stays, and neither its startup nor its closing is undone, nor startup completed
while it is open: what was reported stays true. -/
theorem Announces.follow {h' : World} (announces : h₀.Announces notes h)
    (absent : h.registry = none → h'.registry = none)
    (kept : ∀ r, h.registry = some r → ∃ r', h'.registry = some r' ∧
      (r.startedUp = true → r'.startedUp = true) ∧ (r.closed = true → r'.closed = true) ∧
      (r'.startedUp = true → r'.closed = false → r.startedUp = true)) :
    h₀.Announces notes h' := by
  obtain ⟨absent₀, kept₀, once, flipped⟩ := announces
  refine ⟨fun gone => absent (absent₀ gone), fun r₀ registered => ?_, ?_,
    fun r₀ r' registered current idle done open' => ?_⟩
  · obtain ⟨r, present, startedUp, closed⟩ := kept₀ r₀ registered
    obtain ⟨r', present', startedUp', closed', -⟩ := kept r present
    exact ⟨r', present', fun done => startedUp' (startedUp done), fun shut => closed' (closed shut)⟩
  · rcases once with none | ⟨one, r₀, r, registered, current, idle, open', done⟩
    · exact .inl none
    · obtain ⟨r', current', startedUp', -, -⟩ := kept r current
      exact .inr ⟨one, r₀, r', registered, current', idle, open', startedUp' done⟩
  · obtain ⟨r, present, -, -⟩ := kept₀ r₀ registered
    obtain ⟨r'', present', -, closed', flips⟩ := kept r present
    rw [current, Option.some.injEq] at present'
    subst present'
    -- the registry was open before, since closing is not undone, and had started up already
    have open'' : r.closed = false := by
      cases shut : r.closed
      · rfl
      · rw [closed' shut] at open'
        cases open'
    exact flipped r₀ r registered present idle (flips done open') open''

theorem Announces.of_registry {r r' : Registry} (announces : h₀.Announces notes h)
    (registered : h.registry = some r) (startedUp : r.startedUp = true → r'.startedUp = true)
    (closed : r.closed = true → r'.closed = true)
    (flips : r'.startedUp = true → r'.closed = false → r.startedUp = true) :
    h₀.Announces notes { h with registry := some r' } :=
  announces.follow (fun gone => by rw [registered] at gone; cases gone)
    fun r'' current => by
      rw [registered, Option.some.injEq] at current
      subst current
      exact ⟨r', rfl, startedUp, closed, flips⟩

/-- Changing nothing of the registry keeps what was reported. -/
theorem Announces.of_same {h' : World} (announces : h₀.Announces notes h)
    (registry : h'.registry = h.registry) : h₀.Announces notes h' :=
  announces.follow (fun gone => registry.trans gone)
    fun r present => ⟨r, registry.trans present, id, id, fun done _ => done⟩

/-- Notes that report the same of the lock report it alike. -/
theorem Announces.of_lockNotes {ms : List Note} (announces : h₀.Announces notes h)
    (same : Note.lockNotesIn ms = Note.lockNotesIn notes) : h₀.Announces ms h := by
  obtain ⟨absent, kept, once, flipped⟩ := announces
  rw [← same] at once flipped
  exact ⟨absent, kept, once, flipped⟩

/-- Completing the startup of a registry open and not yet started up is announced once. -/
theorem Announces.announce {r r' : Registry} (announces : h₀.Announces h.notes.toList h)
    (registered : h.registry = some r) (idle : r.startedUp = false) (open' : r.closed = false)
    (done : r'.startedUp = true) (closed : r'.closed = r.closed) :
    h₀.Announces (h.notes.push .registryReady).toList
      { h with registry := some r', notes := h.notes.push .registryReady } := by
  have silent := announces.silent_of_idle registered idle
  have announced : Note.lockNotesIn (h.notes.push .registryReady).toList = [.registryReady] := by
    simp [Array.toList_push, Note.lockNotesIn, Note.lockNotes, silent]
  obtain ⟨absent, kept, -, -⟩ := announces
  obtain ⟨r₀, registered₀⟩ : ∃ r₀, h₀.registry = some r₀ := by
    cases start : h₀.registry with
    | none => rw [absent start] at registered; cases registered
    | some r₀ => exact ⟨r₀, rfl⟩
  obtain ⟨r'', current, startedUp, closed₀⟩ := kept r₀ registered₀
  rw [registered, Option.some.injEq] at current
  subst current
  refine ⟨fun gone => (by rw [registered₀] at gone; cases gone), fun r₀' same => ?_,
    .inr ⟨announced, r₀, r', registered₀, rfl, ?_, ?_, done⟩, fun _ _ _ _ _ _ _ => announced⟩
  · rw [registered₀, Option.some.injEq] at same
    subst same
    exact ⟨r', rfl, fun _ => done, fun shut => by rw [closed]; exact closed₀ shut⟩
  · cases started : r₀.startedUp
    · rfl
    · rw [startedUp started] at idle
      cases idle
  · cases shut : r₀.closed
    · rfl
    · rw [closed₀ shut] at open'
      cases open'

/-- What the notes of two stretches of a run report, one after the other: the startup is
announced in the stretch where it completed. -/
theorem Announces.append {h₁ h₂ : World} {ns ms : List Note} (first : h₀.Announces ns h₁)
    (second : h₁.Announces ms h₂) : h₀.Announces (ns ++ ms) h₂ := by
  refine ⟨fun gone => second.absent (first.absent gone), fun r₀ registered => ?_, ?_,
    fun r₀ r₂ registered current idle done open' => ?_⟩
  · obtain ⟨r₁, present₁, startedUp₁, closed₁⟩ := first.kept r₀ registered
    obtain ⟨r₂, present₂, startedUp₂, closed₂⟩ := second.kept r₁ present₁
    exact ⟨r₂, present₂, fun done => startedUp₂ (startedUp₁ done), fun shut => closed₂ (closed₁ shut)⟩
  · rw [Note.lockNotesIn_append]
    rcases first.once with none₁ | ⟨one₁, r₀, r₁, registered, present₁, idle, open', done⟩
    · rw [none₁, List.nil_append]
      rcases second.once with none₂ | ⟨one₂, r₁, r₂, present₁, present₂, idle₁, open₁, done₂⟩
      · exact .inl none₂
      · -- only the second stretch announces: the registry was open and not started up before it
        obtain ⟨r₀, registered⟩ : ∃ r₀, h₀.registry = some r₀ := by
          cases start : h₀.registry with
          | none => rw [first.absent start] at present₁; cases present₁
          | some r₀ => exact ⟨r₀, rfl⟩
        obtain ⟨r₁', present₁', startedUp₁, closed₁⟩ := first.kept r₀ registered
        rw [present₁, Option.some.injEq] at present₁'
        subst present₁'
        refine .inr ⟨one₂, r₀, r₂, registered, present₂, ?_, ?_, done₂⟩
        · cases started : r₀.startedUp
          · rfl
          · rw [startedUp₁ started] at idle₁
            cases idle₁
        · cases shut : r₀.closed
          · rfl
          · rw [closed₁ shut] at open₁
            cases open₁
    · -- only the first stretch announces: the second starts from a registry started up
      rw [one₁, second.silent_of_done present₁ done]
      obtain ⟨r₂, present₂, startedUp₂, -⟩ := second.kept r₁ present₁
      exact .inr ⟨rfl, r₀, r₂, registered, present₂, idle, open', startedUp₂ done⟩
  · obtain ⟨r₁, present₁, -, closed₁⟩ := first.kept r₀ registered
    obtain ⟨r₂', present₂, -, closed₂⟩ := second.kept r₁ present₁
    rw [current, Option.some.injEq] at present₂
    subst present₂
    have open₁ : r₁.closed = false := by
      cases shut : r₁.closed
      · rfl
      · rw [closed₂ shut] at open'
        cases open'
    rw [Note.lockNotesIn_append]
    -- startup completed in one of the two stretches
    cases started : r₁.startedUp
    · rw [first.silent_of_idle present₁ started,
        second.flipped r₁ _ present₁ current started done open']
      rfl
    · rw [first.flipped r₀ r₁ registered present₁ idle started open₁,
        second.silent_of_done present₁ started]
      rfl

end Announces

end World

/-! ## Releasing the lock -/

/-- A share owed is still in the lock, which startup has not completed. -/
theorem Registry.Locked.owing {r : Registry} {S : List Frame} {h : World} {owed : Nat}
    (locked : r.Locked S h (owed + 1)) : r.startedUp = false ∧ 0 < r.startupLock := by
  cases idle : r.startedUp
  · exact ⟨rfl, (locked.pending idle).2⟩
  · cases (locked.complete idle).1

/-- Giving back a share owed, with more left in the lock. -/
theorem Registry.Locked.release {r : Registry} {S : List Frame} {h : World} {owed : Nat}
    (locked : r.Locked S h (owed + 1)) (more : 0 < r.startupLock - 1) :
    { r with startupLock := r.startupLock - 1 }.Locked S h owed := by
  obtain ⟨idle, -⟩ := locked.owing
  obtain ⟨counted, -⟩ := locked.pending idle
  refine ⟨fun _ => ⟨?_, more⟩, fun _ => locked.held idle, fun done => ?_⟩
  · show r.startupLock - 1 = World.listingShare S h + r.entries.countP (·.lockHeld) + owed
    omega
  · change r.startedUp = true at done
    rw [idle] at done
    cases done

/-- Giving back the last share completes startup: nothing is owed, no share is left, neither for
the listing nor for a client. -/
theorem Registry.Locked.complete_last {r : Registry} {S : List Frame} {h : World}
    (locked : r.Locked S h 1) (last : r.startupLock - 1 = 0) :
    { r with startupLock := r.startupLock - 1, startedUp := true }.Locked S h 0 := by
  obtain ⟨idle, -⟩ := locked.owing
  obtain ⟨counted, -⟩ := locked.pending idle
  have share : World.listingShare S h = 0 := by omega
  have none : r.entries.countP (·.lockHeld) = 0 := by omega
  refine ⟨fun idle' => ?_, fun idle' => ?_, fun _ => ⟨rfl, last, share, fun e entry => ?_⟩⟩
  · cases idle'
  · cases idle'
  · simpa using List.countP_eq_zero.mp none e entry

namespace World

/-- Giving back the share owed keeps the books: the lock is positive, open or closed, so it is
never released below zero. The last share completes startup, which is announced if the registry
listens: nothing was announced before, since startup was not complete. -/
theorem releaseStartupLock_startup {h₀ : World} {S : List Frame} :
    Triple (fun h => h.Startup S 1 ∧ h₀.Announces h.notes.toList h) releaseStartupLock
      fun _ h => h.Startup S 0 ∧ h₀.Announces h.notes.toList h := by
  intro h u h' ⟨startup, announces⟩ run
  simp only [releaseStartupLock, bind_ok, run_registry?, EStateM.Result.ok.injEq,
    exists_returned] at run
  cases registered : h.registry with
  | none =>
    simp only [registered] at run
    rw [ok_pure run]
    exact ⟨startup.of_startedUp fun r present => (by rw [registered] at present; cases present),
      announces⟩
  | some r =>
    simp only [registered] at run
    split at run
    · -- startup is complete: nothing moves
      rename_i done
      rw [ok_pure run]
      refine ⟨startup.of_startedUp fun r' present => ?_, announces⟩
      rw [registered, Option.some.injEq] at present
      rw [← present]
      exact done
    rename_i idle
    simp only [Bool.not_eq_true] at idle
    -- the share owed is still in the lock
    have positive : 0 < r.startupLock := by
      cases open' : r.closed
      · exact (startup.locked r registered open').owing.2
      · have counted := startup.shut r registered open' idle
        omega
    split at run
    · rename_i empty
      simp only [beq_iff_eq] at empty
      omega
    have enrolled := startup.enrolled r registered
    simp only [bind_ok, run_modifyRegistry, registered, Option.map_some, EStateM.Result.ok.injEq,
      exists_returned_unit] at run
    split at run
    · rename_i more
      rw [ok_pure run]
      refine ⟨Startup.of_registry startup.listings registered id (enrolled.of_entries rfl)
        (startup.listening r registered) (fun open' => (startup.locked r registered open').release more)
        fun closed _ => ?_, announces.of_registry registered id id fun done _ => done⟩
      have counted := startup.shut r registered closed idle
      show h.listingShare S + r.entries.countP (·.lockHeld) + 0 ≤ r.startupLock - 1
      omega
    · rename_i last
      have completed : { h with registry := (some
          { r with startupLock := r.startupLock - 1, startedUp := true }) }.Startup S 0 :=
        Startup.of_registry startup.listings registered id (enrolled.of_entries rfl)
          (startup.listening r registered)
          (fun open' => (startup.locked r registered open').complete_last (by omega))
          fun _ idle' => by cases idle'
      simp only [bind_ok, run_modifyRegistry, Option.map_some, EStateM.Result.ok.injEq,
        exists_returned_unit] at run
      split at run
      · -- the registry listens, so it is open, and the completion is announced
        rename_i listening
        have open' := (startup.listening r registered).mp listening
        simp only [run_note, EStateM.Result.ok.injEq] at run
        rw [← run.2]
        exact ⟨completed.of_books rfl rfl rfl (fun _ => rfl) (fun _ => rfl),
          announces.announce registered idle open' rfl rfl⟩
      · -- a registry that does not listen is closed, and completes its startup unannounced
        rename_i deaf
        have closed : r.closed = true := by
          cases shut : r.closed
          · exact absurd ((startup.listening r registered).mpr shut) deaf
          · rfl
        rw [ok_pure run]
        refine ⟨completed, announces.of_registry registered (fun _ => rfl) id fun _ open' => ?_⟩
        change r.closed = false at open'
        rw [closed] at open'
        cases open'

end World

/-! ## A client ready -/

section Entries

variable {entries : List RegistryEntry} {c : Nat}

/-- Clearing the share of client `c` changes no entry's name or client. -/
theorem map_clear_keeps {β : Type} (field : RegistryEntry → β)
    (keeps : ∀ y : RegistryEntry, field { y with lockHeld := false } = field y) :
    (entries.map fun y => if y.client == c then { y with lockHeld := false } else y).map field =
      entries.map field := by
  rw [List.map_map]
  refine List.map_congr_left fun y _ => ?_
  simp only [Function.comp_apply]
  split
  · exact keeps y
  · rfl

/-- Clearing the share of the one entry of its client, which holds one, takes that share out of
the count. -/
theorem countP_clear {e : RegistryEntry} (clients : (entries.map (·.client)).Nodup)
    (entry : e ∈ entries) (held : e.lockHeld = true) :
    (entries.map fun y => if y.client == e.client then { y with lockHeld := false } else y).countP
      (·.lockHeld) + 1 = entries.countP (·.lockHeld) := by
  induction entries with
  | nil => exact absurd entry List.not_mem_nil
  | cons x xs ih =>
    rw [List.map_cons, List.nodup_cons] at clients
    simp only [List.map_cons, List.countP_cons]
    rcases List.mem_cons.mp entry with rfl | inside
    · -- the entry itself comes first: no later entry is of its client
      have others : (xs.map fun y => if y.client == e.client then { y with lockHeld := false } else y) = xs := by
        refine (List.map_congr_left fun y member => ?_).trans (List.map_id xs)
        have other : y.client ≠ e.client := fun same => clients.1 (same ▸ List.mem_map_of_mem member)
        simp [other]
      rw [others]
      simp [held]
    · have other : (x.client == e.client) = false := by
        simpa using fun (same : x.client = e.client) => clients.1 (same ▸ List.mem_map_of_mem inside)
      have counted := ih clients.2 inside
      simp only [other, Bool.false_eq_true, if_false]
      omega

/-- Forgetting the one entry of its name takes its share, if it holds one, out of the count. -/
theorem countP_forget {e : RegistryEntry} (names : (entries.map (·.name)).Nodup)
    (entry : e ∈ entries) :
    (entries.filter (·.name != e.name)).countP (·.lockHeld) + (if e.lockHeld then 1 else 0) =
      entries.countP (·.lockHeld) := by
  induction entries with
  | nil => exact absurd entry List.not_mem_nil
  | cons x xs ih =>
    rw [List.map_cons, List.nodup_cons] at names
    rcases List.mem_cons.mp entry with rfl | inside
    · -- the entry itself comes first: no later entry has its name
      have others : xs.filter (·.name != e.name) = xs := List.filter_eq_self.mpr fun y member => by
        have other : y.name ≠ e.name := fun same => names.1 (same ▸ List.mem_map_of_mem member)
        simp [other]
      simp [others, List.countP_cons]
    · have other : (x.name != e.name) = true := by
        simpa using fun (same : x.name = e.name) => names.1 (same ▸ List.mem_map_of_mem inside)
      have counted := ih names.2 inside
      simp only [List.filter_cons, other, if_true, List.countP_cons]
      omega

/-- The entries left after one is forgotten are of other clients. -/
theorem client_ne_of_forget {e e' : RegistryEntry} (clients : (entries.map (·.client)).Nodup)
    (entry : e ∈ entries) (member : e' ∈ entries.filter (·.name != e.name)) : e'.client ≠ e.client := by
  intro same
  obtain ⟨kept, differs⟩ := List.mem_filter.mp member
  rw [List.inj_on_of_nodup_map clients kept entry same] at differs
  simp at differs

end Entries

namespace World

/-- A client marked ready that holds no share of an open registry that has not started up keeps
the books. -/
theorem Startup.ready_free {h : World} {S : List Frame} {owed c : Nat} (startup : h.Startup S owed)
    (g : ClientObject → ClientObject) (linked : ∀ x, (g x).readyLinked = x.readyLinked)
    (free : ∀ r, h.registry = some r → r.closed = false → r.startedUp = false →
      ∀ e ∈ r.entries, e.client ≠ c) :
    { h with clients := h.clients.modify c g }.Startup S owed := by
  refine ⟨startup.listings.of_calls rfl rfl, fun r registered => ?_, startup.listening,
    fun r registered open' => ?_, startup.shut⟩
  · exact (startup.enrolled r registered).transfer (Array.size_modify ..)
      fun _ => getD_modify_of_keeps _ _ _ _ _ linked
  · obtain ⟨pending, held, complete⟩ := startup.locked r registered open'
    refine ⟨pending, fun idle e entry => ?_, complete⟩
    rw [getD_modify_ne _ _ (free r registered open' idle e entry)]
    exact held idle e entry

/-- A client marked ready whose entry holds a share, cleared: the books are kept, with that share
owed. -/
theorem Startup.ready_held {h : World} {S : List Frame} {r : Registry} {e : RegistryEntry}
    (startup : h.Startup S 0) (registered : h.registry = some r) (entry : e ∈ r.entries)
    (held : e.lockHeld = true) (g : ClientObject → ClientObject)
    (ready : ∀ x, (g x).proxy.ready = true) (linked : ∀ x, (g x).readyLinked = x.readyLinked) :
    { h with clients := h.clients.modify e.client g,
             registry := some { r with entries := r.entries.map fun (y : RegistryEntry) =>
               if y.client == e.client then { y with lockHeld := false } else y } }.Startup S 1 := by
  have sized : (h.clients.modify e.client g).size = h.clients.size := Array.size_modify ..
  have linked' : ∀ c, ((h.clients.modify e.client g).getD c default).readyLinked =
      (h.clients.getD c default).readyLinked := fun _ => getD_modify_of_keeps _ _ _ _ _ linked
  have enrolled := startup.enrolled r registered
  have cleared := countP_clear enrolled.clients entry held
  refine Startup.of_registry (h := { h with clients := h.clients.modify e.client g })
    (startup.listings.of_calls rfl rfl) registered id ?_ (startup.listening r registered)
    (fun open' => ?_) fun closed idle => ?_
  · refine ⟨?_, ?_, fun e' member => ?_, fun e' member => ?_⟩
    · rw [map_clear_keeps _ fun _ => rfl]
      exact enrolled.names
    · rw [map_clear_keeps _ fun _ => rfl]
      exact enrolled.clients
    · obtain ⟨y, member', rfl⟩ := List.mem_map.mp member
      rw [sized]
      split
      · exact enrolled.inside y member'
      · exact enrolled.inside y member'
    · obtain ⟨y, member', rfl⟩ := List.mem_map.mp member
      rw [linked']
      split
      · exact enrolled.linked y member'
      · exact enrolled.linked y member'
  · obtain ⟨pending, held', complete⟩ := startup.locked r registered open'
    -- startup is not complete, since the entry still holds a share
    have idle : r.startedUp = false := by
      cases done : r.startedUp
      · rfl
      · rw [(complete done).2.2.2 e entry] at held
        cases held
    obtain ⟨counted, positive⟩ := pending idle
    refine ⟨fun _ => ⟨?_, positive⟩, fun _ e' member => ?_, fun done => absurd (idle ▸ done) (by simp)⟩
    · show r.startupLock = listingShare S h + (r.entries.map fun y =>
        if y.client == e.client then { y with lockHeld := false } else y).countP (·.lockHeld) + 1
      omega
    · obtain ⟨y, member', rfl⟩ := List.mem_map.mp member
      by_cases same : y.client = e.client
      · have inside := enrolled.inside e entry
        simp only [same, beq_self_eq_true, if_true]
        rw [getD_modify, if_pos ⟨rfl, inside⟩, ready]
        rfl
      · simp only [same, beq_iff_eq, if_false]
        rw [getD_modify_ne _ _ same]
        exact held' idle y member'
  · have counted := startup.shut r registered closed idle
    show listingShare S h + (r.entries.map fun y =>
      if y.client == e.client then { y with lockHeld := false } else y).countP (·.lockHeld) + 1 ≤
        r.startupLock
    omega

/-- A client becoming ready keeps the books: if its entry holds a share, the share is cleared and
given back.

Proof: the client was not ready, so an entry of it in an open registry that has not started up
holds a share; an entry that holds none, or no entry at all, leaves the lock as it is. -/
theorem becomeReady_startup {h₀ : World} {S : List Frame} (c : Nat) :
    Keeps (fun h => h.Startup S 0 ∧ h₀.Announces h.notes.toList h) (becomeReady c) := by
  intro h u h' ⟨startup, announces⟩ run
  simp only [becomeReady, bind_ok, run_client, EStateM.Result.ok.injEq, exists_returned] at run
  split at run
  · rw [ok_pure run]
    exact ⟨startup, announces⟩
  rename_i unready
  simp only [Bool.not_eq_true] at unready
  simp only [bind_ok, run_modifyProxy, EStateM.Result.ok.injEq, exists_returned_unit] at run
  have announces₁ : h₀.Announces h.notes.toList
      { h with clients := h.clients.modify c fun x => { x with proxy := { x.proxy with ready := true } } } :=
    announces.of_same rfl
  -- an entry of `c` in an open registry that has not started up holds a share
  have holds : ∀ r, h.registry = some r → r.closed = false → r.startedUp = false →
      ∀ e ∈ r.entries, e.client = c → e.lockHeld = true := by
    intro r registered open' idle e entry same
    rw [(startup.locked r registered open').held idle e entry, same, unready]
    rfl
  let g : ClientObject → ClientObject := fun x => { x with proxy := { x.proxy with ready := true } }
  have readied := fun free => startup.ready_free g (fun _ => rfl) (c := c) free
  split at run
  · rename_i linked
    simp only [registryClientReady, bind_ok, run_registry?, EStateM.Result.ok.injEq,
      exists_returned] at run
    split at run
    · rename_i r registered
      split at run
      · rename_i e found
        have entry := List.mem_of_find?_eq_some found
        have same : e.client = c := by simpa using List.find?_some found
        split at run
        · rename_i held
          simp only [bind_ok, run_modifyRegistry, registered, Option.map_some,
            EStateM.Result.ok.injEq, exists_returned_unit] at run
          subst same
          exact releaseStartupLock_startup ⟨startup.ready_held registered entry held g (fun _ => rfl)
            (fun _ => rfl), announces₁.of_registry registered id id fun done _ => done⟩ run
        · rename_i free
          rw [ok_pure run]
          refine ⟨readied fun r' present open' idle e' entry' same' => ?_, announces₁⟩
          rw [registered, Option.some.injEq] at present
          subst present
          exact absurd (holds _ registered open' idle e entry same) free
      · rename_i missing
        rw [ok_pure run]
        refine ⟨readied fun r' present _ _ e' entry' same' => ?_, announces₁⟩
        rw [registered, Option.some.injEq] at present
        subst present
        exact List.find?_eq_none.mp missing e' entry' (by simp [same'])
    · rename_i missing
      rw [ok_pure run]
      exact ⟨readied fun r' present => (missing r' present).elim, announces₁⟩
  · -- a client the registry does not listen to is none of its entries
    rename_i unlinked
    rw [ok_pure run]
    refine ⟨readied fun r' present _ _ e' entry' same' => unlinked ?_, announces₁⟩
    rw [← same']
    exact (startup.enrolled r' present).linked e' entry'

/-! ## Forgetting a client -/

/-- Clients changed in size and readiness only where no entry of an open registry that has not
started up reads them, and linked wherever the registry has an entry, keep the books. -/
theorem Startup.of_clients {h : World} {S : List Frame} {owed : Nat} (startup : h.Startup S owed)
    (clients : Array ClientObject) (sized : clients.size = h.clients.size)
    (ready : ∀ r, h.registry = some r → r.closed = false → r.startedUp = false → ∀ e ∈ r.entries,
      (clients.getD e.client default).proxy.ready = (h.clients.getD e.client default).proxy.ready)
    (linked : ∀ r, h.registry = some r → ∀ e ∈ r.entries,
      (clients.getD e.client default).readyLinked = true) :
    { h with clients }.Startup S owed := by
  refine ⟨startup.listings.of_calls rfl rfl, fun r registered => ?_, startup.listening,
    fun r registered open' => ?_, startup.shut⟩
  · obtain ⟨names, clients', inside, -⟩ := startup.enrolled r registered
    refine ⟨names, clients', fun e entry => ?_, linked r registered⟩
    show e.client < clients.size
    rw [sized]
    exact inside e entry
  · obtain ⟨pending, held, complete⟩ := startup.locked r registered open'
    refine ⟨pending, fun idle e entry => ?_, complete⟩
    rw [ready r registered open' idle e entry]
    exact held idle e entry

/-- Client `c` unlinked from the registry. -/
def unlink (h : World) (c : Nat) : World :=
  { h with clients := h.clients.modify c fun x => { x with readyLinked := false, goneLinked := false } }

/-- Unlinking a client that the registry has no entry of keeps the books. -/
theorem Startup.unlink {h : World} {S : List Frame} {owed c : Nat} (startup : h.Startup S owed)
    (free : ∀ r, h.registry = some r → ∀ e ∈ r.entries, e.client ≠ c) :
    (h.unlink c).Startup S owed :=
  startup.of_clients _ (Array.size_modify ..)
    (fun r registered _ _ e entry => by rw [getD_modify_ne _ _ (free r registered e entry)])
    fun r registered e entry => by
      rw [getD_modify_ne _ _ (free r registered e entry)]
      exact (startup.enrolled r registered).linked e entry

/-- Disposing of a client touches nothing the books read but its link to the registry. -/
theorem disposeClient_unlinks {c : Nat} {h h' : World} {u : Unit}
    (run : (disposeClient c).run h = .ok u h') : ∃ h₁, h.Untouched h₁ ∧ h' = h₁.unlink c := by
  simp only [disposeClient, bind_ok, run_client, EStateM.Result.ok.injEq, exists_returned] at run
  -- the name watch ends, if there is one, then the owner closes and the fetches are forgotten
  have rest : ∀ h₁, h.Untouched h₁ → (do
      closeOwner (h.clients.getD c default).owner
      disposeFetches (.client c)
      modifyClient c fun x => { x with readyLinked := false, goneLinked := false }).run h₁ = .ok u h' →
      ∃ h₁, h.Untouched h₁ ∧ h' = h₁.unlink c := by
    intro h₁ same₁ run
    obtain ⟨_, h₂, same₂, run⟩ := (untouched.stays_closeOwner _).run_bind run
    obtain ⟨_, h₃, same₃, run⟩ := (untouched.stays_disposeFetches _).run_bind run
    simp only [run_modifyClient, EStateM.Result.ok.injEq] at run
    exact ⟨h₃, (same₁.trans same₂).trans same₃, run.2.symm⟩
  split at run
  · obtain ⟨_, h₁, same₁, run⟩ := (untouched_unsubscribe _).run_bind run
    obtain ⟨_, h₂, same₂, run⟩ :=
      (Hub.untouched_modifyClient c (fun x => { x with nameWatch := none }) (fun _ => rfl)
        fun _ => rfl).run_bind run
    exact rest h₂ (same₁.trans same₂) run
  · exact rest h (Untouched.refl h) run

/-- Forgetting the entry of a client, unlinked, keeps the books with the entry's share, if it
held one, owed. -/
theorem Startup.forget {h : World} {S : List Frame} {r : Registry} {e : RegistryEntry}
    (startup : h.Startup S 0) (registered : h.registry = some r) (entry : e ∈ r.entries) :
    { h.unlink e.client with registry :=
        (some { r with entries := r.entries.filter (·.name != e.name) }) }.Startup S
      (if e.lockHeld then 1 else 0) := by
  have ready : ∀ c, ((h.unlink e.client).clients.getD c default).proxy.ready =
      (h.clients.getD c default).proxy.ready := fun c =>
    getD_modify_of_keeps h.clients e.client c _ (fun x : ClientObject => x.proxy.ready) fun _ => rfl
  obtain ⟨names, clients, inside, linked'⟩ := startup.enrolled r registered
  have counted := countP_forget names entry
  refine Startup.of_registry ((startup.listings.of_calls rfl rfl : (h.unlink e.client).Listings S))
    registered id ?_ (startup.listening r registered) (fun open' => ?_) fun closed idle => ?_
  · refine ⟨(List.filter_sublist.map _).nodup names, (List.filter_sublist.map _).nodup clients,
      fun e' member => ?_, fun e' member => ?_⟩
    · exact (Array.size_modify ..).symm ▸ inside e' (List.mem_filter.mp member).1
    · rw [World.unlink, getD_modify_ne _ _ (client_ne_of_forget clients entry member)]
      exact linked' e' (List.mem_filter.mp member).1
  · obtain ⟨pending, held, complete⟩ := startup.locked r registered open'
    refine ⟨fun idle => ?_, fun idle e' member => ?_, fun done => ?_⟩
    · obtain ⟨lock, positive⟩ := pending idle
      refine ⟨?_, positive⟩
      show r.startupLock = listingShare S h + (r.entries.filter (·.name != e.name)).countP (·.lockHeld) +
        (if e.lockHeld then 1 else 0)
      omega
    · rw [ready]
      exact held idle e' (List.mem_filter.mp member).1
    · obtain ⟨-, lock, share, free⟩ := complete done
      refine ⟨by rw [free e entry]; rfl, lock, share, fun e' member => free e' (List.mem_filter.mp member).1⟩
  · have shut := startup.shut r registered closed idle
    show listingShare S h + (r.entries.filter (·.name != e.name)).countP (·.lockHeld) +
      (if e.lockHeld then 1 else 0) ≤ r.startupLock
    omega

/-- The registry forgetting a client keeps the books: the client's entry goes, unlinked, and the
share it held is given back. -/
theorem registryForget_startup {h₀ : World} {S : List Frame} (name : String) :
    Keeps (fun h => h.Startup S 0 ∧ h₀.Announces h.notes.toList h) (registryForget name) := by
  intro h u h' ⟨startup, announces⟩ run
  simp only [registryForget, bind_ok, run_registry?, EStateM.Result.ok.injEq, exists_returned] at run
  split at run
  · rename_i r registered
    split at run
    · rw [ok_pure run]
      exact ⟨startup, announces⟩
    rename_i e found
    have entry := List.mem_of_find?_eq_some found
    have named : e.name = name := by simpa using List.find?_some found
    subst named
    simp only [bind_ok, run_modifyClient, run_modifyRegistry, registered, Option.map_some,
      EStateM.Result.ok.injEq, exists_returned_unit] at run
    obtain ⟨_, h₂, disposed, rest⟩ := run
    obtain ⟨h₁, same, rfl⟩ := disposeClient_unlinks disposed
    -- no entry left in the registry is of the client disposed of
    have free : ∀ r', h₁.registry = some r' → ∀ e' ∈ r'.entries, e'.client ≠ e.client := by
      intro r' present e' member
      rw [same.registry, Option.some.injEq] at present
      subst present
      exact client_ne_of_forget (startup.enrolled r registered).clients entry member
    have kept := (same.startup (startup.forget registered entry)).unlink free
    have announces' : h₀.Announces (h₁.unlink e.client).notes.toList (h₁.unlink e.client) :=
      (same.announces ((@Announces.of_registry h₀ h _ r
        { r with entries := r.entries.filter (·.name != e.name) } announces registered id id
          fun done _ => done).of_same rfl)).of_same rfl
    split at rest
    · rename_i held
      rw [if_pos held] at kept
      exact releaseStartupLock_startup ⟨kept, announces'⟩ rest
    · rename_i free'
      rw [if_neg free'] at kept
      rw [ok_pure rest]
      exact ⟨kept, announces'⟩
  · rw [ok_pure run]
    exact ⟨startup, announces⟩

/-- A client losing its owner is gone, unless its name can be activated, and the registry forgets
it; the books are kept. -/
theorem clientOwnerChanged_startup {h₀ : World} {S : List Frame} (c : Nat) (name new : String) :
    Keeps (fun h => h.Startup S 0 ∧ h₀.Announces h.notes.toList h) (clientOwnerChanged c name new) := by
  have read : Stays Untouched (client c) := untouched.of_read fun h => ⟨_, run_client c h⟩
  unfold clientOwnerChanged invalidateClient
  -- a change of a proxy's activity or of its being gone leaves its readiness as it is
  have proxy : ∀ g : Client.Proxy → Client.Proxy, (∀ p, (g p).ready = p.ready) →
      Keeps (fun h => h.Startup S 0 ∧ h₀.Announces h.notes.toList h) (modifyProxy c g) :=
    fun g ready => (untouched_modifyProxy c g ready).startup
  refine Keeps.bind read.startup fun cl => ?_
  split
  · exact Triple.of_pure
  split
  · exact Keeps.bind (proxy _ fun _ => rfl) fun _ => Triple.of_pure
  refine Keeps.bind (proxy _ fun _ => rfl) fun _ => ?_
  split
  · exact Triple.of_pure
  refine Keeps.bind read.startup fun cl' => ?_
  split
  · exact Triple.of_pure
  refine Keeps.bind (proxy _ fun _ => rfl) fun _ =>
    Keeps.bind (untouched.stays_closeOwner _).startup fun _ => Keeps.bind read.startup fun cl'' => ?_
  split
  · exact registryForget_startup _
  · exact Triple.of_pure

/-! ## A client added -/

/-- The books of a registry that adds an entry for the next client, unknown so far, not ready and
linked: the entry holds a share exactly when startup is not complete. -/
theorem Startup.enroll {h : World} {S : List Frame} {r : Registry} {name : String}
    (startup : h.Startup S 0) (registered : h.registry = some r)
    (unknown : r.entries.find? (·.name == name) = none) (fresh : ClientObject)
    (unready : fresh.proxy.ready = false) :
    { h with clients := (h.clients.push fresh).modify h.clients.size
                fun x => { x with readyLinked := true, goneLinked := true },
             registry := some { r with
               entries := r.entries ++ [({ name, client := h.clients.size, lockHeld := !r.startedUp } : RegistryEntry)],
               startupLock := if !r.startedUp then r.startupLock + 1 else r.startupLock } }.Startup S 0 := by
  let clients := (h.clients.push fresh).modify h.clients.size
    fun x => { x with readyLinked := true, goneLinked := true }
  have sized : clients.size = h.clients.size + 1 := by simp [clients]
  have old : ∀ c < h.clients.size, clients.getD c default = h.clients.getD c default := by
    intro c inside
    simp only [clients]
    rw [getD_modify_ne _ _ (by omega), getD_push, if_neg (by omega)]
  have new : clients.getD h.clients.size default =
      { fresh with readyLinked := true, goneLinked := true } := by
    simp only [clients]
    rw [getD_modify, if_pos ⟨rfl, by simp⟩, getD_push, if_pos rfl]
  have enrolled := startup.enrolled r registered
  have newName : name ∉ r.entries.map (·.name) := by
    simp only [List.mem_map, not_exists, not_and]
    intro x member same
    have differs := List.find?_eq_none.mp unknown x member
    simp [same] at differs
  have older : ∀ c ∈ r.entries.map (·.client), c ≠ h.clients.size := fun c member same => by
    obtain ⟨e, entry, rfl⟩ := List.mem_map.mp member
    exact absurd (enrolled.inside e entry) (by omega)
  have counted : (r.entries ++ [({ name, client := h.clients.size, lockHeld := !r.startedUp } : RegistryEntry)]).countP
      (·.lockHeld) = r.entries.countP (·.lockHeld) + if !r.startedUp then 1 else 0 := by
    simp [List.countP_append]
  refine Startup.of_registry (h := { h with clients }) (startup.listings.of_calls rfl rfl) registered
    id ?_ (startup.listening r registered) (fun open' => ?_) fun closed idle => ?_
  · refine ⟨?_, ?_, fun e member => ?_, fun e member => ?_⟩
    · simpa [List.nodup_append] using
        ⟨enrolled.names, fun a member same => newName (List.mem_map.mpr ⟨a, member, same⟩)⟩
    · simpa [List.nodup_append] using
        ⟨enrolled.clients, fun a member => older a.client (List.mem_map.mpr ⟨a, member, rfl⟩)⟩
    · show e.client < clients.size
      rw [sized]
      rcases List.mem_append.mp member with entry | added
      · exact Nat.lt_succ_of_lt (enrolled.inside e entry)
      · rw [List.mem_singleton.mp added]
        exact Nat.lt_succ_self _
    · show (clients.getD e.client default).readyLinked = true
      rcases List.mem_append.mp member with entry | added
      · rw [old e.client (enrolled.inside e entry)]
        exact enrolled.linked e entry
      · rw [List.mem_singleton.mp added, new]
  · obtain ⟨pending, held, complete⟩ := startup.locked r registered open'
    refine ⟨fun idle => ?_, fun idle e member => ?_, fun done => ?_⟩
    · obtain ⟨lock, -⟩ := pending idle
      change (if !r.startedUp then r.startupLock + 1 else r.startupLock) =
        listingShare S h + (r.entries ++ [({ name, client := h.clients.size, lockHeld := !r.startedUp } : RegistryEntry)]).countP
          (·.lockHeld) + 0 ∧ 0 < (if !r.startedUp then r.startupLock + 1 else r.startupLock)
      change r.startedUp = false at idle
      rw [counted, idle]
      simp only [Bool.not_false, if_true]
      omega
    · change r.startedUp = false at idle
      change e.lockHeld = !(clients.getD e.client default).proxy.ready
      rcases List.mem_append.mp member with entry | added
      · rw [old e.client (enrolled.inside e entry)]
        exact held idle e entry
      · rw [List.mem_singleton.mp added, new]
        simp [idle, unready]
    · change r.startedUp = true at done
      obtain ⟨-, lock, share, free⟩ := complete done
      refine ⟨rfl, by simp [done, lock], share, fun e member => ?_⟩
      rcases List.mem_append.mp member with entry | added
      · exact free e entry
      · rw [List.mem_singleton.mp added]
        simp [done]
  · have shut := startup.shut r registered closed idle
    change r.startedUp = false at idle
    change listingShare S h + (r.entries ++ [({ name, client := h.clients.size, lockHeld := !r.startedUp } : RegistryEntry)]).countP
      (·.lockHeld) + 0 ≤ (if !r.startedUp then r.startupLock + 1 else r.startupLock)
    rw [counted, idle]
    simp only [Bool.not_false, if_true]
    omega

/-- A client first seen is added to the registry, which registers names, and is about to start:
the books are kept, the client holding a share exactly when startup is not complete. -/
theorem enroll_startup {h₀ : World} {S : List Frame} {r : Registry} {name u : String} {act : Bool} :
    Triple (fun h => (h.Startup S 0 ∧ h₀.Announces h.notes.toList h) ∧ h.registry = some r ∧
        r.entries.find? (·.name == name) = none) (enroll r name u act)
      fun c h => h.Startup (.enrolling c :: S) 0 ∧ h₀.Announces h.notes.toList h := by
  rintro h c h' ⟨⟨startup, announces⟩, registered, unknown⟩ run
  simp only [enroll, bind_ok, run_newOwner, run_modifyGet, run_modifyRegistry, registered,
    Option.map_some, run_modifyClient, EStateM.Result.ok.injEq, exists_returned,
    exists_returned_unit] at run
  have owned : h.Untouched { h with owners := h.owners.push {} } :=
    .of_same rfl rfl rfl rfl
  have added := (owned.startup startup).enroll registered unknown
    { proxy := Client.Proxy.create name u act, owner := h.owners.size } rfl
  let r' : Registry := { r with
    entries := r.entries ++ [({ name, client := h.clients.size, lockHeld := !r.startedUp } : RegistryEntry)],
    startupLock := if !r.startedUp then r.startupLock + 1 else r.startupLock }
  have told : h₀.Announces h.notes.toList { h with owners := h.owners.push {}, registry := some r' } :=
    (owned.announces announces).of_registry registered id id fun done _ => done
  split at run
  · simp only [bind_ok, run_note, run_pure, EStateM.Result.ok.injEq, exists_returned_unit] at run
    obtain ⟨rfl, rfl⟩ := run
    refine ⟨Startup.push ?_ rfl rfl, ?_⟩
    · exact (World.untouched_push_note _ (n := .added name) rfl).startup added
    · refine (told.of_lockNotes ?_).of_same rfl
      simp [Array.toList_push, Note.lockNotesIn, Note.lockNotes]
  · simp only [run_pure, EStateM.Result.ok.injEq] at run
    obtain ⟨rfl, rfl⟩ := run
    exact ⟨added.push rfl rfl, told.of_same rfl⟩

/-! ## The registry started and closed -/

/-- The registry starts: it marks itself started, watches every name and asks for the names next,
which it has not asked for before. -/
theorem openRegistry_startup {h₀ : World} {S : List Frame} {r : Registry} :
    Triple (fun h => (h.Startup S 0 ∧ h₀.Announces h.notes.toList h) ∧ h.registry = some r ∧
        r.started = false) openRegistry
      fun _ h => (h.Startup S 0 ∧ h₀.Announces h.notes.toList h) ∧ h.Asks S .names := by
  rintro h u h' ⟨⟨startup, announces⟩, registered, unstarted⟩ run
  -- no call lists the names yet: only a started registry asks for them
  have unasked : ∀ i < h.bus.calls.size, (h.bus.calls.getD i default).route ≠ .names := by
    intro i inside called
    obtain ⟨r', present, started⟩ := startup.listings.namesStarted i inside called
    rw [registered, Option.some.injEq] at present
    rw [← present, unstarted] at started
    cases started
  unfold openRegistry at run
  simp only [bind_ok, run_modifyRegistry, registered, Option.map_some, EStateM.Result.ok.injEq,
    exists_returned_unit] at run
  obtain ⟨watch, h₁, subscribed, -, rfl⟩ := run
  have same := untouched_subscribe _ _ _ _ _ subscribed
  have started : { h with registry := some { r with started := true } }.Startup S 0 :=
    startup.of_phase registered (fun _ => rfl) rfl rfl rfl rfl rfl
  have present : h₁.registry = some { r with started := true } := same.registry
  have calls : h₁.bus.calls = h.bus.calls := same.calls
  rw [present, Option.map_some]
  refine ⟨⟨(same.startup started).of_phase present (fun _ => rfl) rfl rfl rfl rfl rfl,
    ((same.announces (announces.of_registry registered id id fun done _ => done)).of_registry
      present id id fun done _ => done)⟩, fun i inside called => ?_, ⟨_, rfl, rfl⟩⟩
  rw [show ({ h₁ with registry := _ } : World).bus.calls = h.bus.calls from calls] at inside called
  exact unasked i inside called

/-- The registry closes: it is closed and stops listening, and its entries go, unlinked; the
books then ask only that the shares it still counted stay in its lock. -/
theorem closeRegistry_startup {h₀ : World} {S : List Frame} :
    Keeps (fun h => h.Startup S 0 ∧ h₀.Announces h.notes.toList h) closeRegistry := by
  intro h u h' ⟨startup, announces⟩ run
  unfold closeRegistry at run
  simp only [bind_ok, run_registry?, EStateM.Result.ok.injEq, exists_returned] at run
  split at run
  · rename_i r registered
    split at run
    · rw [ok_pure run]
      exact ⟨startup, announces⟩
    rename_i open'
    simp only [Bool.not_eq_true] at open'
    obtain ⟨⟨⟩, h₁, marked, run⟩ := bind_ok.mp run
    simp only [run_modifyRegistry, EStateM.Result.ok.injEq] at marked
    obtain ⟨-, marked⟩ := marked
    -- while its watch ends and its clients are disposed of, the books see the registry marked
    -- closed and nothing else change but the clients' links
    let kept : World → Prop := fun h₂ => h₂.registry = some { r with closed := true, nameWatch := none } ∧
      h₂.bus.calls = h.bus.calls ∧ h₂.clients.size = h.clients.size ∧
      Note.lockNotesIn h₂.notes.toList = Note.lockNotesIn h.notes.toList
    have begun : kept h₁ := by
      subst marked
      exact ⟨by simp [registered], rfl, rfl, rfl⟩
    have pass : ∀ e : RegistryEntry, Triple kept (do
        modifyClient e.client fun x => { x with readyLinked := false, goneLinked := false }
        disposeClient e.client
        Pure.pure (ForInStep.yield ⟨⟩) : HubM (ForInStep PUnit))
        fun step h₂ => step = .yield ⟨⟩ ∧ kept h₂ := by
      intro e h₂ step h₃ held run
      obtain ⟨⟨⟩, h₄, unlinked, run⟩ := bind_ok.mp run
      obtain ⟨⟨⟩, h₅, disposed, returned⟩ := bind_ok.mp run
      simp only [run_modifyClient, EStateM.Result.ok.injEq] at unlinked
      obtain ⟨-, rfl⟩ := unlinked
      simp only [run_pure, EStateM.Result.ok.injEq] at returned
      obtain ⟨rfl, rfl⟩ := returned
      obtain ⟨h₆, same, rfl⟩ := disposeClient_unlinks disposed
      obtain ⟨registry, calls, clients, lockNotes⟩ := held
      refine ⟨rfl, same.registry.trans registry, same.calls.trans calls, ?_,
        same.lockNotes.trans lockNotes⟩
      rw [World.unlink, Array.size_modify, same.clients, Array.size_modify]
      exact clients
    -- once every client is disposed of, the registry has no entries and does not listen
    have finish : ∀ h₃ : World, kept h₃ →
        { h₃ with registry := h₃.registry.map fun (x : Registry) => { x with entries := [], listening := false } }.Startup
          S 0 ∧ h₀.Announces h₃.notes.toList
            { h₃ with registry := h₃.registry.map fun (x : Registry) => { x with entries := [], listening := false } } := by
      intro h₃ held
      obtain ⟨registry, calls, -, lockNotes⟩ := held
      rw [registry, Option.map_some]
      obtain ⟨pending, -, -⟩ := startup.locked r registered open'
      refine ⟨⟨startup.listings.of_started calls fun r' present started => ⟨_, rfl, ?_⟩,
        fun r' same => ?_, fun r' same => ?_, fun r' same => ?_, fun r' same => ?_⟩, ?_⟩
      · rw [registered, Option.some.injEq] at present
        rw [← present] at started
        exact started
      · cases same
        exact ⟨List.nodup_nil, List.nodup_nil, fun _ member => absurd member List.not_mem_nil,
          fun _ member => absurd member List.not_mem_nil⟩
      · cases same
        exact ⟨fun deaf => (by cases deaf), fun open'' => (by cases open'')⟩
      · cases same
        exact fun open'' => by cases open''
      · cases same
        -- the lock still counts every share the registry held
        intro _ idle
        obtain ⟨counted, -⟩ := pending idle
        show h₃.listingShare S + ([] : List RegistryEntry).countP (·.lockHeld) + 0 ≤ r.startupLock
        rw [listingShare_of_calls calls, List.countP_nil]
        omega
      · refine (announces.of_lockNotes lockNotes).follow
          (fun gone => (by rw [registered] at gone; cases gone)) fun r' present => ?_
        rw [registered, Option.some.injEq] at present
        subst present
        exact ⟨_, rfl, id, fun _ => rfl, fun _ open'' => by cases open''⟩
    -- with or without its own watch to end, the registry then disposes of every client
    split at run
    · obtain ⟨⟨⟩, h₂, ended, run⟩ := bind_ok.mp run
      have same := untouched_unsubscribe _ _ _ _ ended
      obtain ⟨⟨⟩, h₃, looped, cleared⟩ := bind_ok.mp run
      have disposed := @Keeps.forIn _ kept r.entries _ (fun e _ => pass e) h₂ _ h₃
        ⟨same.registry.trans begun.1, same.calls.trans begun.2.1, same.clients.trans begun.2.2.1,
          same.lockNotes.trans begun.2.2.2⟩ looped
      simp only [run_modifyRegistry, EStateM.Result.ok.injEq] at cleared
      obtain ⟨-, rfl⟩ := cleared
      exact finish h₃ disposed
    · obtain ⟨⟨⟩, h₃, looped, cleared⟩ := bind_ok.mp run
      have disposed := @Keeps.forIn _ kept r.entries _ (fun e _ => pass e) h₁ _ h₃ begun looped
      simp only [run_modifyRegistry, EStateM.Result.ok.injEq] at cleared
      obtain ⟨-, rfl⟩ := cleared
      exact finish h₃ disposed
  · rw [ok_pure run]
    exact ⟨startup, announces⟩

end World

end MissionControl.Hub
