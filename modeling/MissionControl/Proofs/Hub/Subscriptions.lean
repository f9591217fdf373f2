import MissionControl.Proofs.Hub.Watches

/-!
# The live subscriptions of a driven registry

A registry driven from outside (started and closed, its requests answered, ownership changes
signalled, responders set) keeps the books of `World.Watches` through every operation of the
interpreter, callbacks included (`watches`, an `Invariant` of `Invariant.kept`). Between two steps
of such a session nothing is under way, and the books then count the live subscriptions on the
bus: one for the registry's watch of every name while it is open, and one for each client it
has registered (`Registry.Watched.liveCount`). From the registry's start on, the count is one
more than its entries until it closes and none after (`registry_subscriptions`).
-/

set_option autoImplicit false

namespace MissionControl.Hub

open Readiness

/-- Whether a call lists the names on the bus. -/
def Route.asksNames : Route → Bool
  | .names | .activatableNames => true
  | _ => false

theorem Frame.enrollees_onCall (route : Route) (S : List Frame) :
    Frame.enrollees (Frame.onCall route S) = Frame.enrollees S := by
  unfold Frame.onCall
  split
  · exact (Frame.enrollees_cons _ rfl).symm
  · rfl

namespace World.Watches

variable {started : Bool} {S : List Frame} {h : World}

theorem onCall (watches : h.Watches started S) (route : Route) :
    h.Watches started (Frame.onCall route S) := by
  unfold Frame.onCall
  split
  · exact watches.pop rfl
  · exact watches

theorem onReply (watches : h.Watches started S) (route : Route) :
    h.Watches started (Frame.onReply route S) := by
  unfold Frame.onReply
  split
  · exact watches.push rfl
  · exact watches.push rfl
  · exact watches.push rfl
  · exact watches

/-- No tap listens on a bus where only names are watched. -/
theorem not_tapped (watches : h.Watches started S) {label : Json} {drops : List Json} :
    ¬ h.Listens (.tapSignal label drops) := by
  intro listens
  obtain ⟨id, live, heard⟩ := listens
  have names := watches.only.watching ⟨live, heard⟩
  cases names

end World.Watches

/-- The books of the watches of a driven registry. Only its own operations run: no session's
steps (`Performs` never holds), the registry's driving steps with nothing under way (`Heeds`),
and the registry hears of names, asks for them and reads them only when no client is being
added (`Sights`, `Calls`, `Replies`). Every waiter and latch reacts for a client. Once `started`,
the registry is open or has closed its own watch. -/
def watches (started : Bool) : Invariant where
  Holds := World.Watches started
  Ready _ _ _ := True
  Reacts _ r _ := r.isScript = false
  Calls S route _ := route.asksNames = true → Frame.enrollees S = []
  Makes _ wt _ := ∀ r, wt.reaction = some r → r.isScript = false
  Waits _ s _ := ∃ c, s = .client c
  Performs _ := False
  Heeds S := S = []
  Replies S route _ := route.asksNames = true → Frame.enrollees S = []
  Sights S := Frame.enrollees S = []
  note S n _ := World.Watches.keeps (stays_anyNote n)
  react S w r h watches _ _ _ reaction := watches.unscripted.waiters w r reaction
  fired _ _ _ _ _ _ _ _ reacts := by cases reacts
  scripted _ _ _ _ _ _ reacts := by cases reacts
  finale _ m _ _ _ h watches _ finale := by
    have unscripted := watches.unscripted.latches m
    rw [finale] at unscripted
    cases unscripted
  tick S m e c := (World.Watches.keeps (sameWatches.stays_modifyLatch m
      (fun x => { x with firstError := e, toFire := c }) fun _ => rfl)).mono
    (fun _ pre => pre.1) fun _ _ kept => kept
  becomeReady S c := World.Watches.keeps (stays_becomeReady c)
  newWaiter S wt := fun h w h' pre run => World.Watches.newWaiter pre.2 pre.1 run
  sessionWaiter _ _ _ _ _ _ _ _ performs := performs.elim
  latchWaiter _ _ _ _ _ _ r reaction := by
    cases reaction
    rfl
  clientWaiter _ _ _ _ _ r reaction := by
    cases reaction
    rfl
  waitLabelled _ _ _ _ performs := performs.elim
  waitClient S c l o finale := by
    intro h m h' pre run
    have made := World.Watches.newLatch (by rw [finale]; rfl) pre.1 run
    exact made.wait c m (some o)
  endWait S s m o h watches := watches.pop rfl
  sessionSubject _ _ _ _ performs := performs.elim
  accountSubject _ _ _ _ performs := performs.elim
  clientSubject S c h _ _ := ⟨c, rfl⟩
  waitingSubject S s m o h watches := watches.waiting s m o (List.mem_cons_self ..)
  label S l w := World.Watches.keeps (sameWatches.stays_label l w)
  alone S w h watches _ := ⟨watches.push rfl, trivial⟩
  finishAlone S w := fun h u h' watches run =>
    World.Watches.keeps (sameWatches.stays_finish w) (watches.pop rfl) run
  refuse S w := (World.Watches.keeps (sameWatches.stays_cancelWaiter w)).mono
    (fun _ pre => pre.1) fun _ _ kept => kept
  join S s d w f o _ := (World.Watches.keeps (sameWatches.stays_attach f w o)).mono
    (fun _ pre => pre.1) fun _ _ kept => kept
  start S s d w o _ := (World.Watches.keeps (sameWatches.stays_openFetch s d w o)).mono
    (fun _ pre => pre.1) fun _ _ kept => ⟨kept, fun asks => by cases asks⟩
  watch S s iface k h waits := by
    obtain ⟨c, rfl⟩ := waits
    exact watches_watch c iface k
  record S dest path method args route h watches _ :=
    (watches.transfer (h.sameWatches_calls _)).onCall route
  inline S dest path method args route h _ calls := fun asks => by
    rw [Frame.enrollees_onCall]
    exact calls asks
  replied S route h heeds := fun _ => by
    rcases heeds with performs | settled
    · exact performs.elim
    · rw [settled]
      rfl
  transmit S i dest path method args := World.Watches.keeps (sameWatches.stays_transmit i dest path method args)
  answer S i h watches _ _ _ := (watches.transfer (h.sameWatches_calls _)).onReply _
  naming S h replies := by
    show Frame.enrollees (.naming :: S) = []
    rw [Frame.enrollees_cons S rfl]
    exact replies rfl
  listing S h replies := by
    show Frame.enrollees (.listing :: S) = []
    rw [Frame.enrollees_cons S rfl]
    exact replies rfl
  signalled S heeds := by
    rcases heeds with performs | settled
    · exact performs.elim
    · rw [settled]
      rfl
  avatar S a p := World.Watches.keeps (stays_modifyAccount a _)
  avatarCall S a h _ _ := fun asks => by cases asks
  skipDisposed S f h watches _ := watches.pop rfl
  absorb S f fs result := (World.Watches.keeps (stays_absorbResult fs result)).mono
    (fun _ pre => pre.1) fun _ _ kept => kept
  startFiring S f := World.Watches.keeps (sameWatches.stays_modifyFetch f _)
  advance S f i w h watches _ := ⟨(watches.pop rfl).push rfl, trivial⟩
  settle S f j err := fun h u h' pre run =>
    World.Watches.keeps (sameWatches.stays_settleFetch f err) (pre.1.pop rfl) run
  ownerChanged S c name new sights := (watches_clientOwnerChanged sights c name new).mono
    (fun _ pre => pre.1) fun _ _ kept => kept
  accountChange S a body := (World.Watches.keeps (stays_applyAccountChange a body)).mono
    (fun _ pre => pre.1) fun _ _ kept => kept
  unsubscribe S label drops h watches listens := absurd listens watches.not_tapped
  openRegistry S r sights := watches_openRegistry.mono (fun _ pre => pre)
    fun _ _ kept => ⟨kept, fun _ => sights⟩
  listCall S h sights _ := fun _ => sights
  abandonNaming S h watches _ := watches.pop rfl
  abandonListing S h watches _ := watches.pop rfl
  release S := fun h u h' watches run =>
    World.Watches.keeps stays_releaseStartupLock (watches.pop rfl) run
  sighted S h r _ watches _ present open' := watches.register fun r' present' => by
    rw [present, Option.some.injEq] at present'
    exact present' ▸ open'
  registered S h watches := watches.pop rfl
  markActivatable S c := World.Watches.keeps (stays_modifyProxy c _)
  markActive S c u := World.Watches.keeps (stays_modifyProxy c _)
  enroll S r name u act := watches_enroll
  openClient S c name := watches_openClient.mono (fun _ pre => ⟨pre.1, pre.2.1⟩) fun _ _ kept => kept
  plain S step driven := by
    rcases driven with performs | ⟨settled, drives⟩
    · exact performs.elim
    · subst settled
      exact watches_plain drives

/-! ## Counting the live subscriptions -/

theorem toList_eq_map_range {α : Type} [Inhabited α] (a : Array α) :
    a.toList = (List.range a.size).map fun i => a.getD i default := by
  apply List.ext_getElem
  · simp
  · intro i inside _
    simp only [Array.length_toList] at inside
    simp [Array.getD_eq_getD_getElem?, inside]

/-- The live subscriptions counted by their positions. -/
theorem liveCount_eq_range {κ : Type} [Inhabited κ] (b : Bus.Scripted Route κ) :
    b.liveCount = ((List.range b.subscriptions.size).filter fun i => b.isLive (i + 1)).length := by
  unfold Bus.Scripted.liveCount
  rw [toList_eq_map_range, List.filter_map, List.length_map]
  congr 1
  refine List.filter_congr fun i member => ?_
  have inside := List.mem_range.mp member
  simp [Bus.Scripted.isLive_eq, Array.getD_eq_getD_getElem?, inside]

/-- With nothing under way, the live subscriptions are the registry's own watch, while it has
one, and one watch for each of its clients. -/
theorem Registry.Watched.liveCount {r : Registry} {h : World} (watched : r.Watched [] h)
    (only : NamesOnly h.bus) :
    h.bus.liveCount = (if r.nameWatch.isSome then 1 else 0) + r.entries.length := by
  let live := (List.range h.bus.subscriptions.size).filter fun i => h.bus.isLive (i + 1)
  let listener := fun i => (h.bus.subscriptions.getD i default).listener
  let targets : List Listener :=
    (if r.nameWatch.isSome then [.registry] else []) ++ (r.entries.map (·.client)).map .client
  have watching : ∀ i ∈ live, h.bus.Watching (i + 1) (listener i) := fun i member =>
    ⟨(List.mem_filter.mp member).2, rfl⟩
  -- a live subscription is found at its position
  have found : ∀ id l, h.bus.Watching id l → ∃ i ∈ live, listener i = l := by
    intro id l watches
    obtain ⟨nonzero, inside⟩ := h.bus.isLive_inside watches.1
    have back : id - 1 + 1 = id := by omega
    refine ⟨id - 1, List.mem_filter.mpr ⟨List.mem_range.mpr inside, ?_⟩, watches.2⟩
    rw [back]
    exact watches.1
  -- two live subscriptions to one listener are one: the registry and each client have one watch
  have once : ∀ i ∈ live, ∀ j ∈ live, listener i = listener j → i = j := by
    intro i member j member' same
    have first := watching i member
    have second : h.bus.Watching (j + 1) (listener i) := same ▸ watching j member'
    rcases Listener.watchesNames_eq_true (only.watching first) with named | ⟨c, named⟩
    · rw [named] at first second
      have ids := (watched.ownOnly _ first).symm.trans (watched.ownOnly _ second)
      simpa using ids
    · rw [named] at first second
      have ids := (watched.entriesOnly _ c first).2.symm.trans (watched.entriesOnly _ c second).2
      simpa using ids
  have nodup : (live.map listener).Nodup :=
    List.Nodup.map_on once ((List.nodup_range).filter _)
  have distinct : targets.Nodup := by
    refine List.nodup_append.mpr ⟨by split <;> simp, ?_, ?_⟩
    · exact watched.clients.map_on fun c _ c' _ same => Listener.client.inj same
    · intro l registry l' client same
      split at registry
      · simp only [List.mem_singleton] at registry
        obtain ⟨c, -, rfl⟩ := List.mem_map.mp client
        rw [registry] at same
        cases same
      · exact List.not_mem_nil registry
  have members : ∀ l, l ∈ live.map listener ↔ l ∈ targets := by
    intro l
    constructor
    · intro member
      obtain ⟨i, inside, rfl⟩ := List.mem_map.mp member
      have watches := watching i inside
      rcases Listener.watchesNames_eq_true (only.watching watches) with named | ⟨c, named⟩
      · rw [named] at watches ⊢
        have own := watched.ownOnly _ watches
        simp [targets, own]
      · rw [named] at watches ⊢
        obtain ⟨client, -⟩ := watched.entriesOnly _ c watches
        exact List.mem_append_right _ (List.mem_map_of_mem client)
    · intro member
      rcases List.mem_append.mp member with registry | client
      · split at registry
        · rename_i isSome
          simp only [List.mem_singleton] at registry
          subst registry
          obtain ⟨id, own⟩ := Option.isSome_iff_exists.mp isSome
          obtain ⟨i, inside, same⟩ := found id _ (watched.own id own)
          exact List.mem_map.mpr ⟨i, inside, same⟩
        · exact absurd registry List.not_mem_nil
      · obtain ⟨c, entry, rfl⟩ := List.mem_map.mp client
        obtain ⟨id, watch⟩ := Option.isSome_iff_exists.mp (watched.started c entry List.not_mem_nil)
        obtain ⟨i, inside, same⟩ := found id _ (watched.entries c entry id watch)
        exact List.mem_map.mpr ⟨i, inside, same⟩
  have counted := ((List.perm_ext_iff_of_nodup nodup distinct).mpr members).length_eq
  rw [liveCount_eq_range]
  simp only [List.length_map, List.length_append, targets] at counted
  rw [counted]
  split <;> simp

/-! ## Sessions that drive a registry -/

/-- The worlds reached from `h` by top-level steps that drive the registry, all of which
return. -/
inductive Driven : World → World → Prop
  | refl (h : World) : Driven h h
  | step {h h₁ h₂ : World} {j r : Json} : Step.Drives j →
      (runStep stepBudget 0 j).run { h with notes := #[] } = .ok r h₁ → Driven h₁ h₂ → Driven h h₂

/-- The books of the watches hold between the steps of a session that drives the registry.

Proof: by induction on the steps taken, each of which keeps the books with nothing under way
(`Invariant.kept` for `watches`). -/
theorem Driven.watches {started : Bool} {h h' : World} (driven : Driven h h')
    (watches : h.Watches started []) : h'.Watches started [] := by
  induction driven with
  | refl h => exact watches
  | @step h h₁ h₂ j r drives run _ ih =>
    have same : h.SameWatches { h with notes := #[] } := .of_same rfl rfl rfl rfl rfl
    have cleared := watches.transfer same
    exact ih (((Hub.watches started).kept stepBudget).runStep [] 0 j (.inr ⟨rfl, drives⟩) cleared run)

/-- A registry before it starts, on a bus without subscriptions and with no waiter or latch,
keeps the books of its watches. -/
theorem World.watches_fresh {h : World} {r : Registry} (present : h.registry = some r)
    (entries : r.entries = []) (unstarted : r.started = false) (unwatched : r.nameWatch = none)
    (subscriptions : h.bus.subscriptions = #[]) (waiters : h.waiters = #[])
    (latches : h.latches = #[]) : h.Watches false [] := by
  have dead : ∀ id l, ¬ h.bus.Watching id l := fun id l watching => by
    have inside := (h.bus.isLive_inside watching.1).2
    rw [subscriptions] at inside
    exact Nat.not_lt_zero _ inside
  refine ⟨⟨r, present, ?_⟩, fun i inside => ?_, ⟨fun w r' reacts => ?_, fun m => ?_⟩,
    fun s m o waiting => absurd waiting List.not_mem_nil, fun begun => by cases begun⟩
  · exact
      { names := by rw [entries]; exact List.nodup_nil
        clients := by rw [entries]; exact List.nodup_nil
        inside := fun c member => by simp [entries] at member
        unstarted := fun _ => unwatched
        watching := fun begun => by
          rw [unstarted] at begun
          cases begun
        own := fun id owned => by
          rw [unwatched] at owned
          cases owned
        closed := fun _ => entries
        registering := fun registering => absurd registering List.not_mem_nil
        entries := fun c member => by simp [entries] at member
        started := fun c member => by simp [entries] at member
        enrolling := fun c enrolling => absurd enrolling List.not_mem_nil
        enrollees := List.nodup_nil
        ownOnly := fun id watching => absurd watching (dead id _)
        entriesOnly := fun id c watching => absurd watching (dead id _) }
  · rw [subscriptions] at inside
    exact absurd inside (Nat.not_lt_zero _)
  · rw [waiters, getD_of_size_le (Nat.zero_le _)] at reacts
    cases reacts
  · rw [latches, getD_of_size_le (Nat.zero_le _)]
    rfl

/-- A registry session starts with a fresh registry. -/
theorem watches_initial {j : Json} {h : World} (start : initial "registry" j = .ok h) :
    h.Watches false [] := by
  unfold initial at start
  rw [if_neg (by decide), if_pos (by decide)] at start
  simp only [bind, Except.bind] at start
  split at start
  · cases start
  · split at start
    · cases start
    · cases start
      exact World.watches_fresh rfl rfl rfl rfl rfl rfl rfl

/-- **The subscriptions of a driven registry.** In a session of a registry that is started and
closed, whose requests are answered and given responders and to which ownership changes are
signalled, between two steps from the registry's start on: while the registry is open, the bus
has one live subscription for the registry's watch of every name and one for each client it
has registered; once it has closed, none, whatever arrives later; and every live watch of a
client is that of a client still registered. -/
theorem registry_subscriptions {j : Json} {h₀ h h' : World} {r : Registry}
    (start : initial "registry" j = .ok h₀) (reached : Driven h₀ h) (present : h.registry = some r)
    (begun : r.started = true) (open' : r.closed = false) (later : Driven h h') :
    ∃ r', h'.registry = some r' ∧
      (r'.closed = false → h'.bus.liveCount = 1 + r'.entries.length) ∧
      (r'.closed = true → h'.bus.liveCount = 0) ∧
      ∀ id c, h'.bus.Watching id (.client c) → c ∈ r'.entries.map (·.client) := by
  have watches := reached.watches (watches_initial start)
  -- from the registry's start on, it stays started and closes its own watch when it closes
  have opened : World.Watches true [] h := { watches with
    opened := fun _ r' present' => by
      rw [present, Option.some.injEq] at present'
      subst present'
      exact ⟨begun, fun closed => by rw [open'] at closed; cases closed⟩ }
  have watches' := later.watches opened
  obtain ⟨r', present', watched⟩ := watches'.registry
  obtain ⟨started', closes⟩ := watches'.opened rfl r' present'
  have counted := watched.liveCount watches'.only
  refine ⟨r', present', fun open'' => ?_, fun closed => ?_, fun id c watching =>
    (watched.entriesOnly id c watching).1⟩
  · rw [counted, watched.watching started' open'']
    rfl
  · rw [counted, closes closed, watched.closed closed]
    rfl

/-- The request that starts a registry. -/
def startRequest : Json := .obj [("do", .str "start")]

theorem startRequest_drives : Step.Drives startRequest := by
  intro step decoded
  rw [show Step.decode startRequest = .ok .start from rfl] at decoded
  cases decoded
  rfl

/-- A computation whose final world is `h` returned in `h`. -/
theorem run_ok_of_final {α : Type} {x : HubM α} {h₀ h : World}
    (final : (x >>= fun _ => get).run' h₀ = some h) : ∃ a, x.run h₀ = .ok a h := by
  unfold EStateM.run' at final
  cases run : (x >>= fun _ => get).run h₀ with
  | ok h' h₁ =>
    rw [run] at final
    obtain rfl : h' = h := Option.some.inj final
    obtain ⟨a, h₂, first, rest⟩ := bind_ok.mp run
    rw [run_get] at rest
    cases rest
    exact ⟨a, first⟩
  | error f h₁ =>
    rw [run] at final
    cases final

/-- A registry session that starts its registry leaves one live subscription, the registry's
watch of every name. -/
theorem registry_subscriptions_after_start :
    ∃ h₀ h r, initial "registry" (.obj []) = .ok h₀ ∧ Driven h₀ h ∧ h.registry = some r ∧
      r.started = true ∧ r.closed = false ∧ h.bus.liveCount = 1 + r.entries.length := by
  have checked : ((initial "registry" (.obj [])).toOption.any fun h₀ =>
      ((runStep stepBudget 0 startRequest >>= fun _ => get).run' { h₀ with notes := #[] }).any
        fun h => h.registry.any fun r => r.started && !r.closed) = true := by decide +kernel
  cases start : initial "registry" (.obj []) with
  | error e =>
    rw [start] at checked
    cases checked
  | ok h₀ =>
    rw [start] at checked
    simp only [Except.toOption, Option.any_some] at checked
    obtain ⟨h, final, opened⟩ := (Option.any_eq_true _ _).mp checked
    obtain ⟨r, present, flags⟩ := (Option.any_eq_true _ _).mp opened
    rw [Bool.and_eq_true, Bool.not_eq_true'] at flags
    obtain ⟨answer, run⟩ := run_ok_of_final final
    have driven : Driven h₀ h := .step startRequest_drives run (.refl h)
    obtain ⟨r', present', counted, -, -⟩ :=
      registry_subscriptions start driven present flags.1 flags.2 (.refl h)
    rw [present, Option.some.injEq] at present'
    subst present'
    exact ⟨h₀, h, r, rfl, driven, present, flags.1, flags.2, counted flags.2⟩

end MissionControl.Hub
