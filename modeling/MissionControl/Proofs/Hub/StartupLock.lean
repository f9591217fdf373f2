import MissionControl.Proofs.Hub.Startup
import MissionControl.Proofs.Hub.Subscriptions

/-!
# The startup lock along a registry session

The books of the startup lock (`World.Startup`) and what the notes report of it
(`World.Announces`) are kept by every operation of the interpreter, callbacks included
(`startup`, an `Invariant` of `Invariant.kept`): the registry's own operations keep them by the
lemmas of `Startup`, and every other operation leaves what they read untouched. A session takes
its steps one after another, each from the world the last one left and with its notes taken
afresh (`Noted`); the books then hold between any two steps, and the notes of the steps taken
report what `World.Announces` says (`Noted.startup`).

From the start of a registry session (`startup_initial`), at every point between two steps
(`startup_lock`): while the registry is open and has not started up, its lock is one for the
activatable names not yet read plus one for each registered client not yet ready, and is
positive; once it has started up, the lock is zero, the activatable names have been read and no
client holds a share. While the registry is open, startup completion has been announced exactly
when it happened, which is exactly when the activatable names have been read and no client holds
a share. Over the whole session it is announced at most once, and the lock is never reported
released below zero; once the registry has closed, nothing about its lock is reported again.
-/

set_option autoImplicit false

namespace MissionControl.Hub

open Readiness

/-! ## Steps that never call back -/

/-- Every step that never calls back, except closing the registry, leaves the startup books
untouched: it reads the world, changes what the broker keeps for itself, labels an object, an
owner or an account, or sets a responder. -/
theorem untouched_performPlain {step : Step} (open' : step ≠ .close) :
    Stays World.Untouched (performPlain step) := by
  have U : Footprint World.Untouched := World.untouched
  unfold performPlain
  split
  · -- a descriptor added
    refine U.bind U.stays_get fun h => ?_
    split
    · exact U.bind (Stays.of_modify fun _ => .of_same rfl rfl rfl rfl) fun _ => U.pure _
    · exact U.pure _
  · exact U.bind U.stays_get fun _ => U.pure _
  · exact U.bind U.stays_get fun _ => U.pure _
  · split <;> exact untouched_registerAll _ _
  · exact U.bind (Stays.of_modify fun _ => .of_same rfl rfl rfl rfl) fun _ => U.pure _
  · exact U.bind U.stays_newOwner fun _ =>
      U.bind (Stays.of_modify fun _ => .of_same rfl rfl rfl rfl) fun _ => U.pure _
  · -- an owner closed
    refine U.bind U.stays_get fun h => ?_
    split
    · exact U.bind (U.stays_closeOwner _) fun _ => U.pure _
    · exact U.pure _
  · exact U.pure _
  · -- a waiter cancelled
    refine U.bind U.stays_get fun h => ?_
    split
    · exact U.bind (U.stays_cancelWaiter _) fun _ => U.pure _
    · exact U.pure _
  · -- responders set: the requests on the bus stay as they were
    exact U.bind (Stays.of_modify fun _ => .of_same rfl rfl rfl rfl) fun _ => U.pure _
  · exact U.bind (Stays.of_modify fun _ => .of_same rfl rfl rfl rfl) fun _ => U.pure _
  · -- a plain object invalidated
    refine U.bind U.stays_get fun h => ?_
    split
    · exact U.bind (Stays.of_modify fun _ => .of_same rfl rfl rfl rfl) fun _ => U.pure _
    · exact U.pure _
  · -- an object disposed of
    refine U.bind U.stays_get fun h => ?_
    refine U.bind (U.of_read fun h => ⟨_, run_subjectOf? _ h⟩) fun s? => ?_
    dsimp only
    split
    · exact U.bind (untouched_disposeAccount _) fun _ =>
        U.bind (untouched_groupNotesFrom _) fun _ => U.pure _
    · exact U.bind (U.stays_disposeFetches _) fun _ =>
        U.bind (untouched_groupNotesFrom _) fun _ => U.pure _
    · exact U.pure _
  · -- an account removed
    refine U.bind U.stays_get fun h => ?_
    split
    · exact U.bind U.stays_get fun _ => U.bind (untouched_removeAccount _) fun _ =>
        U.bind (untouched_groupNotesFrom _) fun _ => U.pure _
    · exact U.pure _
  · refine U.bind (U.of_read fun h => ⟨_, run_subjectOf? _ h⟩) fun s? => ?_
    split
    · exact U.bind U.stays_get fun _ => U.pure _
    · exact U.pure _
  · exact U.bind (Stays.of_modify fun _ => .of_same rfl rfl rfl rfl) fun _ => U.pure _
  · exact absurd rfl open'
  · refine U.bind U.stays_theRegistry fun r => ?_
    split <;> exact U.pure _
  · exact U.bind U.stays_get fun _ => U.bind U.stays_theRegistry fun _ => U.pure _
  · exact U.bind U.stays_get fun _ => U.bind U.stays_theRegistry fun _ => U.pure _
  · exact U.bind U.stays_get fun _ => U.pure _
  · exact U.bind U.stays_get fun _ => U.pure _
  · exact U.bind U.stays_get fun _ => U.pure _
  · exact U.pure _

/-- Every step that never calls back keeps the startup books. -/
theorem performPlain_startup (h₀ : World) (S : List Frame) (step : Step) :
    Keeps (fun h => h.Startup S 0 ∧ h₀.Announces h.notes.toList h) (performPlain step) := by
  by_cases closing : step = .close
  · subst closing
    exact Keeps.bind World.untouched.stays_theRegistry.startup fun _ =>
      Keeps.bind World.closeRegistry_startup fun _ => Triple.of_pure
  · exact (untouched_performPlain closing).startup

/-! ## The books as an invariant of the interpreter -/

/-- The startup books as an invariant of the interpreter, with what the notes taken since `h₀`
report of the lock. Nothing else is asked but that the names on the bus are asked for as the
books require (`World.Asks`): every step of a session may run and every callback may fire. -/
def startup (h₀ : World) : Invariant where
  Holds S h := h.Startup S 0 ∧ h₀.Announces h.notes.toList h
  Ready _ _ _ := True
  Reacts _ _ _ := True
  Calls S route h := h.Asks S route
  Makes _ _ _ := True
  Waits _ _ _ := True
  Performs _ := True
  Heeds _ := True
  Replies _ _ _ := True
  Sights _ := True
  note S n plain := (World.untouched.stays_note n plain).startup
  react _ _ _ _ _ _ _ _ _ := trivial
  fired S label depth actions s err h books _ :=
    let untouched := h.untouched_push_note (n := .fired label (h.subjectName s) err) rfl
    ⟨untouched.startup books.1, untouched.announces books.2⟩
  scripted _ _ _ _ _ _ _ := trivial
  finale _ _ _ _ _ _ _ _ _ := trivial
  tick S m e c := (World.untouched.stays_modifyLatch m
      (fun x => { x with firstError := e, toFire := c }) fun _ => rfl).startup.mono
    (fun _ pre => pre.1) fun _ _ kept => kept
  becomeReady S c := World.becomeReady_startup c
  newWaiter S wt := (untouched_newWaiter wt).startup.mono (fun _ pre => pre.1) fun _ _ kept => kept
  sessionWaiter _ _ _ _ _ _ _ _ _ _ _ := trivial
  latchWaiter _ _ _ _ _ _ := trivial
  clientWaiter _ _ _ _ _ := trivial
  waitLabelled S s o l _ := (untouched_newLatch l).startup.mono (fun _ pre => pre.1)
    fun _ _ kept => ⟨kept.1.push rfl rfl, kept.2⟩
  waitClient S c l o _ := (untouched_newLatch l).startup.mono (fun _ pre => pre.1)
    fun _ _ kept => ⟨kept.1.push rfl rfl, kept.2⟩
  endWait S s m o h books := ⟨books.1.pop rfl, books.2⟩
  sessionSubject _ _ _ _ _ _ _ := trivial
  accountSubject _ _ _ _ _ _ _ := trivial
  clientSubject _ _ _ _ _ := trivial
  waitingSubject _ _ _ _ _ _ := trivial
  label S l w := (World.untouched.stays_label l w).startup
  alone S w h books _ := ⟨⟨books.1.push rfl rfl, books.2⟩, trivial⟩
  finishAlone S w := fun h u h' books run =>
    (World.untouched.stays_finish w).startup ⟨books.1.pop rfl, books.2⟩ run
  refuse S w := (World.untouched.stays_cancelWaiter w).startup.mono (fun _ pre => pre.1)
    fun _ _ kept => kept
  join S s d w f o _ := (World.untouched.stays_attach f w o).startup.mono (fun _ pre => pre.1)
    fun _ _ kept => kept
  start S s d w o _ := (World.untouched.stays_openFetch s d w o).startup.mono (fun _ pre => pre.1)
    fun _ _ kept => ⟨kept, trivial⟩
  watch S s iface k _ _ := (untouched_watch s iface k).startup
  record S dest path method args route h books asks :=
    ⟨books.1.record dest path method args asks, books.2.of_same rfl⟩
  inline _ _ _ _ _ _ _ _ _ := trivial
  replied _ _ _ _ := trivial
  transmit S i dest path method args :=
    (World.untouched.stays_transmit i dest path method args).startup
  answer S i h books inside unanswered _ :=
    ⟨books.1.answer inside unanswered, books.2.of_same rfl⟩
  naming _ _ _ := trivial
  listing _ _ _ := trivial
  signalled _ _ := trivial
  avatar S a p := (untouched_modifyAccount a _).startup
  avatarCall _ _ _ _ _ := trivial
  skipDisposed S f h books _ := ⟨books.1.pop rfl, books.2⟩
  absorb S f fs result := (untouched_absorbResult fs result).startup.mono (fun _ pre => pre.1)
    fun _ _ kept => kept
  startFiring S f := (World.untouched.stays_modifyFetch f _).startup
  advance S f i w h books _ := ⟨⟨(books.1.pop rfl).push rfl rfl, books.2⟩, trivial⟩
  settle S f j err := fun h u h' pre run =>
    (World.untouched.stays_settleFetch f err).startup ⟨pre.1.1.pop rfl, pre.1.2⟩ run
  ownerChanged S c name new _ := (World.clientOwnerChanged_startup c name new).mono
    (fun _ pre => pre.1) fun _ _ kept => kept
  accountChange S a body := (untouched_applyAccountChange a body).startup.mono
    (fun _ pre => pre.1) fun _ _ kept => kept
  unsubscribe S _ _ _ _ _ id := (untouched_unsubscribe id).startup
  openRegistry S r _ := World.openRegistry_startup
  listCall S h _ _ := ⟨S, rfl⟩
  abandonNaming S h books _ := ⟨books.1.pop rfl, books.2⟩
  abandonListing S h books closed := ⟨books.1.abandon_listing closed, books.2⟩
  release S := fun h u h' books run =>
    World.releaseStartupLock_startup ⟨books.1.pop_listing, books.2⟩ run
  sighted S h r _ books _ _ _ := ⟨books.1.push rfl rfl, books.2⟩
  registered S h books := ⟨books.1.pop rfl, books.2⟩
  markActivatable S c :=
    (untouched_modifyProxy c (fun p => { p with activatable := true }) fun _ => rfl).startup
  markActive S c u := (untouched_modifyProxy c (·.setActive u) fun _ => rfl).startup
  enroll S r name u act := World.enroll_startup
  openClient S c name := (untouched_openClient c name).startup.mono
    (fun _ pre => ⟨pre.1.1.pop rfl, pre.1.2⟩) fun _ _ kept => kept
  plain S step _ := performPlain_startup h₀ S step

/-! ## Sessions -/

/-- The worlds reached from `h` by top-level steps that return, each run from the world the last
one left with its notes cleared, with the notes those steps take, in order. -/
inductive Noted : World → List Note → World → Prop
  | refl (h : World) : Noted h [] h
  | step {h h₁ h₂ : World} {j r : Json} {notes : List Note} :
      (runStep stepBudget 0 j).run { h with notes := #[] } = .ok r h₁ → Noted h₁ notes h₂ →
      Noted h (h₁.notes.toList ++ notes) h₂

/-- The startup books hold between any two steps of a session, and the notes of the steps taken
report what `World.Announces` says.

Proof: by induction on the steps taken. Each step starts from the world the last one left with
its notes cleared, where nothing has been reported yet, and keeps the books (`Invariant.kept` for
`startup`); what two stretches report adds up (`World.Announces.append`). -/
theorem Noted.startup {h h' : World} {notes : List Note} (run : Noted h notes h')
    (books : h.Startup [] 0) : h'.Startup [] 0 ∧ h.Announces notes h' := by
  induction run with
  | refl h => exact ⟨books, World.Announces.refl h⟩
  | @step h h₁ h₂ j r notes ran _ ih =>
    have cleared : { h with notes := #[] }.Startup [] 0 ∧
        h.Announces ({ h with notes := #[] } : World).notes.toList { h with notes := #[] } :=
      ⟨books.of_books rfl rfl rfl (fun _ => rfl) fun _ => rfl, (World.Announces.refl h).of_same rfl⟩
    obtain ⟨books₁, told⟩ := ((Hub.startup h).kept stepBudget).runStep [] 0 j (.inl trivial) cleared ran
    obtain ⟨books₂, told'⟩ := ih books₁
    exact ⟨books₂, told.append told'⟩

/-- With nothing under way, the listing's share is held until the activatable names are read. -/
theorem World.listingShare_nil (h : World) : h.listingShare [] = if h.listed then 0 else 1 := by
  simp [World.listingShare]

/-- A registry before it starts, without entries, with its first share and on a bus without
requests, keeps the startup books. -/
theorem World.startup_fresh {h : World} {r : Registry} (present : h.registry = some r)
    (entries : r.entries = []) (lock : r.startupLock = 1) (idle : r.startedUp = false)
    (open' : r.closed = false) (listening : r.listening = true) (calls : h.bus.calls = #[]) :
    h.Startup [] 0 := by
  have none : ∀ i, ¬ i < h.bus.calls.size := fun i inside => by
    rw [calls] at inside
    exact Nat.not_lt_zero _ inside
  have unlisted : h.listed = false := by simp [World.listed, calls]
  refine ⟨⟨fun i inside => absurd inside (none i), fun i inside => absurd inside (none i),
    fun i inside => absurd inside (none i), fun i inside => absurd inside (none i),
    fun reading => by simp at reading, by simp, fun reading => by simp at reading, by simp⟩,
    fun r' same => ?_, fun r' same => ?_, fun r' same _ => ?_, fun r' same shut => ?_⟩
  all_goals
    rw [present, Option.some.injEq] at same
    subst same
  · exact ⟨by simp [entries], by simp [entries], by simp [entries], by simp [entries]⟩
  · simp [listening, open']
  · refine ⟨fun _ => ⟨?_, by omega⟩, fun _ e member => by simp [entries] at member, fun done => ?_⟩
    · rw [World.listingShare_nil, unlisted, entries, lock]
      rfl
    · rw [idle] at done
      cases done
  · rw [open'] at shut
    cases shut

/-- A registry session starts with the startup books, for a registry open and not started up. -/
theorem startup_initial {j : Json} {h : World} (start : initial "registry" j = .ok h) :
    h.Startup [] 0 ∧ ∃ r, h.registry = some r ∧ r.startedUp = false ∧ r.closed = false := by
  unfold initial at start
  rw [if_neg (by decide), if_pos (by decide)] at start
  simp only [bind, Except.bind] at start
  split at start
  · cases start
  · split at start
    · cases start
    · cases start
      exact ⟨World.startup_fresh rfl rfl rfl rfl rfl rfl rfl, _, rfl, rfl, rfl⟩

/-- **The startup lock of a registry session.** At every point between two steps of a registry
session, with `notes` the notes of the steps taken:
* while the registry is open and has not started up, its lock is one for the activatable names
  not yet read plus one for each registered client not yet ready, and is positive; exactly the
  clients not yet ready hold a share;
* while it is open and has started up, its lock is zero, the activatable names have been read
  and no client holds a share;
* while it is open, startup completion has been announced exactly when the registry has started
  up, which is exactly when the activatable names have been read and no client holds a share;
* startup completion is announced at most once, and the lock is never reported released below
  zero;
* once the registry has closed, the steps that follow report nothing of its lock. -/
theorem startup_lock {j : Json} {h₀ h : World} {notes : List Note}
    (start : initial "registry" j = .ok h₀) (run : Noted h₀ notes h) :
    ∃ r, h.registry = some r ∧
      (r.closed = false → r.startedUp = false →
        r.startupLock = (if h.listed then 0 else 1) +
          r.entries.countP (fun e => !(h.clients.getD e.client default).proxy.ready) ∧
        0 < r.startupLock ∧
        ∀ e ∈ r.entries, e.lockHeld = !(h.clients.getD e.client default).proxy.ready) ∧
      (r.closed = false → r.startedUp = true →
        r.startupLock = 0 ∧ h.listed = true ∧ ∀ e ∈ r.entries, e.lockHeld = false) ∧
      (r.closed = false →
        (Note.lockNotesIn notes = [.registryReady] ↔ r.startedUp = true) ∧
        (r.startedUp = true ↔ h.listed = true ∧ ∀ e ∈ r.entries, e.lockHeld = false)) ∧
      (Note.lockNotesIn notes = [] ∨ Note.lockNotesIn notes = [.registryReady]) ∧
      (r.closed = true → ∀ notes' h', Noted h notes' h' → Note.lockNotesIn notes' = []) := by
  obtain ⟨fresh, r₀, registered, idle₀, open₀⟩ := startup_initial start
  obtain ⟨books, told⟩ := run.startup fresh
  obtain ⟨r, present, -, -⟩ := told.kept r₀ registered
  -- the books of an open registry, read with nothing under way
  have pending : r.closed = false → r.startedUp = false →
      r.startupLock = (if h.listed then 0 else 1) + r.entries.countP (·.lockHeld) ∧
        0 < r.startupLock ∧
        ∀ e ∈ r.entries, e.lockHeld = !(h.clients.getD e.client default).proxy.ready := by
    intro open' idle
    obtain ⟨counted, positive⟩ := (books.locked r present open').pending idle
    rw [World.listingShare_nil] at counted
    exact ⟨counted, positive, (books.locked r present open').held idle⟩
  have complete : r.closed = false → r.startedUp = true →
      r.startupLock = 0 ∧ h.listed = true ∧ ∀ e ∈ r.entries, e.lockHeld = false := by
    intro open' done
    obtain ⟨-, lock, share, free⟩ := (books.locked r present open').complete done
    rw [World.listingShare_nil] at share
    refine ⟨lock, ?_, free⟩
    cases listed : h.listed
    · rw [listed] at share
      cases share
    · rfl
  refine ⟨r, present, fun open' idle => ?_, complete, fun open' => ⟨⟨fun announced => ?_,
    fun done => told.flipped r₀ r registered present idle₀ done open'⟩, ⟨fun done => ?_,
    fun ⟨listed, free⟩ => ?_⟩⟩, ?_, fun closed notes' h' later => ?_⟩
  · obtain ⟨counted, positive, held⟩ := pending open' idle
    refine ⟨?_, positive, held⟩
    rw [counted, List.countP_congr fun e member => by rw [held e member]]
  · rcases told.once with silent | ⟨-, -, r', -, current, -, -, done⟩
    · rw [silent] at announced
      cases announced
    · rw [present, Option.some.injEq] at current
      rw [current]
      exact done
  · exact (complete open' done).2
  · -- not started up, the lock would be positive with no share left in it
    cases idle : r.startedUp
    · obtain ⟨counted, positive, -⟩ := pending open' idle
      have none : r.entries.countP (·.lockHeld) = 0 :=
        List.countP_eq_zero.mpr fun e member held => by rw [free e member] at held; cases held
      rw [counted, listed, none] at positive
      cases positive
    · rfl
  · rcases told.once with silent | ⟨announced, -⟩
    · exact .inl silent
    · exact .inr announced
  · -- what follows starts from the closed registry, which announces nothing more
    obtain ⟨-, later⟩ := later.startup books
    rcases later.once with silent | ⟨-, r', -, current, -, -, open', -⟩
    · exact silent
    · rw [present, Option.some.injEq] at current
      subst current
      rw [closed] at open'
      cases open'

/-- A registry session that starts its registry: the lock is the listing's share alone, and
nothing about it has been announced. -/
theorem startup_lock_after_start :
    ∃ h₀ notes h r, initial "registry" (.obj []) = .ok h₀ ∧ Noted h₀ notes h ∧
      h.registry = some r ∧ r.started = true ∧ r.startupLock = 1 ∧ Note.lockNotesIn notes = [] := by
  have checked : ((initial "registry" (.obj [])).toOption.any fun h₀ =>
      ((runStep stepBudget 0 startRequest >>= fun _ => get).run' { h₀ with notes := #[] }).any
        fun h => !h.listed && h.registry.any fun r =>
          r.started && !r.closed && !r.startedUp && r.entries.isEmpty) = true := by
    decide +kernel
  cases start : initial "registry" (.obj []) with
  | error e =>
    rw [start] at checked
    cases checked
  | ok h₀ =>
    rw [start] at checked
    simp only [Except.toOption, Option.any_some] at checked
    obtain ⟨h, final, opened⟩ := (Option.any_eq_true _ _).mp checked
    rw [Bool.and_eq_true, Bool.not_eq_true'] at opened
    obtain ⟨unlisted, found⟩ := opened
    obtain ⟨r, present, flags⟩ := (Option.any_eq_true _ _).mp found
    simp only [Bool.and_eq_true, Bool.not_eq_true', List.isEmpty_iff] at flags
    obtain ⟨⟨⟨begun, open'⟩, idle⟩, empty⟩ := flags
    obtain ⟨answer, ran⟩ := run_ok_of_final final
    have run : Noted h₀ (h.notes.toList ++ []) h := .step ran (.refl h)
    obtain ⟨r', present', pending, -, announced, once, -⟩ := startup_lock start run
    rw [present, Option.some.injEq] at present'
    subst present'
    obtain ⟨counted, -, -⟩ := pending open' idle
    refine ⟨h₀, _, h, r, rfl, run, present, begun, by simpa [unlisted, empty] using counted, ?_⟩
    -- the registry has not started up, so startup completion is not announced
    rcases once with silent | ready
    · exact silent
    · rw [(announced open').1.mp ready] at idle
      cases idle

end MissionControl.Hub
