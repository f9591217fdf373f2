import MissionControl.Proofs.Hub.Sessions
import MissionControl.Proofs.Hub.Footprint

/-!
# The waiter lists of fetches

A fetch keeps the waiters registered on it in a list, in the order they were registered, and its
fan-out walks that list by position, reading it afresh at each step, while the callbacks of the
waiters register more waiters, cancel some, close owners or dispose of the object. This module
states what the lists keep through all of that (`World.Queued`):
* a waiter listed by a fetch is registered on it unless cancelled or finished, a fetch not
  disposed of lists no finished waiter that is not cancelled, listed waiters have a reaction,
  no list holds a waiter twice, and a finished waiter has been released (`World.Listed`);
* a waiter firing on its own is registered on no fetch (`World.Alone`);
* a fetch firing has had its request answered (`World.Fires`), and a fetch that was firing in
  an earlier world `h₀` either still fires, with the list it had in `h₀` still at the head of
  its list, or is done firing with no fan-out of it under way (`World.Spread`).

Most of the hub's work leaves the waiters, the fetches and the requests as they are
(`World.SameRecords`). Cancelling, finishing and releasing waiters only retire them
(`World.Retired`). What is left changes the lists, and is taken one operation at a time:
registering a waiter, starting a fetch, dropping cancelled waiters, disposing of fetches,
settling a fetch, recording and answering requests.
-/

set_option autoImplicit false

namespace MissionControl.Hub

open Readiness

/-! ## Operations that leave the records alone -/

namespace World

/-- Worlds with the same waiters, fetches and requests. -/
structure SameRecords (h h' : World) : Prop where
  waiters : h'.waiters = h.waiters
  fetches : h'.fetches = h.fetches
  calls : h'.bus.calls = h.bus.calls

namespace SameRecords

theorem refl (h : World) : h.SameRecords h := ⟨rfl, rfl, rfl⟩

theorem trans {h₁ h₂ h₃ : World} (first : h₁.SameRecords h₂) (second : h₂.SameRecords h₃) :
    h₁.SameRecords h₃ :=
  ⟨second.waiters.trans first.waiters, second.fetches.trans first.fetches,
    second.calls.trans first.calls⟩

variable {α β : Type}

theorem stays_pure (a : α) : Stays SameRecords (pure a : HubM α) := by
  intro h b h' run
  rw [ok_pure run]
  exact refl h

theorem stays_bind {x : HubM α} {f : α → HubM β} (first : Stays SameRecords x)
    (rest : ∀ a, Stays SameRecords (f a)) : Stays SameRecords (x >>= f) := by
  intro h b h' run
  obtain ⟨a, h₁, ran, more⟩ := bind_ok.mp run
  exact (first h a h₁ ran).trans (rest a h₁ b h' more)

/-- An operation that only reads the world. -/
theorem stays_read {x : HubM α} (reads : ∀ h, ∃ a, x.run h = .ok a h) : Stays SameRecords x := by
  intro h a h' run
  obtain ⟨b, ran⟩ := reads h
  rw [ran, EStateM.Result.ok.injEq] at run
  rw [← run.2]
  exact refl h

theorem stays_forIn {xs : List α} {body : α → PUnit → HubM (ForInStep PUnit)}
    (pass : ∀ a, Stays SameRecords (body a ⟨⟩)) : Stays SameRecords (ForIn.forIn xs ⟨⟩ body) := by
  induction xs with
  | nil => exact stays_pure _
  | cons a rest ih =>
    rw [List.forIn_cons]
    refine stays_bind (pass a) fun step => ?_
    cases step with
    | done _ => exact stays_pure _
    | yield _ => exact ih

theorem stays_get : Stays SameRecords (get : HubM World) := stays_read fun h => ⟨_, run_get h⟩

theorem stays_note (n : Note) : Stays SameRecords (Hub.note n) :=
  Stays.of_modify fun _ => ⟨rfl, rfl, rfl⟩

theorem stays_modifyLatch (m : Nat) (g : Latch → Latch) : Stays SameRecords (modifyLatch m g) :=
  Stays.of_modify fun _ => ⟨rfl, rfl, rfl⟩

theorem stays_newLatch (l : Latch) : Stays SameRecords (newLatch l) :=
  Stays.of_modifyGet fun _ => ⟨rfl, rfl, rfl⟩

theorem stays_modifyOwner (o : Nat) (g : Owner → Owner) : Stays SameRecords (modifyOwner o g) :=
  Stays.of_modify fun _ => ⟨rfl, rfl, rfl⟩

theorem stays_newOwner : Stays SameRecords newOwner :=
  Stays.of_modifyGet fun _ => ⟨rfl, rfl, rfl⟩

theorem stays_modifyClient (c : Nat) (g : ClientObject → ClientObject) :
    Stays SameRecords (modifyClient c g) :=
  Stays.of_modify fun _ => ⟨rfl, rfl, rfl⟩

theorem stays_modifyProxy (c : Nat) (g : Client.Proxy → Client.Proxy) :
    Stays SameRecords (modifyProxy c g) :=
  stays_modifyClient c _

theorem stays_modifyAccount (a : Nat) (g : AccountObject → AccountObject) :
    Stays SameRecords (modifyAccount a g) :=
  Stays.of_modify fun _ => ⟨rfl, rfl, rfl⟩

theorem stays_modifyRegistry (g : Registry → Registry) : Stays SameRecords (modifyRegistry g) :=
  Stays.of_modify fun _ => ⟨rfl, rfl, rfl⟩

theorem stays_label (l : String) (w : Nat) :
    Stays SameRecords (modify fun h => { h with waiterLabels := bindLabel h.waiterLabels l w }) :=
  Stays.of_modify fun _ => ⟨rfl, rfl, rfl⟩

theorem stays_untrack (w : Nat) (o : Option Nat) : Stays SameRecords (untrack w o) := by
  cases o with
  | none => exact stays_pure _
  | some o => exact stays_modifyOwner _ _

theorem stays_daemonCall (member : String) (args : List Value) :
    Stays SameRecords (daemonCall member args) :=
  Stays.of_modify fun _ => ⟨rfl, rfl, rfl⟩

theorem stays_post (p : Posted) : Stays SameRecords (post p) :=
  Stays.of_modify fun _ => ⟨rfl, rfl, rfl⟩

theorem stays_linkOpen : Stays SameRecords linkOpen := stays_read fun h => ⟨_, run_linkOpen h⟩

theorem stays_theRegistry : Stays SameRecords theRegistry := by
  intro h r h' run
  rw [run_theRegistry] at run
  split at run
  · simp only [EStateM.Result.ok.injEq] at run
    rw [← run.2]
    exact refl h
  · cases run

theorem stays_subscribe (rule : MatchRule) (l : Listener) : Stays SameRecords (subscribe rule l) := by
  unfold subscribe
  refine stays_bind (Stays.of_modifyGet fun _ => ⟨rfl, rfl, rfl⟩) fun _ =>
    stays_bind stays_linkOpen fun _ => ?_
  split
  · exact stays_bind (stays_daemonCall _ _) fun _ => stays_pure _
  · exact stays_pure _

theorem stays_unsubscribe (id : Nat) : Stays SameRecords (unsubscribe id) := by
  unfold unsubscribe
  refine stays_bind stays_get fun h => ?_
  dsimp only
  split
  · exact stays_pure _
  · refine stays_bind (Stays.of_modify fun _ => ⟨rfl, rfl, rfl⟩) fun _ =>
      stays_bind stays_linkOpen fun _ => ?_
    split
    · exact stays_daemonCall _ _
    · exact stays_pure _

theorem stays_transmit (i : Nat) (dest path method : String) (args : List Value) :
    Stays SameRecords (transmit i dest path method args) := by
  unfold transmit
  refine stays_bind stays_get fun h => ?_
  split
  · split
    · exact stays_post _
    · split
      · exact stays_post _
      · split
        split
        · exact stays_post _
        · exact stays_bind (Stays.of_modifyGet fun _ => ⟨rfl, rfl, rfl⟩) fun _ => stays_post _
  · exact stays_pure _

theorem stays_build (s : Subject) (d : Descriptor) (props : Option Properties) :
    Stays SameRecords (build s d props) := by
  unfold build
  split
  · exact stays_bind stays_get fun _ => stays_note _
  · exact stays_modifyProxy _ _
  · exact stays_modifyProxy _ _
  · exact stays_modifyProxy _ _
  · exact stays_modifyProxy _ _
  · exact stays_modifyAccount _ _
  · exact stays_modifyAccount _ _
  · exact Stays.of_throw _
  · exact Stays.of_throw _
  · exact Stays.of_throw _

theorem stays_absorbResult (fs : Fetch) (result : Except String (Option Properties)) :
    Stays SameRecords (absorbResult fs result) := by
  unfold absorbResult
  split
  · exact stays_build _ _ _
  · exact stays_bind stays_get fun _ => stays_note _

theorem stays_watch (s : Subject) (iface : String) (k : Watcher) :
    Stays SameRecords (watch s iface k) := by
  unfold watch
  split
  · exact stays_bind stays_get fun _ => stays_note _
  · split
    · unfold watchAccount
      exact stays_bind (stays_read fun h => ⟨_, run_account _ h⟩) fun _ =>
        stays_bind (stays_subscribe _ _) fun _ => stays_modifyAccount _ _
    · exact Stays.of_throw _

theorem stays_applyAccountChange (a : Nat) (body : List Value) :
    Stays SameRecords (applyAccountChange a body) := by
  unfold applyAccountChange
  split
  · exact stays_modifyAccount _ _
  · exact stays_pure _

theorem stays_releaseStartupLock : Stays SameRecords releaseStartupLock := by
  unfold releaseStartupLock
  refine stays_bind (stays_read fun h => ⟨_, run_registry? h⟩) fun r? => ?_
  split
  · split
    · exact stays_pure _
    · split
      · exact stays_bind (stays_note _) fun _ => stays_pure _
      · refine stays_bind (stays_modifyRegistry _) fun _ => ?_
        split
        · exact stays_pure _
        · refine stays_bind (stays_modifyRegistry _) fun _ => ?_
          split
          · exact stays_note _
          · exact stays_pure _
  · exact stays_pure _

theorem stays_becomeReady (c : Nat) : Stays SameRecords (becomeReady c) := by
  unfold becomeReady
  refine stays_bind (stays_read fun h => ⟨_, run_client c h⟩) fun cl => ?_
  split
  · exact stays_pure _
  · refine stays_bind (stays_modifyProxy _ _) fun _ => ?_
    split
    · unfold registryClientReady
      refine stays_bind (stays_read fun h => ⟨_, run_registry? h⟩) fun r? => ?_
      split
      · split
        · split
          · exact stays_bind (stays_modifyRegistry _) fun _ => stays_releaseStartupLock
          · exact stays_pure _
        · exact stays_pure _
      · exact stays_pure _
    · exact stays_pure _

theorem stays_openRegistry : Stays SameRecords openRegistry := by
  unfold openRegistry
  exact stays_bind (stays_modifyRegistry _) fun _ =>
    stays_bind (stays_subscribe _ _) fun _ => stays_modifyRegistry _

theorem stays_openClient (c : Nat) (name : String) : Stays SameRecords (openClient c name) := by
  unfold openClient
  exact stays_bind (stays_modifyProxy _ _) fun _ =>
    stays_bind (stays_subscribe _ _) fun _ => stays_modifyClient _ _

theorem stays_enroll (r : Registry) (name u : String) (act : Bool) :
    Stays SameRecords (enroll r name u act) := by
  unfold enroll
  refine stays_bind stays_newOwner fun o => ?_
  refine stays_bind (Stays.of_modifyGet fun _ => ⟨rfl, rfl, rfl⟩) fun c => ?_
  refine stays_bind (stays_modifyRegistry _) fun _ => stays_bind (stays_modifyClient _ _) fun _ => ?_
  split
  · exact stays_bind (stays_note _) fun _ => stays_pure _
  · exact stays_pure _

theorem stays_setStatus (s : Subject) (st : Status) :
    Stays SameRecords (modify fun h => h.setStatus s st) :=
  Stays.of_modify fun h => ⟨setStatus_waiters h s st, setStatus_fetches h s st, by simp⟩

theorem stays_groupNotesFrom (start : Nat) : Stays SameRecords (groupNotesFrom start) := by
  unfold groupNotesFrom
  refine Stays.of_modify fun h => ?_
  dsimp only
  split
  · exact refl h
  · exact ⟨rfl, rfl, rfl⟩

theorem stays_releaseLatch (m : Nat) : Stays SameRecords (releaseLatch m) := by
  unfold releaseLatch
  refine stays_bind (stays_read fun h => ⟨_, run_latch m h⟩) fun l => ?_
  split
  refine stays_bind (stays_modifyLatch _ _) fun _ => ?_
  split
  · split
    · exact stays_note _
    · exact stays_pure _
  · exact stays_pure _

end SameRecords

/-! ## What the lists keep -/

/-- Every waiter listed by fetch `f` that is neither cancelled nor finished is registered on
it. -/
def Lists (h : World) (f : Nat) : Prop :=
  ∀ w ∈ (h.fetches.getD f default).waiters, (h.waiters.getD w default).cancelled = false →
    (h.waiters.getD w default).done = false → (h.waiters.getD w default).fetch = some f

/-- Fetch `f`, unless disposed of, lists no finished waiter that is not cancelled. -/
def Pends (h : World) (f : Nat) : Prop :=
  (h.fetches.getD f default).disposed = false → ∀ w ∈ (h.fetches.getD f default).waiters,
    (h.waiters.getD w default).cancelled = false → (h.waiters.getD w default).done = false

/-- The waiter lists of the fetches: their waiters are registered on them unless cancelled or
finished, and only fetches disposed of, or among `loose`, list finished waiters that are not
cancelled; listed waiters have a reaction; no list holds a waiter twice; and every finished
waiter has been released. -/
structure Listed (h : World) (loose : List Nat) : Prop where
  lists : ∀ f, h.Lists f
  pends : ∀ f, f ∉ loose → h.Pends f
  reacts : ∀ f, ∀ w ∈ (h.fetches.getD f default).waiters,
    (h.waiters.getD w default).reaction.isSome = true
  nodup : ∀ f, (h.fetches.getD f default).waiters.toList.Nodup
  released : ∀ w, (h.waiters.getD w default).done = true → (h.waiters.getD w default).released = true

/-- Every waiter that fires on its own in the operations under way is a waiter of the world,
registered on no fetch. -/
def Alone (h : World) (S : List Frame) : Prop :=
  ∀ w, Frame.alone w ∈ S → w < h.waiters.size ∧ (h.waiters.getD w default).fetch = none

/-- Fetch `f` has a request on the bus, answered. -/
def Answered (h : World) (f : Nat) : Prop :=
  ∃ i < h.bus.calls.size, (h.bus.calls.getD i default).route = .fetch f ∧
    (h.bus.calls.getD i default).answered = true

/-- Every fetch firing has had its request answered. -/
def Fires (h : World) : Prop :=
  ∀ f, (h.fetches.getD f default).firing = true → h.Answered f

/-- Every fetch firing in `h₀` has had its request answered, and either still fires, with the
waiters it listed in `h₀` at the head of its list in the same order, or fires no more, with no
fan-out of it under way. -/
def Spread (h₀ : World) (S : List Frame) (h : World) : Prop :=
  ∀ f, (h₀.fetches.getD f default).firing = true → h.Answered f ∧
    (((h.fetches.getD f default).firing = true ∧
        (h₀.fetches.getD f default).waiters.toList <+: (h.fetches.getD f default).waiters.toList) ∨
      ((h.fetches.getD f default).firing = false ∧ ∀ j, Frame.fanOut f j ∉ S))

/-- Every fetch of `h₀` is a fetch of `h`, for the same interface of the same object. -/
structure Recorded (h₀ h : World) : Prop where
  size : h₀.fetches.size ≤ h.fetches.size
  subject : ∀ f < h₀.fetches.size,
    (h.fetches.getD f default).subject = (h₀.fetches.getD f default).subject
  descriptor : ∀ f < h₀.fetches.size,
    (h.fetches.getD f default).descriptor = (h₀.fetches.getD f default).descriptor

/-- What the fan-outs of the operations under way `S` rely on, for the fetches of `h₀`: the
lists, the waiters firing on their own, the fetches firing, and the fetches of `h₀` themselves. -/
structure Queued (h₀ : World) (S : List Frame) (h : World) : Prop where
  listed : h.Listed []
  alone : h.Alone S
  fires : h.Fires
  spread : Spread h₀ S h
  recorded : Recorded h₀ h

section Queued

variable {h₀ h h' : World} {S : List Frame}

/-- The fetches firing in a world spread from it. -/
theorem Fires.spread (fires : h.Fires) : Spread h S h := fun f firing =>
  ⟨fires f firing, .inl ⟨firing, List.prefix_refl _⟩⟩

theorem Recorded.refl (h : World) : Recorded h h := ⟨Nat.le_refl _, fun _ _ => rfl, fun _ _ => rfl⟩

theorem Recorded.same (recorded : Recorded h₀ h) (fetches : h'.fetches = h.fetches) :
    Recorded h₀ h' where
  size := fetches ▸ recorded.size
  subject f inside := by
    rw [fetches]
    exact recorded.subject f inside
  descriptor f inside := by
    rw [fetches]
    exact recorded.descriptor f inside

/-- Changing one fetch in a way that keeps its object and interface. -/
theorem Recorded.modify (recorded : Recorded h₀ h) (f : Nat) (g : Fetch → Fetch)
    (subject : ∀ x, (g x).subject = x.subject) (descriptor : ∀ x, (g x).descriptor = x.descriptor) :
    Recorded h₀ { h with fetches := h.fetches.modify f g } where
  size := by
    simp only [Array.size_modify]
    exact recorded.size
  subject f' inside := (getD_modify_of_keeps _ _ _ _ Fetch.subject subject).trans (recorded.subject f' inside)
  descriptor f' inside :=
    (getD_modify_of_keeps _ _ _ _ Fetch.descriptor descriptor).trans (recorded.descriptor f' inside)

/-- Adding a fetch. -/
theorem Recorded.push (recorded : Recorded h₀ h) (fs : Fetch) :
    Recorded h₀ { h with fetches := h.fetches.push fs } where
  size := by
    simp only [Array.size_push]
    exact Nat.le_succ_of_le recorded.size
  subject f inside := by
    show ((h.fetches.push fs).getD f default).subject = _
    rw [getD_push, if_neg (by have := recorded.size; omega)]
    exact recorded.subject f inside
  descriptor f inside := by
    show ((h.fetches.push fs).getD f default).descriptor = _
    rw [getD_push, if_neg (by have := recorded.size; omega)]
    exact recorded.descriptor f inside

theorem Queued.of_same (queued : Queued h₀ S h) (same : h.SameRecords h') : Queued h₀ S h' := by
  obtain ⟨⟨lists, pends, reacts, nodup, released⟩, alone, fires, spread, recorded⟩ := queued
  obtain ⟨waiters, fetches, calls⟩ := same
  refine ⟨⟨?_, ?_, ?_, ?_, ?_⟩, ?_, ?_, ?_, recorded.same fetches⟩ <;>
    simpa only [Lists, Pends, Alone, Fires, Spread, Answered, waiters, fetches, calls]

/-- The operations under way may change, as long as no waiter starts firing on its own and no
fetch starts fanning out. -/
theorem Queued.frames {S' : List Frame} (queued : Queued h₀ S h)
    (alone : ∀ w, Frame.alone w ∈ S' → Frame.alone w ∈ S)
    (fans : ∀ f j, Frame.fanOut f j ∈ S' → ∃ i, Frame.fanOut f i ∈ S) : Queued h₀ S' h where
  listed := queued.listed
  recorded := queued.recorded
  alone w firing := queued.alone w (alone w firing)
  fires := queued.fires
  spread f firing := by
    obtain ⟨answered, still | ⟨stopped, ended⟩⟩ := queued.spread f firing
    · exact ⟨answered, .inl still⟩
    · refine ⟨answered, .inr ⟨stopped, fun j fanning => ?_⟩⟩
      obtain ⟨i, fanned⟩ := fans f j fanning
      exact ended i fanned

theorem Queued.pop {F : Frame} (queued : Queued h₀ (F :: S) h) : Queued h₀ S h :=
  queued.frames (fun _ => List.mem_cons_of_mem F) fun _ j fanning => ⟨j, List.mem_cons_of_mem F fanning⟩

theorem Queued.push {F : Frame} (queued : Queued h₀ S h) (alone : ∀ w, F ≠ .alone w)
    (fans : ∀ f j, F ≠ .fanOut f j) : Queued h₀ (F :: S) h := by
  refine queued.frames (fun w firing => ?_) fun f j fanning => ⟨j, ?_⟩
  · rcases List.mem_cons.mp firing with same | rest
    · exact absurd same.symm (alone w)
    · exact rest
  · rcases List.mem_cons.mp fanning with same | rest
    · exact absurd same.symm (fans f j)
    · exact rest

/-- The fan-out on top moves to another position of its list. -/
theorem Queued.advance {f i : Nat} (queued : Queued h₀ (.fanOut f i :: S) h) (j : Nat) :
    Queued h₀ (.fanOut f j :: S) h := by
  refine queued.frames (fun w firing => ?_) fun g k fanning => ?_
  · rcases List.mem_cons.mp firing with same | rest
    · cases same
    · exact List.mem_cons_of_mem _ rest
  · rcases List.mem_cons.mp fanning with same | rest
    · cases same
      exact ⟨i, List.mem_cons_self ..⟩
    · exact ⟨k, List.mem_cons_of_mem _ rest⟩

end Queued

end World

/-- An operation that leaves the records alone keeps the lists. -/
theorem Stays.queued {h₀ : World} {S : List Frame} {α : Type} {x : HubM α}
    (stays : Stays World.SameRecords x) : Keeps (World.Queued h₀ S) x :=
  stays.keeps fun _ _ same queued => queued.of_same same

/-- A change of the world that keeps its waiters, fetches and requests keeps the lists. -/
theorem modify_queued {h₀ : World} {S : List Frame} {g : World → World}
    (same : ∀ h : World, h.SameRecords (g h)) : Keeps (World.Queued h₀ S) (modify g) :=
  Stays.queued (Stays.of_modify same)

/-! ## Retiring waiters -/

/-- Waiter record `y` is `x` retired further: the same reaction, cancelled, finished and
released if `x` was, and registered where `x` was unless taken off its fetch when cancelled or
finished. -/
structure Waiter.Retires (x y : Waiter) : Prop where
  reaction : y.reaction = x.reaction
  cancelled : x.cancelled = true → y.cancelled = true
  done : x.done = true → y.done = true
  released : x.released = true → y.released = true
  fetch : y.fetch = x.fetch ∨ y.fetch = none ∧ (y.cancelled = true ∨ y.done = true)

namespace Waiter.Retires

theorem refl (x : Waiter) : x.Retires x := ⟨rfl, id, id, id, .inl rfl⟩

theorem trans {x y z : Waiter} (first : x.Retires y) (second : y.Retires z) : x.Retires z where
  reaction := second.reaction.trans first.reaction
  cancelled := second.cancelled ∘ first.cancelled
  done := second.done ∘ first.done
  released := second.released ∘ first.released
  fetch := by
    rcases second.fetch with same | off
    · rcases first.fetch with same' | ⟨off', stopped⟩
      · exact .inl (same.trans same')
      · exact .inr ⟨same.trans off', stopped.imp second.cancelled second.done⟩
    · exact .inr off

/-- A waiter neither cancelled nor finished after retiring was neither before, and is registered
where it was. -/
theorem live {x y : Waiter} (retires : x.Retires y) (live : y.cancelled = false)
    (pending : y.done = false) : x.cancelled = false ∧ x.done = false ∧ y.fetch = x.fetch := by
  refine ⟨?_, ?_, ?_⟩
  · cases c : x.cancelled
    · rfl
    · rw [retires.cancelled c] at live
      cases live
  · cases d : x.done
    · rfl
    · rw [retires.done d] at pending
      cases pending
  · rcases retires.fetch with same | ⟨-, stopped⟩
    · exact same
    · rw [live, pending] at stopped
      simp at stopped

end Waiter.Retires

namespace World

/-- World `h'` is `h` with waiters retired: the same fetches and requests, as many waiters, each
retired further, and every waiter newly finished released and, unless cancelled, listed by no
fetch not disposed of but those of `loose`. -/
structure Retired (h h' : World) (loose : List Nat) : Prop where
  fetches : h'.fetches = h.fetches
  calls : h'.bus.calls = h.bus.calls
  size : h'.waiters.size = h.waiters.size
  retires : ∀ w, (h.waiters.getD w default).Retires (h'.waiters.getD w default)
  finished : ∀ w, (h.waiters.getD w default).done = false → (h'.waiters.getD w default).done = true →
    (h'.waiters.getD w default).released = true ∧
    ∀ f ∉ loose, (h.fetches.getD f default).disposed = false →
      w ∈ (h.fetches.getD f default).waiters → (h'.waiters.getD w default).cancelled = true

namespace Retired

variable {h h₁ h' : World} {loose : List Nat}

theorem of_same (same : h.SameRecords h') : h.Retired h' loose where
  fetches := same.fetches
  calls := same.calls
  size := by rw [same.waiters]
  retires w := by
    rw [same.waiters]
    exact Waiter.Retires.refl _
  finished w pending finished := by
    rw [same.waiters, pending] at finished
    cases finished

theorem trans (first : h.Retired h₁ loose) (second : h₁.Retired h' loose) : h.Retired h' loose where
  fetches := second.fetches.trans first.fetches
  calls := second.calls.trans first.calls
  size := second.size.trans first.size
  retires w := (first.retires w).trans (second.retires w)
  finished w pending finished := by
    cases midway : (h₁.waiters.getD w default).done
    · -- finished by the second change, over the same lists
      obtain ⟨released, unlisted⟩ := second.finished w midway finished
      refine ⟨released, fun f other live listed => ?_⟩
      rw [← first.fetches] at live listed
      exact unlisted f other live listed
    · -- finished by the first
      obtain ⟨released, unlisted⟩ := first.finished w pending midway
      exact ⟨(second.retires w).released released,
        fun f other live listed => (second.retires w).cancelled (unlisted f other live listed)⟩

theorem same (retired : h.Retired h₁ loose) (same : h₁.SameRecords h') : h.Retired h' loose :=
  retired.trans (of_same same)

/-- Changing one waiter in a way that retires it and finishes nothing. -/
theorem modifyWaiter {w : Nat} {g : Waiter → Waiter}
    (retires : (h.waiters.getD w default).Retires (g (h.waiters.getD w default)))
    (pending : (g (h.waiters.getD w default)).done = (h.waiters.getD w default).done) :
    h.Retired { h with waiters := h.waiters.modify w g } loose where
  fetches := rfl
  calls := rfl
  size := Array.size_modify
  retires v := by
    dsimp only
    rw [getD_modify]
    split
    · rename_i same
      rw [← same.1]
      exact retires
    · exact Waiter.Retires.refl _
  finished v unfinished finished := by
    dsimp only at finished
    rw [getD_modify] at finished
    split at finished
    · rename_i same
      rw [← same.1, pending, same.1, unfinished] at finished
      cases finished
    · rw [unfinished] at finished
      cases finished

/-- Retiring waiters keeps the lists. -/
theorem listed (retired : h.Retired h' loose) (listed : h.Listed loose) : h'.Listed loose where
  lists f w listed' live pending := by
    rw [retired.fetches] at listed'
    obtain ⟨live₀, pending₀, same⟩ := (retired.retires w).live live pending
    rw [same]
    exact listed.lists f w listed' live₀ pending₀
  pends f other disposed w listed' live := by
    rw [retired.fetches] at disposed listed'
    cases finished : (h'.waiters.getD w default).done
    · rfl
    · have live₀ : (h.waiters.getD w default).cancelled = false := by
        cases c : (h.waiters.getD w default).cancelled
        · rfl
        · rw [(retired.retires w).cancelled c] at live
          cases live
      have pending₀ := listed.pends f other disposed w listed' live₀
      rw [(retired.finished w pending₀ finished).2 f other disposed listed'] at live
      cases live
  reacts f w listed' := by
    rw [retired.fetches] at listed'
    rw [(retired.retires w).reaction]
    exact listed.reacts f w listed'
  nodup f := by
    rw [retired.fetches]
    exact listed.nodup f
  released w finished := by
    cases before : (h.waiters.getD w default).done
    · exact (retired.finished w before finished).1
    · exact (retired.retires w).released (listed.released w before)

theorem alone {S : List Frame} (retired : h.Retired h' loose) (alone : h.Alone S) : h'.Alone S := by
  intro w firing
  obtain ⟨inside, unregistered⟩ := alone w firing
  refine ⟨retired.size ▸ inside, ?_⟩
  rcases (retired.retires w).fetch with same | ⟨off, -⟩
  · rw [same, unregistered]
  · exact off

theorem fires (retired : h.Retired h' loose) (fires : h.Fires) : h'.Fires := by
  simpa only [Fires, Answered, retired.fetches, retired.calls] using fires

theorem spread {h₀ : World} {S : List Frame} (retired : h.Retired h' loose) (spread : Spread h₀ S h) :
    Spread h₀ S h' := by
  simpa only [Spread, Answered, retired.fetches, retired.calls] using spread

theorem queued {h₀ : World} {S : List Frame} (retired : h.Retired h' []) (queued : Queued h₀ S h) :
    Queued h₀ S h' :=
  ⟨retired.listed queued.listed, retired.alone queued.alone, retired.fires queued.fires,
    retired.spread queued.spread, queued.recorded.same retired.fetches⟩

end Retired

end World

/-- A waiter already released is as it was once marked released. -/
theorem Waiter.with_released {x : Waiter} (released : x.released = true) :
    { x with released := true } = x := by
  cases x
  subst released
  rfl

/-- Releasing a waiter marks it released; no other waiter, fetch or request changes. -/
theorem releaseWaiter_run {w : Nat} {h h' : World} {u : Unit} (run : (releaseWaiter w).run h = .ok u h') :
    h'.fetches = h.fetches ∧ h'.bus.calls = h.bus.calls ∧ h'.waiters.size = h.waiters.size ∧
      ∀ v, h'.waiters.getD v default = if v = w ∧ w < h.waiters.size then
        { h.waiters.getD w default with released := true } else h.waiters.getD v default := by
  unfold releaseWaiter at run
  obtain ⟨wt, h₀, read, run⟩ := bind_ok.mp run
  simp only [run_waiter, EStateM.Result.ok.injEq] at read
  obtain ⟨rfl, rfl⟩ := read
  split at run
  · -- released before: nothing changes
    rename_i released
    rw [ok_pure run]
    refine ⟨rfl, rfl, rfl, fun v => ?_⟩
    split
    · rename_i same
      rw [same.1, Waiter.with_released released]
    · rfl
  · obtain ⟨⟨⟩, h₁, marked, hook⟩ := bind_ok.mp run
    simp only [run_modifyWaiter, EStateM.Result.ok.injEq] at marked
    -- the release hook runs after the mark, and leaves the records alone
    have same : h₁.SameRecords h' := by
      split at hook
      · rw [ok_pure hook]
        exact World.SameRecords.refl _
      · exact World.SameRecords.stays_note _ _ _ _ hook
      · exact World.SameRecords.stays_releaseLatch _ _ _ _ hook
    rw [← marked.2] at same
    refine ⟨same.fetches, same.calls, by rw [same.waiters, Array.size_modify], fun v => ?_⟩
    rw [same.waiters, getD_modify]
    by_cases here : v = w
    · subst here
      simp
    · rw [if_neg fun both => here both.1.symm, if_neg fun both => here both.1]

/-- Finishing a waiter marks it done and released and takes it off its fetch; no other waiter,
fetch or request changes. -/
theorem finish_run {w : Nat} {h h' : World} {u : Unit} (run : (finish w).run h = .ok u h') :
    h'.fetches = h.fetches ∧ h'.bus.calls = h.bus.calls ∧ h'.waiters.size = h.waiters.size ∧
      ∀ v, h'.waiters.getD v default = if v = w ∧ w < h.waiters.size then
        { h.waiters.getD w default with done := true, fetch := none, released := true }
        else h.waiters.getD v default := by
  simp only [finish, bind_ok, run_waiter, run_modifyWaiter, run_untrack, EStateM.Result.ok.injEq,
    exists_returned, exists_returned_unit] at run
  obtain ⟨fetches, calls, size, released⟩ := releaseWaiter_run run
  refine ⟨fetches, calls, by rw [size, Array.size_modify], fun v => ?_⟩
  rw [released v]
  simp only [Array.size_modify, getD_modify]
  by_cases here : v = w
  · subst here
    by_cases inside : v < h.waiters.size <;> simp [inside]
  · simp [here, Ne.symm here]

namespace World

variable {h h' : World} {loose : List Nat}

theorem Retired.releaseWaiter {w : Nat} {u : Unit} (run : (Hub.releaseWaiter w).run h = .ok u h') :
    h.Retired h' loose := by
  obtain ⟨fetches, calls, size, released⟩ := releaseWaiter_run run
  refine ⟨fetches, calls, size, fun v => ?_, fun v pending finished => ?_⟩
  · rw [released v]
    split
    · rename_i same
      rw [same.1]
      exact ⟨rfl, id, id, fun _ => rfl, .inl rfl⟩
    · exact Waiter.Retires.refl _
  · rw [released v] at finished
    split at finished
    · rename_i same
      rw [← same.1, pending] at finished
      cases finished
    · rw [pending] at finished
      cases finished

/-- Finishing a waiter retires it, when it is cancelled or listed by no fetch not disposed of but
those of `loose`. -/
theorem Retired.finish {w : Nat} {u : Unit}
    (unlisted : ∀ f ∉ loose, (h.fetches.getD f default).disposed = false →
      w ∈ (h.fetches.getD f default).waiters → (h.waiters.getD w default).cancelled = true)
    (run : (Hub.finish w).run h = .ok u h') : h.Retired h' loose := by
  obtain ⟨fetches, calls, size, finished⟩ := finish_run run
  refine ⟨fetches, calls, size, fun v => ?_, fun v pending done => ?_⟩
  · rw [finished v]
    split
    · rename_i same
      rw [same.1]
      exact ⟨rfl, id, fun _ => rfl, fun _ => rfl, .inr ⟨rfl, .inr rfl⟩⟩
    · exact Waiter.Retires.refl _
  · rw [finished v] at done ⊢
    split at done
    · rename_i same
      rw [if_pos same, same.1]
      exact ⟨rfl, unlisted⟩
    · rw [pending] at done
      cases done

/-- Finishing, one after another, the waiters of a fetch that pass a test, when only live
waiters pass it and the fetch is disposed of or among `loose`, retires them. -/
theorem Retired.finishEach {f : Nat} {u : PUnit} (ws : Array Nat) (p : Waiter → Bool)
    (live : ∀ wt, p wt = true → wt.cancelled = false ∧ wt.done = false) (listed : h.Listed loose)
    (members : ∀ w ∈ ws, w ∈ (h.fetches.getD f default).waiters)
    (settled : ∀ w ∈ ws, (h.fetches.getD f default).disposed = true ∨ f ∈ loose)
    (run : (ForIn.forIn ws ⟨⟩ fun w _ => do
      let wt ← Hub.waiter w
      if p wt then Hub.finish w
      Pure.pure (ForInStep.yield ⟨⟩) : HubM PUnit).run h = .ok u h') : h.Retired h' loose := by
  rw [← Array.forIn_toList] at run
  have walked := Triple.forIn_along (fun _ h₁ => h.Retired h₁ loose) _ [] ws.toList
    (fun before w after split => ?_) (Retired.of_same (SameRecords.refl h)) run
  · exact walked
  intro h₁ step h₂ retired pass
  have walking : w ∈ ws := Array.mem_toList_iff.mp (by simp [split])
  have member : w ∈ (h₁.fetches.getD f default).waiters := by
    rw [retired.fetches]
    exact members w walking
  obtain ⟨wt, h₃, read, pass⟩ := bind_ok.mp pass
  simp only [run_waiter, EStateM.Result.ok.injEq] at read
  obtain ⟨rfl, rfl⟩ := read
  dsimp only at pass
  split at pass
  · -- a live waiter of the fetch is registered on it, so on no other fetch
    rename_i passes
    obtain ⟨⟨⟩, h₄, finished, returned⟩ := bind_ok.mp pass
    simp only [run_pure, EStateM.Result.ok.injEq] at returned
    obtain ⟨rfl, rfl⟩ := returned
    refine ⟨rfl, ?_⟩
    obtain ⟨live₁, pending₁⟩ := live _ passes
    have listed₁ := retired.listed listed
    have registered := listed₁.lists f w member live₁ pending₁
    refine retired.trans (Retired.finish (fun g other disposed listed' => ?_) finished)
    have same : g = f := by
      rw [listed₁.lists g w listed' live₁ pending₁] at registered
      exact Option.some.inj registered
    subst same
    rw [retired.fetches] at disposed
    rcases settled w walking with gone | loosened
    · rw [gone] at disposed
      cases disposed
    · exact absurd loosened other
  · simp only [run_pure, EStateM.Result.ok.injEq] at pass
    obtain ⟨rfl, rfl⟩ := pass
    exact ⟨rfl, retired⟩

end World

/-! ## Cancelling waiters and disposing of fetches -/

/-- A waiter registered on a fetch is a waiter of the world. -/
theorem lt_of_registered {h : World} {w f : Nat} (registered : (h.waiters.getD w default).fetch = some f) :
    w < h.waiters.size := by
  by_contra outside
  rw [getD_of_size_le (by omega)] at registered
  cases registered

section Queued

variable {h₀ : World} {S : List Frame}

/-- Dropping the cancelled waiters of a fetch not firing keeps the lists. -/
theorem compact_queued (f : Nat) : Keeps (World.Queued h₀ S) (compact f) := by
  intro h u h' queued run
  unfold compact at run
  obtain ⟨fs, h₁, read, run⟩ := bind_ok.mp run
  simp only [run_fetch, EStateM.Result.ok.injEq] at read
  obtain ⟨rfl, rfl⟩ := read
  split at run
  · rw [ok_pure run]
    exact queued
  rename_i firing
  simp only [bind_ok, run_get, run_modifyFetch, EStateM.Result.ok.injEq, exists_returned] at run
  obtain ⟨-, rfl⟩ := run
  -- every fetch keeps its disposal and firing, and lists some of the waiters it listed
  let keep : Nat → Bool := fun w => !(h.waiters.getD w default).cancelled
  have fetch' : ∀ g, (h.fetches.modify f fun x => { x with waiters := x.waiters.filter keep }).getD g
      default = if f = g then { h.fetches.getD g default with
        waiters := (h.fetches.getD g default).waiters.filter keep } else h.fetches.getD g default := by
    intro g
    rw [getD_modify]
    by_cases same : f = g
    · subst same
      by_cases inside : f < h.fetches.size
      · simp [inside]
      · simp only [inside, and_false, if_false, if_true]
        rw [getD_of_size_le (by omega)]
        rfl
    · simp [same]
  have kept : ∀ g w, w ∈ ((h.fetches.modify f fun x => { x with waiters := x.waiters.filter keep }).getD
      g default).waiters → w ∈ (h.fetches.getD g default).waiters := by
    intro g w listed
    rw [fetch' g] at listed
    split at listed
    · exact (Array.mem_filter.mp listed).1
    · exact listed
  obtain ⟨⟨lists, pends, reacts, nodup, released⟩, alone, fires, spread, recorded⟩ := queued
  refine ⟨⟨fun g w listed => ?_, fun g loosened disposed w listed => ?_, fun g w listed => ?_,
    fun g => ?_, released⟩, alone, fun g firing' => ?_, fun g firing₀ => ?_,
    recorded.modify f (fun x => { x with waiters := x.waiters.filter keep }) (fun _ => rfl) fun _ => rfl⟩
  · exact lists g w (kept g w listed)
  · rw [fetch' g] at disposed
    split at disposed <;> exact pends g loosened disposed w (kept g w listed)
  · exact reacts g w (kept g w listed)
  · rw [fetch' g]
    split
    · simpa only [Array.toList_filter] using (nodup g).filter keep
    · exact nodup g
  · rw [fetch' g] at firing'
    split at firing' <;> exact fires g firing'
  · obtain ⟨answered, still | ⟨stopped, ended⟩⟩ := spread g firing₀
    · -- a fetch still firing is not the one compacted
      refine ⟨answered, .inl ?_⟩
      rw [fetch' g, if_neg fun same => by subst same; simp_all]
      exact still
    · refine ⟨answered, .inr ⟨?_, ended⟩⟩
      rw [fetch' g]
      split <;> exact stopped

/-- Cancelling a waiter keeps the lists: it is marked cancelled before it leaves its fetch, and
its fetch drops cancelled waiters only when not firing. -/
theorem cancelWaiter_queued (w : Nat) : Keeps (World.Queued h₀ S) (cancelWaiter w) := by
  intro h b h' queued run
  unfold cancelWaiter at run
  obtain ⟨wt, h₁, read, run⟩ := bind_ok.mp run
  simp only [run_waiter, EStateM.Result.ok.injEq] at read
  obtain ⟨rfl, rfl⟩ := read
  split at run
  · rw [ok_pure run]
    exact queued
  obtain ⟨⟨⟩, h₂, marked, run⟩ := bind_ok.mp run
  simp only [run_modifyWaiter, EStateM.Result.ok.injEq] at marked
  have queued₂ : World.Queued h₀ S h₂ := by
    rw [← marked.2]
    refine World.Retired.queued ?_ queued
    exact World.Retired.modifyWaiter ⟨rfl, fun _ => rfl, id, id, .inl rfl⟩ rfl
  obtain ⟨⟨⟩, h₃, untracked, run⟩ := bind_ok.mp run
  have same₃ := World.SameRecords.stays_untrack _ _ _ _ _ untracked
  have queued₃ := queued₂.of_same same₃
  -- what follows the fetch, if any: the waiter is released
  have releasing : ∀ h₄, World.Queued h₀ S h₄ →
      (do releaseWaiter w; pure true : HubM Bool).run h₄ = .ok b h' → World.Queued h₀ S h' := by
    intro h₄ queued₄ run
    obtain ⟨⟨⟩, h₅, released, returned⟩ := bind_ok.mp run
    rw [ok_pure returned]
    exact (World.Retired.releaseWaiter released).queued queued₄
  split at run
  · rename_i f registered
    -- the waiter, cancelled, leaves its fetch, which then drops it unless firing
    have inside := lt_of_registered registered
    have cancelled : (h₃.waiters.getD w default).cancelled = true := by
      rw [same₃.waiters, ← marked.2, getD_modify, if_pos ⟨rfl, inside⟩]
    obtain ⟨⟨⟩, h₄, unfetched, run⟩ := bind_ok.mp run
    simp only [run_modifyWaiter, EStateM.Result.ok.injEq] at unfetched
    have queued₄ : World.Queued h₀ S h₄ := by
      rw [← unfetched.2]
      refine World.Retired.queued ?_ queued₃
      exact World.Retired.modifyWaiter ⟨rfl, id, id, id, .inr ⟨rfl, .inl cancelled⟩⟩ rfl
    obtain ⟨⟨⟩, h₅, compacted, run⟩ := bind_ok.mp run
    exact releasing h₅ (compact_queued f queued₄ compacted) run
  · exact releasing h₃ queued₃ run

/-- Closing an owner keeps the lists. -/
theorem closeOwner_queued (o : Nat) : Keeps (World.Queued h₀ S) (closeOwner o) := by
  unfold closeOwner
  refine Keeps.bind (World.SameRecords.stays_read fun h => ⟨_, run_owner o h⟩).queued fun ow => ?_
  split
  · exact Triple.of_pure
  refine Keeps.bind (World.SameRecords.stays_modifyOwner _ _).queued fun _ => ?_
  refine Keeps.bind (Keeps.forIn _ _ fun w _ h step h' queued run => ?_) fun _ => Triple.of_pure
  obtain ⟨b, h₁, cancelled, returned⟩ := bind_ok.mp run
  simp only [run_pure, EStateM.Result.ok.injEq] at returned
  obtain ⟨rfl, rfl⟩ := returned
  exact ⟨rfl, cancelWaiter_queued w queued cancelled⟩

/-- Marking a fetch disposed of keeps the lists. -/
theorem World.Queued.markDisposed {h : World} (queued : World.Queued h₀ S h) (f : Nat) :
    World.Queued h₀ S { h with fetches := h.fetches.modify f fun x => { x with disposed := true } } := by
  have waiters : ∀ g, ((h.fetches.modify f fun x => { x with disposed := true }).getD g
      default).waiters = (h.fetches.getD g default).waiters :=
    fun g => getD_modify_of_keeps _ _ _ _ Fetch.waiters fun _ => rfl
  have firing : ∀ g, ((h.fetches.modify f fun x => { x with disposed := true }).getD g
      default).firing = (h.fetches.getD g default).firing :=
    fun g => getD_modify_of_keeps _ _ _ _ Fetch.firing fun _ => rfl
  obtain ⟨⟨lists, pends, reacts, nodup, released⟩, alone, fires, spread, recorded⟩ := queued
  refine ⟨⟨fun g w listed => ?_, fun g loosened disposed w listed => ?_, fun g w listed => ?_,
    fun g => ?_, released⟩, alone, fun g firing' => ?_, fun g firing₀ => ?_,
    recorded.modify f (fun x => { x with disposed := true }) (fun _ => rfl) fun _ => rfl⟩
  · rw [waiters] at listed
    exact lists g w listed
  · rw [waiters] at listed
    rw [getD_modify] at disposed
    split at disposed
    · cases disposed
    · exact pends g loosened disposed w listed
  · rw [waiters] at listed
    exact reacts g w listed
  · rw [waiters]
    exact nodup g
  · rw [firing] at firing'
    exact fires g firing'
  · simpa only [World.Answered, waiters, firing] using spread g firing₀

/-- Disposing of the fetches of an object keeps the lists: each fetch is marked disposed of
before its live waiters are finished. -/
theorem disposeFetches_queued (s : Subject) : Keeps (World.Queued h₀ S) (disposeFetches s) := by
  unfold disposeFetches
  refine Keeps.bind World.SameRecords.stays_get.queued fun h => ?_
  refine Keeps.bind (World.SameRecords.stays_setStatus _ _).queued fun _ => ?_
  refine Keeps.bind (Keeps.forIn _ _ fun p _ h₁ step h' queued run => ?_) fun _ => Triple.of_pure
  obtain ⟨iface, f⟩ := p
  simp only [bind_ok, run_modifyFetch, run_fetch, EStateM.Result.ok.injEq, exists_returned,
    exists_returned_unit] at run
  obtain ⟨⟨⟩, h₂, finished, returned⟩ := run
  simp only [run_pure, EStateM.Result.ok.injEq] at returned
  obtain ⟨rfl, rfl⟩ := returned
  have marked := queued.markDisposed f
  refine ⟨rfl, (World.Retired.finishEach _ (fun wt => !(wt.cancelled || wt.done)) (fun wt passes => ?_)
    marked.listed (fun w listed => listed) (fun w listed => .inl ?_) finished).queued marked⟩
  · simpa using passes
  · -- a fetch that lists a waiter is one the world has, so it was marked
    rw [getD_modify] at listed ⊢
    split
    · rfl
    · rw [if_neg ‹_›, getD_of_size_le (by omega)] at listed
      exact absurd listed (Array.not_mem_empty w)

theorem disposeAccount_queued (a : Nat) : Keeps (World.Queued h₀ S) (disposeAccount a) := by
  unfold disposeAccount
  refine Keeps.bind (World.SameRecords.stays_read fun h => ⟨_, run_account a h⟩).queued fun acc => ?_
  refine Keeps.bind (World.SameRecords.stays_forIn fun id =>
    World.SameRecords.stays_bind (World.SameRecords.stays_unsubscribe id) fun _ =>
      World.SameRecords.stays_pure _).queued fun _ => ?_
  exact Keeps.bind (World.SameRecords.stays_modifyAccount _ _).queued fun _ => disposeFetches_queued _

theorem removeAccount_queued (a : Nat) : Keeps (World.Queued h₀ S) (removeAccount a) := by
  unfold removeAccount
  refine Keeps.bind (World.SameRecords.stays_read fun h => ⟨_, run_account a h⟩).queued fun acc => ?_
  split
  · exact Triple.of_pure
  · exact Keeps.bind (World.SameRecords.stays_modifyAccount _ _).queued fun _ => disposeAccount_queued a

theorem disposeClient_queued (c : Nat) : Keeps (World.Queued h₀ S) (disposeClient c) := by
  unfold disposeClient
  refine Keeps.bind (World.SameRecords.stays_read fun h => ⟨_, run_client c h⟩).queued fun cl => ?_
  -- the rest of the disposal, after the name watch ends
  have rest : Keeps (World.Queued h₀ S) (do
      closeOwner cl.owner
      disposeFetches (.client c)
      modifyClient c fun x => { x with readyLinked := false, goneLinked := false }) :=
    Keeps.bind (closeOwner_queued _) fun _ => Keeps.bind (disposeFetches_queued _) fun _ =>
      (World.SameRecords.stays_modifyClient _ _).queued
  dsimp only
  split
  · exact Keeps.bind (World.SameRecords.stays_unsubscribe _).queued fun _ =>
      Keeps.bind (World.SameRecords.stays_modifyClient _ _).queued fun _ => rest
  · exact rest

theorem registryForget_queued (name : String) : Keeps (World.Queued h₀ S) (registryForget name) := by
  unfold registryForget
  refine Keeps.bind (World.SameRecords.stays_read fun h => ⟨_, run_registry? h⟩).queued fun r? => ?_
  split
  · split
    · exact Triple.of_pure
    · refine Keeps.bind (World.SameRecords.stays_modifyClient _ _).queued fun _ =>
        Keeps.bind (World.SameRecords.stays_modifyRegistry _).queued fun _ =>
          Keeps.bind (disposeClient_queued _) fun _ => ?_
      split
      · exact World.SameRecords.stays_releaseStartupLock.queued
      · exact Triple.of_pure
  · exact Triple.of_pure

theorem clientOwnerChanged_queued (c : Nat) (name new : String) :
    Keeps (World.Queued h₀ S) (clientOwnerChanged c name new) := by
  unfold clientOwnerChanged
  refine Keeps.bind (World.SameRecords.stays_read fun h => ⟨_, run_client c h⟩).queued fun cl => ?_
  split
  · exact Triple.of_pure
  · split
    · exact Keeps.bind (World.SameRecords.stays_modifyProxy _ _).queued fun _ => Triple.of_pure
    · refine Keeps.bind (World.SameRecords.stays_modifyProxy _ _).queued fun _ => ?_
      split
      · exact Triple.of_pure
      · -- the client is gone: its waiters are cancelled, and the registry may forget it
        unfold invalidateClient
        refine Keeps.bind (World.SameRecords.stays_read fun h => ⟨_, run_client c h⟩).queued
          fun cl' => ?_
        split
        · exact Triple.of_pure
        · refine Keeps.bind (World.SameRecords.stays_modifyProxy _ _).queued fun _ =>
            Keeps.bind (closeOwner_queued _) fun _ =>
              Keeps.bind (World.SameRecords.stays_read fun h => ⟨_, run_client c h⟩).queued fun _ => ?_
          split
          · exact registryForget_queued _
          · exact Triple.of_pure

theorem closeRegistry_queued : Keeps (World.Queued h₀ S) closeRegistry := by
  unfold closeRegistry
  refine Keeps.bind (World.SameRecords.stays_read fun h => ⟨_, run_registry? h⟩).queued fun r? => ?_
  cases r? with
  | none => exact Triple.of_pure
  | some r =>
    dsimp only
    split
    · exact Triple.of_pure
    · refine Keeps.bind (World.SameRecords.stays_modifyRegistry _).queued fun _ => ?_
      -- every client of the registry is disposed of, after the name watch ends
      have rest : ∀ u : PUnit, Keeps (World.Queued h₀ S) (do
          for e in r.entries do
            modifyClient e.client fun x => { x with readyLinked := false, goneLinked := false }
            disposeClient e.client
          modifyRegistry fun x => { x with entries := [], listening := false }) := fun _ => by
        refine Keeps.bind (Keeps.forIn _ _ fun e _ h step h' queued run => ?_) fun _ =>
          (World.SameRecords.stays_modifyRegistry _).queued
        obtain ⟨⟨⟩, h₁, linked, run⟩ := bind_ok.mp run
        obtain ⟨⟨⟩, h₂, disposed, returned⟩ := bind_ok.mp run
        simp only [run_pure, EStateM.Result.ok.injEq] at returned
        obtain ⟨rfl, rfl⟩ := returned
        exact ⟨rfl, disposeClient_queued _ ((World.SameRecords.stays_modifyClient _ _).queued queued linked)
          disposed⟩
      split
      · exact Keeps.bind (World.SameRecords.stays_unsubscribe _).queued rest
      · exact rest ()

theorem stays_registerAll (type : String) (ds : List (String × Builder × Option Watcher)) :
    Stays World.SameRecords (registerAll type ds) := by
  unfold registerAll
  refine World.SameRecords.stays_bind World.SameRecords.stays_get fun h => ?_
  split
  refine World.SameRecords.stays_bind (Stays.of_modify fun _ => ⟨rfl, rfl, rfl⟩) fun _ => ?_
  split <;> exact World.SameRecords.stays_pure _

/-- Every step that never calls back keeps the lists. -/
theorem performPlain_queued (step : Step) : Keeps (World.Queued h₀ S) (performPlain step) := by
  unfold performPlain
  split
  · -- a descriptor added
    refine Keeps.bind World.SameRecords.stays_get.queued fun h => ?_
    split
    · exact Keeps.bind (modify_queued fun _ => ⟨rfl, rfl, rfl⟩) fun _ => Triple.of_pure
    · exact Triple.of_pure
  · exact Keeps.bind World.SameRecords.stays_get.queued fun _ => Triple.of_pure
  · exact Keeps.bind World.SameRecords.stays_get.queued fun _ => Triple.of_pure
  · split <;> exact (stays_registerAll _ _).queued
  · exact Keeps.bind (modify_queued fun _ => ⟨rfl, rfl, rfl⟩) fun _ => Triple.of_pure
  · exact Keeps.bind World.SameRecords.stays_newOwner.queued fun _ =>
      Keeps.bind (modify_queued fun _ => ⟨rfl, rfl, rfl⟩) fun _ => Triple.of_pure
  · -- an owner closed
    refine Keeps.bind World.SameRecords.stays_get.queued fun h => ?_
    split
    · exact Keeps.bind (closeOwner_queued _) fun _ => Triple.of_pure
    · exact Triple.of_pure
  · exact Triple.of_pure
  · -- a waiter cancelled
    refine Keeps.bind World.SameRecords.stays_get.queued fun h => ?_
    split
    · exact Keeps.bind (cancelWaiter_queued _) fun _ => Triple.of_pure
    · exact Triple.of_pure
  · exact Keeps.bind (modify_queued fun _ => ⟨rfl, rfl, rfl⟩) fun _ => Triple.of_pure
  · exact Keeps.bind (modify_queued fun _ => ⟨rfl, rfl, rfl⟩) fun _ => Triple.of_pure
  · refine Keeps.bind World.SameRecords.stays_get.queued fun h => ?_
    split
    · exact Keeps.bind (modify_queued fun _ => ⟨rfl, rfl, rfl⟩) fun _ => Triple.of_pure
    · exact Triple.of_pure
  · -- an object disposed of
    refine Keeps.bind World.SameRecords.stays_get.queued fun h => ?_
    refine Keeps.bind (World.SameRecords.stays_read fun h => ⟨_, run_subjectOf? _ h⟩).queued
      fun s? => ?_
    have grouped : Keeps (World.Queued h₀ S) (groupNotesFrom h.notes.size) :=
      (World.SameRecords.stays_groupNotesFrom _).queued
    dsimp only
    split
    · exact Keeps.bind (disposeAccount_queued _) fun _ => Keeps.bind grouped fun _ => Triple.of_pure
    · exact Keeps.bind (disposeFetches_queued _) fun _ => Keeps.bind grouped fun _ => Triple.of_pure
    · exact Triple.of_pure
  · -- an account removed
    refine Keeps.bind World.SameRecords.stays_get.queued fun h => ?_
    split
    · refine Keeps.bind World.SameRecords.stays_get.queued fun h' => Keeps.bind (removeAccount_queued _)
        fun _ => Keeps.bind ?_ fun _ => Triple.of_pure
      exact (World.SameRecords.stays_groupNotesFrom _).queued
    · exact Triple.of_pure
  · refine Keeps.bind (World.SameRecords.stays_read fun h => ⟨_, run_subjectOf? _ h⟩).queued
      fun s? => ?_
    split
    · exact Keeps.bind World.SameRecords.stays_get.queued fun _ => Triple.of_pure
    · exact Triple.of_pure
  · exact Keeps.bind (modify_queued fun _ => ⟨rfl, rfl, rfl⟩) fun _ => Triple.of_pure
  · exact Keeps.bind World.SameRecords.stays_theRegistry.queued fun _ =>
      Keeps.bind closeRegistry_queued fun _ => Triple.of_pure
  · refine Keeps.bind World.SameRecords.stays_theRegistry.queued fun r => ?_
    split <;> exact Triple.of_pure
  · exact Keeps.bind World.SameRecords.stays_get.queued fun _ =>
      Keeps.bind World.SameRecords.stays_theRegistry.queued fun _ => Triple.of_pure
  · exact Keeps.bind World.SameRecords.stays_get.queued fun _ =>
      Keeps.bind World.SameRecords.stays_theRegistry.queued fun _ => Triple.of_pure
  · exact Keeps.bind World.SameRecords.stays_get.queued fun _ => Triple.of_pure
  · exact Keeps.bind World.SameRecords.stays_get.queued fun _ => Triple.of_pure
  · exact Keeps.bind World.SameRecords.stays_get.queued fun _ => Triple.of_pure
  · exact Triple.of_pure

end Queued

/-! ## Registering waiters and starting fetches -/

/-- Asking for the activatable names ends the reading of the names, and starts nothing. -/
theorem Frame.mem_onCall {F : Frame} {route : Route} {S : List Frame}
    (member : F ∈ Frame.onCall route S) : F ∈ S := by
  unfold Frame.onCall at member
  split at member
  · exact List.mem_cons_of_mem _ member
  · exact member

/-- Delivering a reply starts the fan-out of its fetch, the reading of names, or nothing. -/
theorem Frame.mem_onReply {F : Frame} {route : Route} {S : List Frame}
    (member : F ∈ Frame.onReply route S) :
    F ∈ S ∨ F ∈ [Frame.naming, Frame.listing] ∨ ∃ f, route = .fetch f ∧ F = .fanOut f 0 := by
  unfold Frame.onReply at member
  split at member
  · rcases List.mem_cons.mp member with same | rest
    · exact .inr (.inr ⟨_, rfl, same⟩)
    · exact .inl rest
  · rcases List.mem_cons.mp member with same | rest
    · exact .inr (.inl (by simp [same]))
    · exact .inl rest
  · rcases List.mem_cons.mp member with same | rest
    · exact .inr (.inl (by simp [same]))
    · exact .inl rest
  · exact .inl member

namespace World

variable {h₀ h : World} {S : List Frame} {loose : List Nat}

/-- A listed waiter is a waiter of the world. -/
theorem Listed.lt (listed : h.Listed loose) {f w : Nat}
    (member : w ∈ (h.fetches.getD f default).waiters) : w < h.waiters.size := by
  by_contra outside
  have reacts := listed.reacts f w member
  rw [getD_of_size_le (by omega)] at reacts
  cases reacts

/-- A waiter neither cancelled, finished nor registered is listed by no fetch. -/
theorem Listed.unlisted (listed : h.Listed loose) {w : Nat}
    (live : (h.waiters.getD w default).cancelled = false)
    (pending : (h.waiters.getD w default).done = false)
    (unregistered : (h.waiters.getD w default).fetch = none) (f : Nat) :
    w ∉ (h.fetches.getD f default).waiters := fun member => by
  rw [listed.lists f w member live pending] at unregistered
  cases unregistered

/-- A new waiter, not finished, keeps the lists. -/
theorem Queued.newWaiter (queued : Queued h₀ S h) {wt : Waiter} (pending : wt.done = false) :
    Queued h₀ S { h with waiters := h.waiters.push wt } := by
  have old : ∀ w, w < h.waiters.size → (h.waiters.push wt).getD w default = h.waiters.getD w default :=
    fun w inside => by rw [getD_push, if_neg (Nat.ne_of_lt inside)]
  obtain ⟨listed, alone, fires, spread, recorded⟩ := queued
  refine ⟨⟨fun f w member => ?_, fun f loosened disposed w member => ?_, fun f w member => ?_,
    listed.nodup, fun w finished => ?_⟩, fun w firing => ?_, fires, spread, recorded.same rfl⟩
  · rw [old w (listed.lt member)]
    exact listed.lists f w member
  · rw [old w (listed.lt member)]
    exact listed.pends f loosened disposed w member
  · rw [old w (listed.lt member)]
    exact listed.reacts f w member
  · dsimp only at finished ⊢
    rw [getD_push] at finished ⊢
    by_cases new : w = h.waiters.size
    · rw [if_pos new, pending] at finished
      cases finished
    · rw [if_neg new] at finished ⊢
      exact listed.released w finished
  · obtain ⟨inside, unregistered⟩ := alone w firing
    refine ⟨by simp only [Array.size_push]; omega, ?_⟩
    dsimp only
    rw [old w inside]
    exact unregistered

/-- A fresh waiter with a reaction, not firing on its own, registered on a fetch not disposed
of, keeps the lists: the fetch lists it last. -/
theorem Queued.registered (queued : Queued h₀ S h) {f w : Nat} (owners : Array Owner)
    (fresh : h.Fresh w) (reacts : (h.waiters.getD w default).reaction.isSome = true)
    (apart : Frame.alone w ∉ S) (live : (h.fetches.getD f default).disposed = false) :
    Queued h₀ S (h.registered f w owners) := by
  obtain ⟨next, unregistered, live₀, pending₀, -⟩ := fresh
  obtain ⟨listed, alone, fires, spread, recorded⟩ := queued
  have unlisted := listed.unlisted live₀ pending₀ unregistered
  -- the waiter, and only it, is now registered on the fetch
  have waiter' : ∀ v, (h.waiters.modify w fun x => { x with fetch := some f }).getD v default =
      if v = w then { h.waiters.getD w default with fetch := some f } else h.waiters.getD v default := by
    intro v
    rw [getD_modify]
    by_cases same : v = w
    · subst same
      simp [show v < h.waiters.size by omega]
    · simp [same, Ne.symm same]
  -- and the fetch, and only it, lists it last
  have fetch' : ∀ g, (h.fetches.modify f fun x => { x with waiters := x.waiters.push w }).getD g default =
      if g = f ∧ f < h.fetches.size then
        { h.fetches.getD g default with waiters := (h.fetches.getD g default).waiters.push w }
      else h.fetches.getD g default := by
    intro g
    rw [getD_modify]
    by_cases same : g = f
    · subst same
      simp
    · simp [same, Ne.symm same]
  have member' : ∀ g v, v ∈ ((h.fetches.modify f fun x => { x with waiters := x.waiters.push w }).getD
      g default).waiters → v ≠ w ∧ v ∈ (h.fetches.getD g default).waiters ∨ v = w ∧ g = f := by
    intro g v member
    rw [fetch' g] at member
    split at member
    · rename_i same
      rcases Array.mem_push.mp member with old | added
      · exact .inl ⟨fun here => unlisted g (here ▸ old), old⟩
      · exact .inr ⟨added, same.1⟩
    · exact .inl ⟨fun here => unlisted g (here ▸ member), member⟩
  have kept : ∀ {β : Type} (field : Fetch → β), (∀ x : Fetch, field { x with waiters := x.waiters.push w } = field x) →
      ∀ g, field ((h.fetches.modify f fun x => { x with waiters := x.waiters.push w }).getD g default) =
        field (h.fetches.getD g default) :=
    fun field keeps g => getD_modify_of_keeps _ _ _ _ field keeps
  refine ⟨⟨fun g v member live' pending' => ?_, fun g loosened disposed v member live' => ?_,
    fun g v member => ?_, fun g => ?_, fun v finished => ?_⟩, fun v firing => ?_,
    fun g firing' => ?_, fun g firing₀ => ?_,
    (recorded.modify f (fun x => { x with waiters := x.waiters.push w }) (fun _ => rfl) fun _ => rfl).same
      rfl⟩
  · dsimp only at live' pending' ⊢
    rcases member' g v member with ⟨other, old⟩ | ⟨rfl, rfl⟩
    · rw [waiter' v, if_neg other] at live' pending' ⊢
      exact listed.lists g v old live' pending'
    · rw [waiter' v, if_pos rfl]
  · dsimp only at disposed live' ⊢
    rw [kept Fetch.disposed fun _ => rfl] at disposed
    rcases member' g v member with ⟨other, old⟩ | ⟨rfl, -⟩
    · rw [waiter' v, if_neg other] at live' ⊢
      exact listed.pends g loosened disposed v old live'
    · rw [waiter' v, if_pos rfl]
      exact pending₀
  · dsimp only
    rcases member' g v member with ⟨other, old⟩ | ⟨rfl, -⟩
    · rw [waiter' v, if_neg other]
      exact listed.reacts g v old
    · rw [waiter' v, if_pos rfl]
      exact reacts
  · dsimp only
    rw [fetch' g]
    split
    · rw [Array.toList_push, List.nodup_append]
      refine ⟨listed.nodup g, List.nodup_singleton w, fun v old v' added => ?_⟩
      rw [List.mem_singleton] at added
      subst added
      exact fun same => unlisted g (same ▸ Array.mem_toList_iff.mp old)
    · exact listed.nodup g
  · dsimp only at finished ⊢
    rw [waiter' v] at finished ⊢
    by_cases same : v = w
    · rw [if_pos same] at finished
      have done : (h.waiters.getD w default).done = true := finished
      rw [pending₀] at done
      cases done
    · rw [if_neg same] at finished ⊢
      exact listed.released v finished
  · obtain ⟨inside, unregistered'⟩ := alone v firing
    have other : v ≠ w := fun same => apart (same ▸ firing)
    refine ⟨by simp only [Array.size_modify]; exact inside, ?_⟩
    dsimp only
    rw [waiter' v, if_neg other]
    exact unregistered'
  · dsimp only at firing'
    rw [kept Fetch.firing fun _ => rfl] at firing'
    exact fires g firing'
  · obtain ⟨answered, still | ⟨stopped, ended⟩⟩ := spread g firing₀
    · refine ⟨answered, .inl ⟨?_, ?_⟩⟩
      · dsimp only
        rw [kept Fetch.firing fun _ => rfl]
        exact still.1
      · dsimp only
        rw [fetch' g]
        split
        · rw [Array.toList_push]
          exact still.2.trans (List.prefix_append _ _)
        · exact still.2
    · refine ⟨answered, .inr ⟨?_, ended⟩⟩
      dsimp only
      rw [kept Fetch.firing fun _ => rfl]
      exact stopped

/-- A fetch just started, for interface `d` of `s`, keeps the lists: it lists no waiter and
does not fire. -/
theorem Queued.started (queued : Queued h₀ S h) (s : Subject) (d : Descriptor) :
    Queued h₀ S (h.started s d) := by
  obtain ⟨listed, alone, fires, spread, recorded⟩ := queued
  have member' : ∀ g v, v ∈ ((h.started s d).fetches.getD g default).waiters →
      g ≠ h.fetches.size ∧ v ∈ (h.fetches.getD g default).waiters := by
    intro g v member
    rw [started_fetch] at member
    split at member
    · exact absurd member (Array.not_mem_empty v)
    · exact ⟨‹_›, member⟩
  refine ⟨⟨fun g v member => ?_, fun g loosened disposed v member => ?_, fun g v member => ?_,
    fun g => ?_, ?_⟩, ?_, fun g firing' => ?_, fun g firing₀ => ?_,
    (recorded.push { subject := s, descriptor := d }).same (setStatus_fetches _ _ _)⟩
  · obtain ⟨other, old⟩ := member' g v member
    simpa only [setStatus_waiters] using listed.lists g v old
  · obtain ⟨other, old⟩ := member' g v member
    rw [started_fetch, if_neg other] at disposed
    simpa only [setStatus_waiters] using listed.pends g loosened disposed v old
  · obtain ⟨other, old⟩ := member' g v member
    simpa only [setStatus_waiters] using listed.reacts g v old
  · rw [started_fetch]
    split
    · exact List.nodup_nil
    · exact listed.nodup g
  · simpa only [setStatus_waiters] using listed.released
  · simpa only [Alone, setStatus_waiters] using alone
  · rw [started_fetch] at firing'
    split at firing'
    · cases firing'
    · simpa only [Answered, setStatus_bus] using fires g firing'
  · obtain ⟨answered, still | ⟨stopped, ended⟩⟩ := spread g firing₀
    · -- a fetch firing is one the world had
      have other : g ≠ h.fetches.size := fun same => by
        rw [same, getD_of_size_le (Nat.le_refl _)] at still
        cases still.1
      refine ⟨by simpa only [Answered, setStatus_bus] using answered, .inl ?_⟩
      rw [started_fetch, if_neg other]
      exact still
    · refine ⟨by simpa only [Answered, setStatus_bus] using answered, .inr ⟨?_, ended⟩⟩
      rw [started_fetch]
      split
      · rfl
      · exact stopped

/-! ## Fan-outs and requests -/

/-- A fetch's list changes no more than the waiters it holds; the fetch is not disposed of
unless it was. -/
theorem Listed.of_fetches {h' : World} (listed : h.Listed loose) (waiters : h'.waiters = h.waiters)
    (same : ∀ g, (h'.fetches.getD g default).waiters = (h.fetches.getD g default).waiters)
    (disposed : ∀ g, (h'.fetches.getD g default).disposed = false →
      (h.fetches.getD g default).disposed = false) : h'.Listed loose where
  lists g w member := by
    rw [same g] at member
    rw [waiters]
    exact listed.lists g w member
  pends g loosened live w member := by
    rw [same g] at member
    rw [waiters]
    exact listed.pends g loosened (disposed g live) w member
  reacts g w member := by
    rw [same g] at member
    rw [waiters]
    exact listed.reacts g w member
  nodup g := by
    rw [same g]
    exact listed.nodup g
  released w := by
    rw [waiters]
    exact listed.released w

/-- A request still answered once more calls are recorded or answered. -/
theorem Answered.of_calls {h' : World} {f : Nat} (answered : h.Answered f)
    (calls : ∀ i < h.bus.calls.size, i < h'.bus.calls.size ∧
      (h'.bus.calls.getD i default).route = (h.bus.calls.getD i default).route ∧
      ((h.bus.calls.getD i default).answered = true → (h'.bus.calls.getD i default).answered = true)) :
    h'.Answered f := by
  obtain ⟨i, inside, routed, done⟩ := answered
  obtain ⟨inside', route, kept⟩ := calls i inside
  exact ⟨i, inside', route.trans routed, kept done⟩

/-- Recording and answering requests keeps the lists. -/
theorem Queued.of_calls {h' : World} (queued : Queued h₀ S h) (waiters : h'.waiters = h.waiters)
    (fetches : h'.fetches = h.fetches)
    (calls : ∀ i < h.bus.calls.size, i < h'.bus.calls.size ∧
      (h'.bus.calls.getD i default).route = (h.bus.calls.getD i default).route ∧
      ((h.bus.calls.getD i default).answered = true → (h'.bus.calls.getD i default).answered = true)) :
    Queued h₀ S h' where
  listed := queued.listed.of_fetches waiters (fun g => by rw [fetches]) fun g => by rw [fetches]; exact id
  recorded := queued.recorded.same fetches
  alone := by simpa only [Alone, waiters] using queued.alone
  fires f firing := by
    rw [fetches] at firing
    exact (queued.fires f firing).of_calls calls
  spread f firing := by
    obtain ⟨answered, rest⟩ := queued.spread f firing
    exact ⟨answered.of_calls calls, by simpa only [fetches] using rest⟩

/-- A request recorded keeps the lists, for the operations under way once it is sent. -/
theorem Queued.record (queued : Queued h₀ S h) (dest path method : String) (args : List Value)
    (route : Route) : Queued h₀ (Frame.onCall route S)
      { h with bus := (h.bus.record dest path method args route).1 } := by
  have old : ∀ i < h.bus.calls.size,
      (h.bus.record dest path method args route).1.calls.getD i default = h.bus.calls.getD i default :=
    fun i inside => by
      show (h.bus.calls.push _).getD i default = _
      rw [getD_push, if_neg (Nat.ne_of_lt inside)]
  have sent : Queued h₀ S { h with bus := (h.bus.record dest path method args route).1 } :=
    queued.of_calls rfl rfl fun i inside => ⟨by
      show i < (h.bus.calls.push _).size
      rw [Array.size_push]
      omega, by rw [old i inside], fun answered => by rw [old i inside]; exact answered⟩
  exact sent.frames (fun w firing => Frame.mem_onCall firing) fun g j fanning =>
    ⟨j, Frame.mem_onCall fanning⟩

/-- Answering a request keeps the lists, for the operations under way once its reply is
delivered: a fetch that fans out anew had its one request unanswered, so it fired in no earlier
world. -/
theorem Queued.answer (queued : Queued h₀ S h) {i : Nat} (inside : i < h.bus.calls.size)
    (unanswered : (h.bus.calls.getD i default).answered = false)
    (single : ∀ f, (h.bus.calls.getD i default).route = .fetch f →
      ∀ j < h.bus.calls.size, (h.bus.calls.getD j default).route = .fetch f → j = i) :
    Queued h₀ (Frame.onReply (h.bus.calls.getD i default).route S)
      { h with bus := h.bus.markAnswered i } := by
  have answered : Queued h₀ S { h with bus := h.bus.markAnswered i } :=
    queued.of_calls rfl rfl fun j within => ⟨by
      show j < (h.bus.calls.modify i _).size
      rw [Array.size_modify]
      exact within, getD_modify_of_keeps _ _ _ _ Bus.Call.route fun _ => rfl, fun done => by
        show ((h.bus.calls.modify i _).getD j default).answered = true
        rw [getD_modify]
        by_cases same : i = j ∧ j < h.bus.calls.size
        · rw [if_pos same]
        · rw [if_neg same]
          exact done⟩
  refine ⟨answered.listed, fun w firing => ?_, answered.fires, fun g firing₀ => ?_, answered.recorded⟩
  · rcases Frame.mem_onReply firing with old | named | ⟨f, -, same⟩
    · exact answered.alone w old
    · simp at named
    · cases same
  · obtain ⟨done, still | ⟨stopped, ended⟩⟩ := answered.spread g firing₀
    · exact ⟨done, .inl still⟩
    · refine ⟨done, .inr ⟨stopped, fun j fanning => ?_⟩⟩
      rcases Frame.mem_onReply fanning with old | named | ⟨f, routed, same⟩
      · exact ended j old
      · simp at named
      · cases same
        obtain ⟨k, within, routed', earlier⟩ := (queued.spread g firing₀).1
        obtain rfl := single g routed k within routed'
        rw [unanswered] at earlier
        cases earlier

/-- Setting whether a fetch fires changes no list and no disposal. -/
theorem Listed.of_firing (listed : h.Listed loose) (f : Nat) (b : Bool) :
    ({ h with fetches := h.fetches.modify f fun x => { x with firing := b } } : World).Listed loose :=
  listed.of_fetches rfl (fun _ => getD_modify_of_keeps _ _ _ _ Fetch.waiters fun _ => rfl)
    fun g live => by
      rw [← getD_modify_of_keeps h.fetches f g (fun x : Fetch => { x with firing := b }) Fetch.disposed
        fun _ => rfl]
      exact live

theorem firing_modify (fetches : Array Fetch) (f g : Nat) (b : Bool) :
    ((fetches.modify f fun x => { x with firing := b }).getD g default).firing =
      if f = g ∧ g < fetches.size then b else (fetches.getD g default).firing := by
  rw [getD_modify]
  split <;> rfl

/-- A fetch that stops firing fires no more, whether or not the world has it. -/
theorem firing_stopped (fetches : Array Fetch) (f : Nat) :
    ((fetches.modify f fun x => { x with firing := false }).getD f default).firing = false := by
  rw [firing_modify]
  split
  · rfl
  · rw [getD_of_size_le (by omega)]
    rfl

/-- A fetch fanning out, whose request was answered, starts firing. -/
theorem Queued.startFiring {f : Nat} (queued : Queued h₀ (.fanOut f 0 :: S) h) (answered : h.Answered f) :
    Queued h₀ (.fanOut f 0 :: S)
      { h with fetches := h.fetches.modify f fun x => { x with firing := true } } := by
  obtain ⟨listed, alone, fires, spread, recorded⟩ := queued
  refine ⟨listed.of_firing f true, alone, fun g firing => ?_, fun g firing₀ => ?_,
    recorded.modify f (fun x => { x with firing := true }) (fun _ => rfl) fun _ => rfl⟩
  · dsimp only at firing
    rw [firing_modify] at firing
    split at firing
    · rename_i same
      rw [← same.1]
      exact answered
    · exact fires g firing
  · obtain ⟨done, still | ⟨stopped, ended⟩⟩ := spread g firing₀
    · refine ⟨done, .inl ⟨?_, ?_⟩⟩
      · dsimp only
        rw [firing_modify]
        split
        · rfl
        · exact still.1
      · dsimp only
        rw [getD_modify_of_keeps h.fetches f g (fun x : Fetch => { x with firing := true }) Fetch.waiters
          fun _ => rfl]
        exact still.2
    · -- the fetch starting to fire is fanning out, so it is not one that stopped
      have other : g ≠ f := fun same => ended 0 (same ▸ List.mem_cons_self ..)
      refine ⟨done, .inr ⟨?_, ended⟩⟩
      dsimp only
      rw [getD_modify_ne _ _ other]
      exact stopped

/-- A fetch whose fan-out ends stops firing, with no other fan-out of it under way. -/
theorem Queued.stopFiring {f j : Nat} (queued : Queued h₀ (.fanOut f j :: S) h)
    (unfanned : ∀ i, Frame.fanOut f i ∉ S) :
    Queued h₀ S { h with fetches := h.fetches.modify f fun x => { x with firing := false } } := by
  obtain ⟨listed, alone, fires, spread, recorded⟩ := queued.pop
  refine ⟨listed.of_firing f false, alone, fun g firing => ?_, fun g firing₀ => ?_,
    recorded.modify f (fun x => { x with firing := false }) (fun _ => rfl) fun _ => rfl⟩
  · by_cases same : g = f
    · subst same
      dsimp only at firing
      rw [firing_stopped] at firing
      cases firing
    · dsimp only at firing
      rw [getD_modify_ne _ _ same] at firing
      exact fires g firing
  · obtain ⟨done, rest⟩ := spread g firing₀
    by_cases same : g = f
    · subst same
      exact ⟨done, .inr ⟨firing_stopped _ _, unfanned⟩⟩
    · refine ⟨done, ?_⟩
      dsimp only
      rw [getD_modify_ne _ _ same]
      exact rest

/-- Lists that keep the fetches of `loose` apart also keep those of a wider list apart. -/
theorem Listed.loosen (listed : h.Listed loose) (f : Nat) : h.Listed (f :: loose) :=
  { listed with pends := fun g other => listed.pends g fun kept => other (List.mem_cons_of_mem f kept) }

/-- Emptying the list of a fetch that no longer fires, and whose waiters may be finished, keeps
the lists. -/
theorem Queued.cleared {f : Nat} (listed : h.Listed [f]) (alone : h.Alone S) (fires : h.Fires)
    (spread : Spread h₀ S h) (recorded : Recorded h₀ h)
    (stopped : (h.fetches.getD f default).firing = false) :
    Queued h₀ S { h with fetches := h.fetches.modify f fun x => { x with waiters := #[] } } := by
  have member' : ∀ g w, w ∈ ((h.fetches.modify f fun x => { x with waiters := #[] }).getD g
      default).waiters → g ≠ f ∧ w ∈ (h.fetches.getD g default).waiters := by
    intro g w member
    rw [getD_modify] at member
    split at member
    · exact absurd member (Array.not_mem_empty w)
    · by_cases same : g = f
      · subst same
        rw [getD_of_size_le (by omega)] at member
        exact absurd member (Array.not_mem_empty w)
      · exact ⟨same, member⟩
  have kept : ∀ {β : Type} (field : Fetch → β), (∀ x : Fetch, field { x with waiters := #[] } = field x) →
      ∀ g, field ((h.fetches.modify f fun x => { x with waiters := #[] }).getD g default) =
        field (h.fetches.getD g default) :=
    fun field keeps g => getD_modify_of_keeps _ _ _ _ field keeps
  refine ⟨⟨fun g w member => ?_, fun g _ disposed w member => ?_, fun g w member => ?_, fun g => ?_,
    listed.released⟩, alone, fun g firing => ?_, fun g firing₀ => ?_,
    recorded.modify f (fun x => { x with waiters := #[] }) (fun _ => rfl) fun _ => rfl⟩
  · exact listed.lists g w (member' g w member).2
  · obtain ⟨other, old⟩ := member' g w member
    dsimp only at disposed
    rw [kept Fetch.disposed fun _ => rfl] at disposed
    exact listed.pends g (fun kept => other (List.mem_singleton.mp kept)) disposed w old
  · exact listed.reacts g w (member' g w member).2
  · dsimp only
    rw [getD_modify]
    split
    · exact List.nodup_nil
    · exact listed.nodup g
  · dsimp only at firing
    rw [kept Fetch.firing fun _ => rfl] at firing
    exact fires g firing
  · obtain ⟨done, still | ⟨stopped', ended⟩⟩ := spread g firing₀
    · -- a fetch still firing is not the one emptied
      have other : g ≠ f := fun same => by
        rw [same, stopped] at still
        cases still.1
      refine ⟨done, .inl ⟨?_, ?_⟩⟩
      · dsimp only
        rw [kept Fetch.firing fun _ => rfl]
        exact still.1
      · dsimp only
        rw [getD_modify_ne _ _ other]
        exact still.2
    · refine ⟨done, .inr ⟨?_, ended⟩⟩
      dsimp only
      rw [kept Fetch.firing fun _ => rfl]
      exact stopped'

/-- A fresh waiter may fire on its own. -/
theorem Queued.firesAlone (queued : Queued h₀ S h) {w : Nat} (fresh : h.Fresh w) :
    Queued h₀ (.alone w :: S) h where
  listed := queued.listed
  recorded := queued.recorded
  alone v firing := by
    rcases List.mem_cons.mp firing with same | rest
    · cases same
      exact ⟨by have := fresh.1; omega, fresh.2.1⟩
    · exact queued.alone v rest
  fires := queued.fires
  spread g firing₀ := by
    obtain ⟨done, still | ⟨stopped, ended⟩⟩ := queued.spread g firing₀
    · exact ⟨done, .inl still⟩
    · exact ⟨done, .inr ⟨stopped, fun j fanning => ended j ((List.mem_cons.mp fanning).resolve_left
        (by simp))⟩⟩

/-- The next waiter made fires on its own in no operation under way. -/
theorem Alone.apart (alone : h.Alone S) : Frame.alone h.waiters.size ∉ S := fun firing =>
  Nat.lt_irrefl _ (alone _ firing).1

end World

/-- What registering a waiter on a fetch leaves of the world. -/
theorem attach_run {f w : Nat} {o : Option Nat} {h h' : World} {u : Unit}
    (run : (attach f w o).run h = .ok u h') : ∃ owners, h' = h.registered f w owners := by
  simp only [attach, bind_ok, run_modifyWaiter, run_modifyFetch, EStateM.Result.ok.injEq,
    exists_returned_unit] at run
  cases o with
  | none =>
    rw [ok_pure run]
    exact ⟨h.owners, rfl⟩
  | some x =>
    simp only [run_modifyOwner, EStateM.Result.ok.injEq] at run
    exact ⟨_, run.2.symm⟩

/-- What starting a fetch for a waiter leaves of the world. -/
theorem openFetch_run {s : Subject} {d : Descriptor} {w : Nat} {o : Option Nat} {h h' : World}
    {f : Nat} (run : (openFetch s d w o).run h = .ok f h') :
    f = h.fetches.size ∧ ∃ owners, h' = (h.started s d).registered h.fetches.size w owners := by
  simp only [openFetch, bind_ok, run_newFetch, run_modify, EStateM.Result.ok.injEq,
    exists_returned, exists_returned_unit] at run
  obtain ⟨⟨⟩, h₁, attached, returned⟩ := run
  simp only [run_pure, EStateM.Result.ok.injEq] at returned
  obtain ⟨rfl, rfl⟩ := returned
  exact ⟨rfl, attach_run attached⟩

section Queued

variable {h₀ : World} {S : List Frame}

/-- Settling a fetch whose fan-out has ended keeps the lists for the operations below the
fan-out: the fetch stops firing, its live waiters are finished while it is the one fetch allowed
to list finished waiters, and its list is emptied. -/
theorem settleFetch_queued (f j : Nat) (err : Option String) :
    Triple (fun h => World.Queued h₀ (.fanOut f j :: S) h ∧ ∀ i, Frame.fanOut f i ∉ S)
      (settleFetch f err) fun _ => World.Queued h₀ S := by
  intro h u h' ⟨queued, unfanned⟩ run
  simp only [settleFetch, bind_ok, run_fetch, EStateM.Result.ok.injEq, exists_returned] at run
  obtain ⟨⟨⟩, h₁, stopped, run⟩ := run
  simp only [run_modifyFetch, EStateM.Result.ok.injEq] at stopped
  obtain ⟨-, rfl⟩ := stopped
  have queued₁ := queued.stopFiring unfanned
  split at run
  · rw [ok_pure run]
    exact queued₁
  · obtain ⟨⟨⟩, h₃, readied, run⟩ := bind_ok.mp run
    have same : World.SameRecords
        { h with fetches := h.fetches.modify f fun x => { x with firing := false } } h₃ := by
      simp only [run_modify, EStateM.Result.ok.injEq] at readied
      rw [← readied.2]
      exact ⟨World.setStatus_waiters _ _ _, World.setStatus_fetches _ _ _, by rw [World.setStatus_bus]⟩
    have queued₃ := queued₁.of_same same
    obtain ⟨⟨⟩, h₄, finished, cleared⟩ := bind_ok.mp run
    simp only [run_modifyFetch, EStateM.Result.ok.injEq] at cleared
    obtain ⟨-, rfl⟩ := cleared
    have retired := World.Retired.finishEach _ (fun wt => !wt.cancelled && !wt.done)
      (fun wt passes => by simpa using passes) (queued₃.listed.loosen f)
      (fun w listed => by rw [same.fetches]; exact listed)
      (fun _ _ => .inr (List.mem_singleton_self f)) finished
    refine World.Queued.cleared (retired.listed (queued₃.listed.loosen f)) (retired.alone queued₃.alone)
      (retired.fires queued₃.fires) (retired.spread queued₃.spread)
      (queued₃.recorded.same retired.fetches) ?_
    rw [retired.fetches, same.fetches]
    exact World.firing_stopped _ _

/-- A waiter that fired on its own, registered on no fetch, is finished. -/
theorem finish_alone_queued (w : Nat) :
    Triple (World.Queued h₀ (.alone w :: S)) (finish w) fun _ => World.Queued h₀ S := by
  intro h u h' queued run
  obtain ⟨-, unregistered⟩ := queued.alone w (List.mem_cons_self ..)
  refine (World.Retired.finish (fun f _ live member => ?_) run).queued queued.pop
  -- listed while registered on no fetch, it is cancelled or finished, and a fetch not disposed
  -- of lists no finished waiter that is not cancelled
  cases cancelled : (h.waiters.getD w default).cancelled
  · have pending := queued.listed.pends f (by simp) live w member cancelled
    rw [queued.listed.lists f w member cancelled pending] at unregistered
    cases unregistered
  · rfl

end Queued

end MissionControl.Hub
