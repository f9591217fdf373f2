import MissionControl.Proofs.Hub.WaiterLists
import MissionControl.Proofs.Hub.Subscriptions

/-!
# Completing a fetch

The reply to the request of a fetch is handled by `complete`: unless the fetch was disposed of,
the result is absorbed (the object's state is built from the properties, or the failure is
noted), the fetch starts firing, its fan-out walks its waiter list by position, reading the list
afresh at each step, and the fetch settles: unless disposed of meanwhile, its interface is
determined with the outcome and its waiters still live are finished.

The waiters' reactions run arbitrary session steps, which register more waiters on the same
fetch, cancel waiters, close owners and dispose of objects, and may complete other fetches
inline. What makes the fan-out reach every waiter exactly once, in registration order, is the
invariant of the waiter lists (`World.Queued`) carried through the interpreter together with the
books (`queues`): while a fetch fires, its list only grows at its end, so the list it had when
the fan-out reached a position still heads the list once the waiter there has fired
(`fanOut_serves`).

`complete_serves_waiters` puts it together: the reply to a fetch disposed of changes nothing;
otherwise the result is absorbed first, then each waiter of the final list, which begins with the
waiters listed when the reply came, has its turn once and in order (`Serves`), passed over if
cancelled by then or released when the object was disposed of meanwhile, and fired otherwise,
with the object and the outcome; and the fetch settles. Unless disposed of meanwhile, its
interface is then determined with the outcome, no longer in progress, every waiter of the list is
cancelled or finished, and every later wait for the interface fires at once with the object's
invalidation rather than the outcome, without a fetch (`Determined`).
-/

set_option autoImplicit false

namespace MissionControl.Hub

open Readiness

/-- Two triples of one computation give the triple of the conjunctions. -/
theorem Triple.both {α : Type} {pre pre' : World → Prop} {post post' : α → World → Prop}
    {x : HubM α} (first : Triple pre x post) (second : Triple pre' x post') :
    Triple (fun h => pre h ∧ pre' h) x fun a h => post a h ∧ post' a h :=
  fun _ _ _ holds run => ⟨first holds.1 run, second holds.2 run⟩

/-- `Triple.both` for a first triple that also asks a side condition of the world. -/
theorem Triple.both_given {α : Type} {pre pre' side : World → Prop} {post post' : α → World → Prop}
    {x : HubM α} (first : Triple (fun h => pre h ∧ side h) x post) (second : Triple pre' x post') :
    Triple (fun h => (pre h ∧ pre' h) ∧ side h) x fun a h => post a h ∧ post' a h :=
  fun _ _ _ holds run => ⟨first ⟨holds.1.1, holds.2⟩ run, second holds.1.2 run⟩

/-- A fetch fanning out is fanned out by no operation under way below it. -/
theorem World.Balanced.unfanned {h₀ h : World} {S : List Frame} {f j : Nat}
    (balanced : World.Balanced h₀ (.fanOut f j :: S) h) (i : Nat) : Frame.fanOut f i ∉ S := by
  intro fanning
  have listed : f ∈ S.filterMap Frame.fanning := List.mem_filterMap.mpr ⟨_, fanning, rfl⟩
  exact (List.nodup_cons.mp balanced.fanning.distinct).1 listed

/-! ## The books and the waiter lists as an invariant of the interpreter -/

/-- The books of the hub and the waiter lists of its fetches, as an invariant of the
interpreter: what `broker` asks of each operation, waiters made unfinished, and a waiter
registered on a fetch only where it does not fire on its own. -/
def queues (h₀ : World) : Invariant where
  Holds S h := World.Balanced h₀ S h ∧ World.Queued h₀ S h
  Ready := (broker h₀).Ready
  Reacts := (broker h₀).Reacts
  Calls := (broker h₀).Calls
  Makes S wt h := (broker h₀).Makes S wt h ∧ wt.done = false
  Waits := (broker h₀).Waits
  Performs := (broker h₀).Performs
  Heeds := (broker h₀).Heeds
  Replies := (broker h₀).Replies
  Sights := (broker h₀).Sights
  Joins S w := Frame.alone w ∉ S
  note S n plain := ((broker h₀).note S n plain).both (World.SameRecords.stays_note n).queued
  react S w r h holds ready live pending reaction :=
    (broker h₀).react S w r h holds.1 ready live pending reaction
  fired S label depth actions s err h holds reacts :=
    ⟨(broker h₀).fired S label depth actions s err h holds.1 reacts, holds.2.of_same ⟨rfl, rfl, rfl⟩⟩
  scripted S label depth actions h holds reacts :=
    (broker h₀).scripted S label depth actions h holds.1 reacts
  finale S m label depth actions h holds reacts finale :=
    (broker h₀).finale S m label depth actions h holds.1 reacts finale
  tick S m e c := ((broker h₀).tick S m e c).both_given
    (World.SameRecords.stays_modifyLatch m fun x => { x with firstError := e, toFire := c }).queued
  becomeReady S c := ((broker h₀).becomeReady S c).both (World.SameRecords.stays_becomeReady c).queued
  newWaiter S wt := by
    intro h w h' pre run
    refine ⟨(broker h₀).newWaiter S wt ⟨pre.1.1, pre.2.1⟩ run, ?_⟩
    simp only [run_newWaiter, EStateM.Result.ok.injEq] at run
    rw [← run.2]
    exact pre.1.2.newWaiter pre.2.2
  made S wt := by
    intro h w h' pre run
    simp only [run_newWaiter, EStateM.Result.ok.injEq] at run
    rw [← run.1]
    exact pre.1.2.alone.apart
  sessionWaiter S h label depth actions callback release o performs holds named :=
    ⟨(broker h₀).sessionWaiter S h label depth actions callback release o performs holds.1 named, rfl⟩
  latchWaiter S s m o h holds := ⟨(broker h₀).latchWaiter S s m o h holds.1, rfl⟩
  clientWaiter S c h holds inside := ⟨(broker h₀).clientWaiter S c h holds.1 inside, rfl⟩
  waitLabelled S s o l performs := by
    intro h m h' pre run
    refine ⟨(broker h₀).waitLabelled S s o l performs ⟨pre.1.1, pre.2⟩ run, ?_⟩
    exact ((World.SameRecords.stays_newLatch l).queued pre.1.2 run).push
      (fun _ same => by cases same) fun _ _ same => by cases same
  waitClient S c l o finale := by
    intro h m h' pre run
    refine ⟨(broker h₀).waitClient S c l o finale ⟨pre.1.1, pre.2⟩ run, ?_⟩
    exact ((World.SameRecords.stays_newLatch l).queued pre.1.2 run).push
      (fun _ same => by cases same) fun _ _ same => by cases same
  endWait S s m o h holds := ⟨(broker h₀).endWait S s m o h holds.1, holds.2.pop⟩
  sessionSubject S h label s performs holds found :=
    (broker h₀).sessionSubject S h label s performs holds.1 found
  accountSubject S h label a performs holds labelled :=
    (broker h₀).accountSubject S h label a performs holds.1 labelled
  clientSubject S c h holds inside := (broker h₀).clientSubject S c h holds.1 inside
  waitingSubject S s m o h holds := (broker h₀).waitingSubject S s m o h holds.1
  label S l w := ((broker h₀).label S l w).both (World.SameRecords.stays_label l w).queued
  alone S w h holds fresh :=
    ⟨⟨((broker h₀).alone S w h holds.1 fresh).1, holds.2.firesAlone fresh⟩,
      ((broker h₀).alone S w h holds.1 fresh).2⟩
  finishAlone S w := ((broker h₀).finishAlone S w).both (finish_alone_queued w)
  refuse S w := ((broker h₀).refuse S w).both_given (cancelWaiter_queued w)
  join S s d w f o apart := by
    intro h u h' pre run
    refine ⟨(broker h₀).join S s d w f o trivial ⟨pre.1.1, pre.2⟩ run, ?_⟩
    obtain ⟨⟨balanced, queued⟩, -, ⟨fresh, -, -, -, reacts⟩, -, fetching⟩ := pre
    -- the fetch in progress for the interface is not disposed of
    have holding := balanced.books.statuses.holding_of_fetching fetching
    have live : (h.fetches.getD f default).disposed = false := by
      cases disposed : (h.fetches.getD f default).disposed
      · rfl
      · exact absurd holding (balanced.books.statuses.not_holding disposed)
    obtain ⟨owners, rfl⟩ := attach_run run
    exact queued.registered owners fresh reacts apart live
  start S s d w o apart := by
    intro h f h' pre run
    obtain ⟨kept, calls⟩ := (broker h₀).start S s d w o trivial ⟨pre.1.1, pre.2⟩ run
    refine ⟨⟨kept, ?_⟩, calls⟩
    obtain ⟨⟨-, queued⟩, -, ⟨fresh, -, -, -, reacts⟩, -, -⟩ := pre
    obtain ⟨-, owners, rfl⟩ := openFetch_run run
    -- the new fetch is not disposed of, and starting it leaves the waiters as they were
    have live : ((h.started s d).fetches.getD h.fetches.size default).disposed = false := by
      rw [World.started_fetch, if_pos rfl]
    have waiters : (h.started s d).waiters = h.waiters := World.setStatus_waiters _ _ _
    refine (queued.started s d).registered owners ?_ ?_ apart live
    · simpa only [World.Fresh, waiters] using fresh
    · rw [waiters]
      exact reacts
  watch S s iface k h waits :=
    ((broker h₀).watch S s iface k h waits).both (World.SameRecords.stays_watch s iface k).queued
  record S dest path method args route h holds calls :=
    ⟨(broker h₀).record S dest path method args route h holds.1 calls,
      holds.2.record dest path method args route⟩
  inline S dest path method args route h holds calls :=
    (broker h₀).inline S dest path method args route h holds.1 calls
  replied S route h either := (broker h₀).replied S route h either
  transmit S i dest path method args := ((broker h₀).transmit S i dest path method args).both
    (World.SameRecords.stays_transmit i dest path method args).queued
  answer S i h holds inside unanswered replies :=
    ⟨(broker h₀).answer S i h holds.1 inside unanswered replies,
      holds.2.answer inside unanswered fun f routed j within routed' =>
        (holds.1.books.requests i inside f routed).2.1 j within routed'⟩
  naming S h replies := (broker h₀).naming S h replies
  listing S h replies := (broker h₀).listing S h replies
  signalled S either := (broker h₀).signalled S either
  avatar S a p := ((broker h₀).avatar S a p).both
    (World.SameRecords.stays_modifyAccount a fun x => { x with avatar := x.avatar.apply p }).queued
  avatarCall S a h holds listens := (broker h₀).avatarCall S a h holds.1 listens
  skipDisposed S f h holds disposed := ⟨(broker h₀).skipDisposed S f h holds.1 disposed, holds.2.pop⟩
  absorb S f fs result := ((broker h₀).absorb S f fs result).both_given
    (World.SameRecords.stays_absorbResult fs result).queued
  startFiring S f := by
    intro h u h' holds run
    refine ⟨(broker h₀).startFiring S f holds.1 run, ?_⟩
    -- the fetch fanning out had its request answered
    have answered : h.Answered f := (holds.1.fanning.fanned f (List.mem_cons_self ..)).2
    simp only [run_modifyFetch, EStateM.Result.ok.injEq] at run
    rw [← run.2]
    exact holds.2.startFiring answered
  advance S f i w h holds listed :=
    ⟨⟨((broker h₀).advance S f i w h holds.1 listed).1, holds.2.advance (i + 1)⟩,
      ((broker h₀).advance S f i w h holds.1 listed).2⟩
  settle S f j err := by
    intro h u h' pre run
    exact ⟨(broker h₀).settle S f j err ⟨pre.1.1, pre.2⟩ run,
      settleFetch_queued f j err ⟨pre.1.2, pre.1.1.unfanned⟩ run⟩
  ownerChanged S c name new sights := ((broker h₀).ownerChanged S c name new sights).both_given
    (clientOwnerChanged_queued c name new)
  accountChange S a body := ((broker h₀).accountChange S a body).both_given
    (World.SameRecords.stays_applyAccountChange a body).queued
  unsubscribe S label drops h holds listens id :=
    ((broker h₀).unsubscribe S label drops h holds.1 listens id).both
      (World.SameRecords.stays_unsubscribe id).queued
  openRegistry S r sights := (((broker h₀).openRegistry S r sights).both_given
      World.SameRecords.stays_openRegistry.queued).mono
    (fun _ pre => pre) fun _ _ kept => ⟨⟨kept.1.1, kept.2⟩, kept.1.2⟩
  listCall S h sights holds := (broker h₀).listCall S h sights holds.1
  abandonNaming S h holds closed := ⟨(broker h₀).abandonNaming S h holds.1 closed, holds.2.pop⟩
  abandonListing S h holds closed := ⟨(broker h₀).abandonListing S h holds.1 closed, holds.2.pop⟩
  release S := by
    intro h u h' holds run
    exact ⟨(broker h₀).release S holds.1 run,
      (World.SameRecords.stays_releaseStartupLock.queued holds.2 run).pop⟩
  sighted S h r sights holds hears present opened :=
    ⟨(broker h₀).sighted S h r sights holds.1 hears present opened,
      holds.2.push (fun _ same => by cases same) fun _ _ same => by cases same⟩
  registered S h holds := ⟨(broker h₀).registered S h holds.1, holds.2.pop⟩
  markActivatable S c := ((broker h₀).markActivatable S c).both
    (World.SameRecords.stays_modifyProxy c fun p => { p with activatable := true }).queued
  markActive S c u := ((broker h₀).markActive S c u).both
    (World.SameRecords.stays_modifyProxy c fun p => p.setActive u).queued
  enroll S r name u act := by
    intro h c h' pre run
    refine ⟨(broker h₀).enroll S r name u act ⟨pre.1.1, pre.2⟩ run, ?_⟩
    exact ((World.SameRecords.stays_enroll r name u act).queued pre.1.2 run).push
      (fun _ same => by cases same) fun _ _ same => by cases same
  openClient S c name := by
    intro h u h' pre run
    exact ⟨(broker h₀).openClient S c name ⟨pre.1.1, pre.2⟩ run,
      ((World.SameRecords.stays_openClient c name).queued pre.1.2 run).pop⟩
  plain S step either := ((broker h₀).plain S step either).both (performPlain_queued step)

/-- The books and the waiter lists, kept relative to an earlier world, are kept relative to the
world itself: it remembers the outcomes it determined, and its fetches firing spread from
themselves. -/
theorem queues_anchored {h₀ h : World} {S : List Frame} (holds : (queues h₀).Holds S h) :
    (queues h).Holds S h :=
  ⟨{ holds.1 with remembers := World.Remembers.refl h },
    { holds.2 with spread := holds.2.fires.spread, recorded := World.Recorded.refl h }⟩

/-! ## Sessions -/

/-- A world without waiters or fetches keeps its waiter lists, with nothing under way. -/
theorem World.queued_of_empty {h : World} (waiters : h.waiters = #[]) (fetches : h.fetches = #[]) :
    World.Queued h [] h := by
  have fetch : ∀ f, h.fetches.getD f default = default := fun f => by simp [fetches]
  have waiter : ∀ w, h.waiters.getD w default = default := fun w => by simp [waiters]
  have fires : h.Fires := fun f firing => by
    rw [fetch] at firing
    cases firing
  refine ⟨⟨fun f w member => ?_, fun f _ _ w member => ?_, fun f w member => ?_, fun f => ?_,
    fun w finished => ?_⟩, fun w firing => absurd firing List.not_mem_nil, fires, fires.spread,
    World.Recorded.refl h⟩
  · rw [fetch] at member
    exact absurd member (Array.not_mem_empty w)
  · rw [fetch] at member
    exact absurd member (Array.not_mem_empty w)
  · rw [fetch] at member
    exact absurd member (Array.not_mem_empty w)
  · rw [fetch]
    exact List.nodup_nil
  · rw [waiter] at finished
    cases finished

/-- Every initial world keeps its waiter lists. -/
theorem initial_queued {kind : String} {j : Json} {h : World} (start : initial kind j = .ok h) :
    World.Queued h [] h := by
  unfold initial at start
  split at start
  · cases start
    exact World.queued_of_empty rfl rfl
  · split at start
    · simp only [bind, Except.bind] at start
      split at start
      · cases start
      · split at start
        · cases start
        · cases start
          exact World.queued_of_empty rfl rfl
    · cases start
      exact World.queued_of_empty rfl rfl

/-- Every world a session reaches from one with balanced books and waiter lists has both.

Proof: by induction on the steps taken. Each step starts with the notes cleared, which changes
neither, and keeps both (`Invariant.kept` for `queues`, anchored at the world the step starts
from); the outcomes determined there are remembered by the world the step starts from, and the
fetches firing there are those it fires. -/
theorem Reaches.queued {h h' : World} (reached : Reaches h h') (balanced : World.Balanced h [] h)
    (queued : World.Queued h [] h) : World.Balanced h' [] h' ∧ World.Queued h' [] h' := by
  induction reached with
  | refl h => exact ⟨balanced, queued⟩
  | step ran rest ih =>
    rename_i start h₁ h₂ j r
    have cleared : (queues start).Holds [] { start with notes := #[] } :=
      ⟨(World.Alike.of_same rfl rfl rfl rfl rfl rfl rfl rfl rfl rfl :
          start.Alike { start with notes := #[] }).balanced balanced, queued.of_same ⟨rfl, rfl, rfl⟩⟩
    have kept := ((queues start).kept stepBudget).runStep [] 0 j (.inl trivial) cleared ran
    exact ih (queues_anchored kept).1 (queues_anchored kept).2

/-! ## The fan-out of a fetch -/

/-- How the fan-out of fetch `f`, for object `s` with outcome `err`, meets waiter `w` when its
turn comes, from world `h` to world `h'`. -/
inductive Turn (f : Nat) (s : Subject) (err : Option String) (w : Nat) : World → World → Prop
  /-- A waiter cancelled by the time its turn comes is passed over. -/
  | cancelled {h : World} : (h.waiters.getD w default).cancelled = true → Turn f s err w h h
  /-- A waiter finished because the object was disposed of meanwhile has been released, and is
  passed over. -/
  | released {h : World} : (h.waiters.getD w default).cancelled = false →
      (h.waiters.getD w default).done = true → (h.waiters.getD w default).released = true →
      (h.fetches.getD f default).disposed = true → Turn f s err w h h
  /-- Any other waiter fires: its reaction runs, for the object and with the outcome. -/
  | fired {h h' : World} (k : Nat) : (h.waiters.getD w default).cancelled = false →
      (h.waiters.getD w default).done = false → (h.waiters.getD w default).reaction.isSome = true →
      (fire k w s err).run h = .ok () h' → Turn f s err w h h'

/-- The fan-out of fetch `f`, for object `s` with outcome `err`, meeting the waiters of `ws` one
after another, from world `h` to world `h'`. -/
inductive Serves (f : Nat) (s : Subject) (err : Option String) : List Nat → World → World → Prop
  /-- No waiter left. -/
  | nil (h : World) : Serves f s err [] h h
  /-- The first waiter has its turn, then the others theirs. -/
  | cons {w : Nat} {ws : List Nat} {h h₁ h' : World} :
      Turn f s err w h h₁ → Serves f s err ws h₁ h' → Serves f s err (w :: ws) h h'

/-- A waiter cancelled or finished does not fire: the world is left as it was. -/
theorem fire_passed {k w : Nat} {s : Subject} {err : Option String} {h h' : World} {u : Unit}
    (passed : ((h.waiters.getD w default).cancelled || (h.waiters.getD w default).done) = true)
    (run : (fire k w s err).run h = .ok u h') : h' = h := by
  cases k with
  | zero => simp [fire] at run
  | succ k =>
    simp only [fire, bind_ok, run_waiter, EStateM.Result.ok.injEq, exists_returned] at run
    rw [if_pos passed] at run
    exact ok_pure run

/-- A waiter listed by a fetch, when its turn comes, is cancelled, or finished and released with
the fetch disposed of, or fires with its reaction. -/
theorem Turn.of_listed {f k w : Nat} {s : Subject} {err : Option String} {h h' : World}
    (listed : h.Listed []) (member : w ∈ (h.fetches.getD f default).waiters)
    (run : (fire k w s err).run h = .ok () h') : Turn f s err w h h' := by
  cases cancelled : (h.waiters.getD w default).cancelled
  · cases done : (h.waiters.getD w default).done
    · exact .fired k cancelled done (listed.reacts f w member) run
    · -- only a fetch disposed of lists a finished waiter that is not cancelled
      have disposed : (h.fetches.getD f default).disposed = true := by
        cases live : (h.fetches.getD f default).disposed
        · rw [listed.pends f (by simp) live w member cancelled] at done
          cases done
        · rfl
      rw [fire_passed (by rw [done, Bool.or_true]) run]
      exact .released cancelled done (listed.released w done) disposed
  · rw [fire_passed (by rw [cancelled, Bool.true_or]) run]
    exact .cancelled cancelled

/-- A list that begins with another has, from a position of the other on, the entry there
followed by the rest. -/
theorem drop_eq_cons_of_grown {l l' : List Nat} {i w : Nat} (grown : l <+: l') (found : l[i]? = some w) :
    l'.drop i = w :: l'.drop (i + 1) := by
  obtain ⟨inside, read⟩ := List.getElem?_eq_some_iff.mp found
  rw [List.drop_eq_getElem_cons (Nat.lt_of_lt_of_le inside grown.length_le), ← grown.getElem inside, read]

/-- The fan-out of a firing fetch from position `i` meets, in order, every waiter from position
`i` on of the list the fetch ends with, which begins with the list it had.

Proof: by induction on the step budget. At a position the list has, the waiter there fires
(`Kept.fire`) and the fan-out goes on from the next position. The waiter lists, anchored at the
world before the waiter fires, say that the fetch, fanning out below the waiter, still fires
afterwards with its list grown at its end only (`World.Spread`); so the waiter stays at its
position of the final list, and its turn is one of those `Turn.of_listed` describes. Past the
end of the list the fan-out stops. -/
theorem fanOut_serves (h₀ : World) (S : List Frame) (s : Subject) (err : Option String) :
    ∀ n f i h h', World.Balanced h₀ (.fanOut f i :: S) h → World.Queued h₀ (.fanOut f i :: S) h →
      (h.fetches.getD f default).firing = true → (fanOut n f i s err).run h = .ok () h' →
      (h.fetches.getD f default).waiters.toList <+: (h'.fetches.getD f default).waiters.toList ∧
        Serves f s err ((h'.fetches.getD f default).waiters.toList.drop i) h h' := by
  intro n
  induction n with
  | zero =>
    intro f i h h' _ _ _ run
    simp [fanOut] at run
  | succ n ih =>
    intro f i h h' balanced queued firing run
    simp only [fanOut, bind_ok, run_fetch, EStateM.Result.ok.injEq, exists_returned] at run
    split at run
    · rename_i w found
      obtain ⟨⟨⟩, h₁, fired, rest⟩ := bind_ok.mp run
      have member : w ∈ (h.fetches.getD f default).waiters := Array.mem_of_getElem? found
      -- the invariant after the waiter fires, anchored where the fan-out began and where it is
      have holds := ((queues h₀).kept n).fire (.fanOut f (i + 1) :: S) w s err
        ⟨⟨balanced.advance (i + 1), queued.advance (i + 1)⟩, trivial⟩ fired
      have anchored := ((queues h).kept n).fire (.fanOut f (i + 1) :: S) w s err
        ⟨queues_anchored ⟨balanced.advance (i + 1), queued.advance (i + 1)⟩, trivial⟩ fired
      obtain ⟨-, ⟨firing₁, grown⟩ | ⟨-, ended⟩⟩ := anchored.2.spread f firing
      · obtain ⟨grown', served⟩ := ih f (i + 1) h₁ h' holds.1 holds.2 firing₁ rest
        refine ⟨grown.trans grown', ?_⟩
        rw [drop_eq_cons_of_grown (grown.trans grown') (by rw [Array.getElem?_toList]; exact found)]
        exact .cons (Turn.of_listed queued.listed member fired) served
      · exact absurd (List.mem_cons_self ..) (ended (i + 1))
    · rename_i missing
      rw [ok_pure run]
      refine ⟨List.prefix_refl _, ?_⟩
      rw [List.drop_eq_nil_of_le]
      · exact .nil h
      · rw [Array.length_toList]
        exact Array.getElem?_eq_none_iff.mp missing

/-! ## Settling a fetch -/

/-- Every entry for an interface, replaced by one with a new outcome. -/
theorem lookup_replaced (l : List (String × Option String)) (name : String) (err : Option String)
    (present : l.any (·.1 == name) = true) :
    (l.map fun e => if e.1 = name then (name, err) else e).lookup name = some err := by
  induction l with
  | nil => cases present
  | cons e rest ih =>
    by_cases same : e.1 = name
    · simp [same]
    · have later : rest.any (·.1 == name) = true := by simpa [same] using present
      have other : (name == e.1) = false := by simp [Ne.symm same]
      simp [same, List.lookup, other, ih later]

/-- An interface determined takes the outcome it is determined with, whether or not it was
determined before. -/
theorem fetchError?_markReady_self (st : Status) (name : String) (err : Option String) :
    (st.markReady name err).fetchError? name = err := by
  cases ready : st.isReady name
  · have unfound : st.ready.lookup name = none := by
      rw [List.lookup_eq_none_iff]
      intro p listed
      rw [bne_iff_ne]
      intro named
      have found : st.isReady name = true := List.any_eq_true.mpr ⟨p, listed, by simp [named]⟩
      rw [ready] at found
      cases found
    simp [Status.fetchError?, markReady_ready ready, List.lookup_append, unfound]
  · simp [Status.fetchError?, Status.markReady, ready, lookup_replaced st.ready name err ready]

/-- Finishing, one after another, the waiters of a list of waiters of the world that pass a
test, when only cancelled or finished waiters fail it, leaves every one of them cancelled or
finished and the statuses as they were. -/
theorem finishEach_settles {h h' : World} {u : PUnit} (ws : Array Nat) (p : Waiter → Bool)
    (skips : ∀ wt, p wt = false → wt.cancelled = true ∨ wt.done = true)
    (inside : ∀ w ∈ ws, w < h.waiters.size)
    (run : (ForIn.forIn ws ⟨⟩ fun w _ => do
      let wt ← Hub.waiter w
      if p wt then Hub.finish w
      Pure.pure (ForInStep.yield ⟨⟩) : HubM PUnit).run h = .ok u h') :
    h.Steady h' ∧ ∀ w ∈ ws, (h'.waiters.getD w default).cancelled = true ∨
      (h'.waiters.getD w default).done = true := by
  rw [← Array.forIn_toList] at run
  -- the waiters walked are settled, and the waiters and statuses stay as they were otherwise
  have walked := Triple.forIn_along (fun walked h₁ => h.Steady h₁ ∧ h₁.waiters.size = h.waiters.size ∧
      ∀ w ∈ walked, (h₁.waiters.getD w default).cancelled = true ∨ (h₁.waiters.getD w default).done = true)
    _ [] ws.toList (fun before w after split => ?_)
    ⟨(World.Alike.refl h).toSteady, rfl, fun _ member => absurd member List.not_mem_nil⟩ run
  · exact ⟨walked.1, fun w member => walked.2.2 w (by simpa using member)⟩
  intro h₁ step h₂ ⟨steady, sized, settled⟩ pass
  have member : w ∈ ws := Array.mem_toList_iff.mp (by simp [split])
  obtain ⟨wt, h₃, read, pass⟩ := bind_ok.mp pass
  simp only [run_waiter, EStateM.Result.ok.injEq] at read
  obtain ⟨rfl, rfl⟩ := read
  dsimp only at pass
  split at pass
  · obtain ⟨⟨⟩, h₄, finished, returned⟩ := bind_ok.mp pass
    simp only [run_pure, EStateM.Result.ok.injEq] at returned
    obtain ⟨rfl, rfl⟩ := returned
    obtain ⟨-, -, size, finished'⟩ := finish_run finished
    refine ⟨rfl, steady.trans (finish_detaches finished).1.toSteady, size.trans sized, fun v walked => ?_⟩
    rw [finished' v]
    rcases List.mem_append.mp walked with old | new
    · split
      · exact .inr rfl
      · exact settled v old
    · rw [List.mem_singleton] at new
      subst new
      rw [if_pos ⟨rfl, sized ▸ inside v member⟩]
      exact .inr rfl
  · rename_i failed
    simp only [run_pure, EStateM.Result.ok.injEq] at pass
    obtain ⟨rfl, rfl⟩ := pass
    refine ⟨rfl, steady, sized, fun v walked => ?_⟩
    rcases List.mem_append.mp walked with old | new
    · exact settled v old
    · rw [List.mem_singleton] at new
      subst new
      exact skips _ (by simpa using failed)

/-- Settling a fetch of an object the world has: disposed of, it changes no status; otherwise
its interface is determined with the outcome and every waiter it lists is left cancelled or
finished. -/
theorem settleFetch_run {f : Nat} {err : Option String} {h h' : World} {u : Unit}
    (inside : ∀ w ∈ (h.fetches.getD f default).waiters, w < h.waiters.size)
    (run : (settleFetch f err).run h = .ok u h') :
    ((h.fetches.getD f default).disposed = true → ∀ s, h'.status s = h.status s) ∧
    ((h.fetches.getD f default).disposed = false → h.Has (h.fetches.getD f default).subject →
      h'.status (h.fetches.getD f default).subject =
          (h.status (h.fetches.getD f default).subject).markReady
            (h.fetches.getD f default).descriptor.name err ∧
        ∀ w ∈ (h.fetches.getD f default).waiters,
          (h'.waiters.getD w default).cancelled = true ∨ (h'.waiters.getD w default).done = true) := by
  simp only [settleFetch, bind_ok, run_fetch, EStateM.Result.ok.injEq, exists_returned] at run
  obtain ⟨⟨⟩, h₁, stopped, run⟩ := run
  simp only [run_modifyFetch, EStateM.Result.ok.injEq] at stopped
  obtain ⟨-, rfl⟩ := stopped
  -- the fetch read back is the one before, but for firing
  have kept : ∀ {β : Type} (field : Fetch → β), (∀ x : Fetch, field { x with firing := false } = field x) →
      field ((h.fetches.modify f fun x => { x with firing := false }).getD f default) =
        field (h.fetches.getD f default) :=
    fun field keeps => getD_modify_of_keeps _ _ _ _ field keeps
  have disposed' := kept Fetch.disposed fun _ => rfl
  split at run
  · rename_i disposed
    rw [ok_pure run]
    refine ⟨fun _ s => rfl, fun live _ => ?_⟩
    rw [disposed', live] at disposed
    cases disposed
  · rename_i live
    rw [disposed'] at live
    refine ⟨fun disposed => absurd disposed live, fun _ has => ?_⟩
    obtain ⟨⟨⟩, h₃, readied, run⟩ := bind_ok.mp run
    simp only [run_modify, EStateM.Result.ok.injEq] at readied
    obtain ⟨-, rfl⟩ := readied
    obtain ⟨⟨⟩, h₄, finished, cleared⟩ := bind_ok.mp run
    simp only [run_modifyFetch, EStateM.Result.ok.injEq] at cleared
    obtain ⟨-, rfl⟩ := cleared
    rw [kept Fetch.subject fun _ => rfl, kept Fetch.descriptor fun _ => rfl] at finished
    rw [kept Fetch.waiters fun _ => rfl] at finished
    obtain ⟨steady, settled⟩ := finishEach_settles _ (fun wt => !wt.cancelled && !wt.done)
      (fun wt stopped => by
        cases cancelled : wt.cancelled
        · exact .inr (by simpa [cancelled] using stopped)
        · exact .inl rfl)
      (fun w member => by rw [World.setStatus_waiters]; exact inside w member) finished
    refine ⟨?_, settled⟩
    show h₄.status _ = _
    rw [steady.status]
    exact World.status_setStatus_self _ has

/-! ## Waits on a determined interface -/

/-- A sequence whose first part returns goes on from what it returned. -/
theorem run_bind_of_ok {α β : Type} {x : HubM α} {f : α → HubM β} {h h₁ : World} {a : α}
    (first : x.run h = .ok a h₁) : (x >>= f).run h = (f a).run h₁ := by
  simp only [bind, EStateM.bind, EStateM.run] at first ⊢
  rw [first]

/-- Sequences whose first parts run alike run alike. -/
theorem run_bind_congr {α β : Type} {x y : HubM α} {g : α → HubM β} {h : World}
    (same : x.run h = y.run h) : (x >>= g).run h = (y >>= g).run h := by
  simp only [bind, EStateM.bind, EStateM.run] at same ⊢
  rw [same]

/-- A descriptor found for an interface has the interface's name. -/
theorem name_of_lookup? {t : DescriptorTable} {type iface : String} {d : Descriptor}
    (found : t.lookup? type iface = some d) : d.name = iface := by
  unfold DescriptorTable.lookup? at found
  obtain ⟨e, -, found⟩ := Option.bind_eq_some_iff.mp found
  simpa using List.find?_some found

/-- A wait, with an open owner, on an interface already determined fires the waiter with the
object's invalidation, finishes it and starts no fetch. -/
theorem ensureFetch_determined {k w : Nat} {s : Subject} {d : Descriptor} {h : World}
    (ready : (h.status s).isReady d.name = true)
    (opened : (h.waiters.getD w default).owner.any (fun o => (h.owners.getD o default).closed) = false) :
    (ensureFetch (k + 1) s d w).run h =
      (do fire k w s (h.invalidated s); finish w; pure false : HubM Bool).run h := by
  simp only [ensureFetch]
  rw [run_bind_of_ok (run_waiter w h), run_bind_of_ok (run_ownerClosed _ h)]
  rw [opened, if_neg Bool.false_ne_true, run_bind_of_ok (run_get h)]
  cases invalid : h.invalidated s with
  | some e => rfl
  | none =>
    rw [run_bind_of_ok (run_get h), if_pos ready, run_bind_of_ok (run_get h), invalid]

/-- `ensureFetch_determined` for a wait on an interface found among the descriptors. -/
theorem ensureReady_determined {k w : Nat} {s : Subject} {type iface : String} {d : Descriptor}
    {h : World} (found : h.descriptors.lookup? type iface = some d)
    (ready : (h.status s).isReady iface = true)
    (reacts : (h.waiters.getD w default).reaction.isSome = true)
    (opened : (h.waiters.getD w default).owner.any (fun o => (h.owners.getD o default).closed) = false) :
    (ensureReady (k + 2) s type iface (some w)).run h =
      (do fire k w s (h.invalidated s); finish w; pure false : HubM Bool).run h := by
  have named : d.name = iface := name_of_lookup? found
  simp only [ensureReady]
  have present : (h.waiters.getD w default).reaction.isNone = false := by
    cases r : (h.waiters.getD w default).reaction with
    | none =>
      rw [r] at reacts
      cases reacts
    | some _ => rfl
  rw [run_bind_of_ok (run_waiter w h), present, if_neg Bool.false_ne_true, run_bind_of_ok (run_get h),
    found]
  dsimp only
  rw [run_bind_congr (ensureFetch_determined (named ▸ ready) opened)]
  simp only [bind_assoc, pure_bind, Bool.false_eq_true, if_false]

/-! ## Completing a fetch -/

/-- The outcome a fetch completes with: no error when it returned properties. -/
def fetchOutcome : Except String (Option Properties) → Option String
  | .ok _ => none
  | .error e => some e

/-- What absorbing the result of fetch `fs` does to world `h`, leaving `h'`: properties are built
into the object's state by the interface's descriptor; a failure is only noted. -/
def Absorbed (fs : Fetch) : Except String (Option Properties) → World → World → Prop
  | .ok props, h, h' => (build fs.subject fs.descriptor props).run h = .ok () h'
  | .error _, h, h' => ∃ n, h' = { h with notes := h.notes.push n }

/-- Absorbing a result does what `Absorbed` says. -/
theorem absorbResult_absorbed {fs : Fetch} {result : Except String (Option Properties)}
    {h h' : World} {u : Unit} (run : (absorbResult fs result).run h = .ok u h') :
    Absorbed fs result h h' := by
  cases result with
  | ok props => exact run
  | error e =>
    simp only [absorbResult, bind_ok, run_get, run_note, EStateM.Result.ok.injEq,
      exists_returned] at run
    exact ⟨_, run.2.symm⟩

/-- What a fetch of interface `iface` of `s`, settled with outcome `err`, leaves determined in
world `h`, for the waiters `ws` it listed. -/
structure Determined (s : Subject) (iface : String) (err : Option String) (ws : List Nat)
    (h : World) : Prop where
  /-- The interface is determined, with the outcome of the fetch, -/
  ready : (h.status s).isReady iface = true
  outcome : (h.status s).fetchError? iface = err
  /-- and no longer in progress. -/
  idle : (h.status s).isFetching iface = false
  /-- Every waiter of the fetch is cancelled or finished, so that none fires again. -/
  finished : ∀ w ∈ ws,
    (h.waiters.getD w default).cancelled = true ∨ (h.waiters.getD w default).done = true
  /-- From then on, in every world that keeps the outcomes determined in `h`, a wait for the
  interface with a waiter whose owner is open fires the waiter at once with the object's
  invalidation, not with the outcome, finishes it, starts no fetch and returns false. -/
  later : ∀ (h' : World) (k w : Nat) (type : String) (d : Descriptor), h'.Remembers h →
    h'.descriptors.lookup? type iface = some d → (h'.waiters.getD w default).reaction.isSome = true →
    (h'.waiters.getD w default).owner.any (fun o => (h'.owners.getD o default).closed) = false →
    (ensureReady (k + 2) s type iface (some w)).run h' =
      (do fire k w s (h'.invalidated s); finish w; pure false : HubM Bool).run h'

/-- An interface determined with an outcome, with every waiter of a list cancelled or finished,
is left as `Determined` says. -/
theorem Determined.of_markReady {s : Subject} {iface : String} {err : Option String} {ws : List Nat}
    {h : World} {st : Status} (status : h.status s = st.markReady iface err)
    (finished : ∀ w ∈ ws,
      (h.waiters.getD w default).cancelled = true ∨ (h.waiters.getD w default).done = true) :
    Determined s iface err ws h := by
  have ready : (h.status s).isReady iface = true := by
    rw [status]
    exact isReady_markReady_self _ _ _
  refine ⟨ready, ?_, ?_, finished, fun h' k w type d remembers found reacts opened => ?_⟩
  · rw [status]
    exact fetchError?_markReady_self _ _ _
  · rw [status]
    simp [Status.isFetching, fetching?_markReady]
  · exact ensureReady_determined found (remembers _ _ ready).1 reacts opened

/-- What the reply to the request of fetch `f`, with `result`, does from world `h` to world `h'`. -/
inductive Completes (f : Nat) (result : Except String (Option Properties)) : World → World → Prop
  /-- The reply to a fetch disposed of changes nothing. -/
  | ignored {h : World} : (h.fetches.getD f default).disposed = true → Completes f result h h
  /-- Otherwise the result is absorbed first. Then the fetch fires: each waiter of the list `ws`
  it ends with, which begins with the waiters it listed when the reply came, has its turn, once
  and in order. Then the fetch settles: disposed of meanwhile, it changes no status; otherwise
  its interface is determined. -/
  | served {h h₁ h₂ h' : World} (ws : List Nat) :
      (h.fetches.getD f default).disposed = false →
      Absorbed (h.fetches.getD f default) result h h₁ →
      (h.fetches.getD f default).waiters.toList <+: ws → ws.Nodup →
      Serves f (h.fetches.getD f default).subject (fetchOutcome result) ws
        { h₁ with fetches := h₁.fetches.modify f fun x => { x with firing := true } } h₂ →
      (h₂.fetches.getD f default).waiters.toList = ws →
      (settleFetch f (fetchOutcome result)).run h₂ = .ok () h' →
      ((h₂.fetches.getD f default).disposed = true → ∀ s, h'.status s = h₂.status s) →
      ((h₂.fetches.getD f default).disposed = false →
        Determined (h.fetches.getD f default).subject (h.fetches.getD f default).descriptor.name
          (fetchOutcome result) ws h') →
      Completes f result h h'

/-- The reply to the request of a fetch, from a world where the books and the waiter lists are
kept and the fetch is about to fan out, does what `Completes` says. -/
theorem complete_serves_waiters {h₀ h h' : World} {S : List Frame} {n f : Nat}
    {result : Except String (Option Properties)}
    (balanced : World.Balanced h₀ (.fanOut f 0 :: S) h) (queued : World.Queued h₀ (.fanOut f 0 :: S) h)
    (run : (complete (n + 1) f result).run h = .ok () h') : Completes f result h h' := by
  unfold complete at run
  simp only [bind_ok, run_fetch, EStateM.Result.ok.injEq, exists_returned] at run
  split at run
  · rename_i disposed
    rw [ok_pure run]
    exact .ignored disposed
  rename_i live
  rw [Bool.not_eq_true] at live
  simp only [bind_ok] at run
  obtain ⟨⟨⟩, h₁, absorbed, ⟨⟩, h₁', started, ⟨⟩, h₂, fanned, settled⟩ := run
  simp only [run_modifyFetch, EStateM.Result.ok.injEq] at started
  obtain ⟨-, rfl⟩ := started
  -- the outcome the fan-out and the settling are given is the outcome of the fetch
  replace fanned : (fanOut n f 0 (h.fetches.getD f default).subject (fetchOutcome result)).run
      { h₁ with fetches := h₁.fetches.modify f fun x => { x with firing := true } } = .ok () h₂ := by
    cases result <;> exact fanned
  replace settled : (settleFetch f (fetchOutcome result)).run h₂ = .ok () h' := by
    cases result <;> exact settled
  -- the invariant through absorbing the result and starting to fire
  have same := World.SameRecords.stays_absorbResult _ result h () h₁ absorbed
  have holds₁ := (queues h₀).absorb S f _ result ⟨⟨balanced, queued⟩, rfl, live⟩ absorbed
  have holds₂ := (queues h₀).startFiring S f holds₁ (run_modifyFetch f _ h₁)
  have inside : f < h₁.fetches.size := by
    rw [same.fetches]
    exact balanced.books.statuses.lt_of_holding (balanced.holding_fanned live)
  have firing : ((h₁.fetches.modify f fun x => { x with firing := true }).getD f default).firing = true := by
    rw [World.firing_modify, if_pos ⟨rfl, inside⟩]
  -- the fan-out, and the invariant where it ends, anchored where the reply came and where it began
  obtain ⟨grown, served⟩ := fanOut_serves h₀ S _ _ n f 0 _ h₂ holds₂.1 holds₂.2 firing fanned
  obtain ⟨j, ⟨balanced₂, queued₂⟩, -⟩ := ((queues h₀).kept n).fanOut S f 0 _ _ holds₂ fanned
  obtain ⟨j', ⟨-, anchored⟩, -⟩ := ((queues _).kept n).fanOut S f 0 _ _ (queues_anchored holds₂) fanned
  -- the fetch keeps its object, interface and list up to where it fires
  have kept : ∀ {β : Type} (field : Fetch → β), (∀ x : Fetch, field { x with firing := true } = field x) →
      field ((h₁.fetches.modify f fun x => { x with firing := true }).getD f default) =
        field (h.fetches.getD f default) := fun field keeps => by
    rw [getD_modify_of_keeps _ _ _ _ field keeps, same.fetches]
  have inside₁ : f < (h₁.fetches.modify f fun x => { x with firing := true }).size := by
    rw [Array.size_modify]
    exact inside
  have subject : (h₂.fetches.getD f default).subject = (h.fetches.getD f default).subject :=
    (anchored.recorded.subject f inside₁).trans (kept Fetch.subject fun _ => rfl)
  have descriptor : (h₂.fetches.getD f default).descriptor = (h.fetches.getD f default).descriptor :=
    (anchored.recorded.descriptor f inside₁).trans (kept Fetch.descriptor fun _ => rfl)
  rw [kept Fetch.waiters fun _ => rfl] at grown
  rw [List.drop_zero] at served
  obtain ⟨untouched, settles⟩ := settleFetch_run (fun w member => queued₂.listed.lt member) settled
  refine .served _ live (absorbResult_absorbed absorbed) grown (queued₂.listed.nodup f) served rfl
    settled untouched fun live₂ => ?_
  -- the fetch, not disposed of, is in progress until it settles
  obtain ⟨status, finished⟩ := settles live₂ (balanced₂.holding_fanned live₂).has
  rw [subject, descriptor] at status
  exact .of_markReady status fun w member => finished w (Array.mem_toList_iff.mp member)

/-- The fetch a request is for, if it is for one. -/
def Route.fetched? : Route → Option Nat
  | .fetch f => some f
  | _ => none

theorem Route.eq_of_fetched? {route : Route} {f : Nat} (found : route.fetched? = some f) :
    route = .fetch f := by
  cases route with
  | fetch g =>
    cases found
    rfl
  | _ => cases found

/-- A broker session's first steps: an interface, an object, and a wait for the interface of the
object, whose property fetch is then pending. -/
def pendingFetchSetup : List Json :=
  [.obj [("do", .str "add_descriptor"), ("name", .str "A"), ("type", .str "w")],
    .obj [("do", .str "object"), ("id", .str "o1"), ("bus_name", .str "org.example.W1"),
      ("path", .str "/org/example/W1")],
    .obj [("do", .str "ensure"), ("obj", .str "o1"), ("type", .str "w"), ("iface", .str "A"),
      ("w", .str "w1")]]

/-- A session that waits for an interface of an object leaves its fetch pending, and a timeout
in reply to the fetch's request completes it. -/
theorem pending_fetch_completes :
    ∃ h h', Reaches {} h ∧
      World.Balanced h [.fanOut 0 0] { h with bus := h.bus.markAnswered 0 } ∧
      World.Queued h [.fanOut 0 0] { h with bus := h.bus.markAnswered 0 } ∧
      (complete stepBudget 0 (.error "timeout")).run { h with bus := h.bus.markAnswered 0 } = .ok () h' ∧
      Completes 0 (.error "timeout") { h with bus := h.bus.markAnswered 0 } h' := by
  have checked : ((runStep stepBudget 0 (pendingFetchSetup.getD 0 .null) >>= fun _ => get).run'
      { ({} : World) with notes := #[] }).any (fun h₁ =>
    ((runStep stepBudget 0 (pendingFetchSetup.getD 1 .null) >>= fun _ => get).run'
      { h₁ with notes := #[] }).any fun h₂ =>
    ((runStep stepBudget 0 (pendingFetchSetup.getD 2 .null) >>= fun _ => get).run'
      { h₂ with notes := #[] }).any fun h₃ =>
    decide (0 < h₃.bus.calls.size) && !(h₃.bus.calls.getD 0 default).answered &&
      (h₃.bus.calls.getD 0 default).route.fetched? == some 0 &&
      ((complete stepBudget 0 (.error "timeout") >>= fun _ => get).run'
        { h₃ with bus := h₃.bus.markAnswered 0 }).isSome) = true := by
    decide +kernel
  obtain ⟨h₁, final₁, rest⟩ := (Option.any_eq_true _ _).mp checked
  obtain ⟨h₂, final₂, rest⟩ := (Option.any_eq_true _ _).mp rest
  obtain ⟨h₃, final₃, facts⟩ := (Option.any_eq_true _ _).mp rest
  simp only [Bool.and_eq_true, decide_eq_true_eq, Bool.not_eq_true', beq_iff_eq] at facts
  obtain ⟨⟨⟨inside, unanswered⟩, routed⟩, completed⟩ := facts
  obtain ⟨h₄, final₄⟩ := Option.isSome_iff_exists.mp completed
  obtain ⟨_, run₁⟩ := run_ok_of_final final₁
  obtain ⟨_, run₂⟩ := run_ok_of_final final₂
  obtain ⟨_, run₃⟩ := run_ok_of_final final₃
  obtain ⟨⟨⟩, run₄⟩ := run_ok_of_final final₄
  have reached : Reaches {} h₃ := .step run₁ (.step run₂ (.step run₃ (.refl h₃)))
  obtain ⟨balanced, queued⟩ := reached.queued (World.balanced_of_empty rfl rfl rfl rfl rfl rfl rfl rfl rfl rfl)
    (World.queued_of_empty rfl rfl)
  have holds := (queues h₃).answer [] 0 h₃ ⟨balanced, queued⟩ inside unanswered trivial
  rw [Route.eq_of_fetched? routed] at holds
  exact ⟨h₃, h₄, reached, holds.1, holds.2, run₄, complete_serves_waiters holds.1 holds.2 run₄⟩

end MissionControl.Hub
