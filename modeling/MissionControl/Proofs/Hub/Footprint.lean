import MissionControl.Proofs.Hub.Invariant

/-!
# What the readiness broker leaves alone

A statement about the hub reads part of the world: the registry and its clients, the
subscriptions on the bus, the requests. Most of the hub's work changes only what the readiness
broker keeps for itself: waiters, owners, fetches and latches, the statuses of objects, the
labels of waiters, plain notes, the daemon and the work posted to the transport.

A relation `R` between worlds is a *footprint* when it is reflexive and transitive and holds
between a world and each such change of it (`Footprint`), provided the change keeps what every
waiter and latch runs when it fires. An operation *stays within* `R` when
every run of it that returns relates the world it starts from to the one it ends in (`Stays`).
Every operation of the broker that changes nothing else stays within every footprint; this module
proves so once for all of them, so that books of their own need only the operations that touch
what they read.
-/

set_option autoImplicit false

namespace MissionControl.Hub

open Readiness

/-- A reflexive, transitive relation between worlds that holds across every change of what the
readiness broker keeps for itself. -/
structure Footprint (R : World → World → Prop) : Prop where
  refl : ∀ h, R h h
  trans : ∀ {h₁ h₂ h₃ : World}, R h₁ h₂ → R h₂ h₃ → R h₁ h₃
  waiter : ∀ (h : World) (w : Nat) (g : Waiter → Waiter), (∀ x, (g x).reaction = x.reaction) →
    R h { h with waiters := h.waiters.modify w g }
  owners : ∀ (h : World) (os : Array Owner), R h { h with owners := os }
  fetches : ∀ (h : World) (fs : Array Fetch), R h { h with fetches := fs }
  latch : ∀ (h : World) (m : Nat) (g : Latch → Latch), (∀ x, (g x).finale = x.finale) →
    R h { h with latches := h.latches.modify m g }
  waiterLabels : ∀ (h : World) (ls : List (String × Nat)), R h { h with waiterLabels := ls }
  note : ∀ (h : World) (n : Note), n.isPlain = true → R h { h with notes := h.notes.push n }
  status : ∀ (h : World) (s : Subject) (st : Status), R h (h.setStatus s st)
  daemon : ∀ (h : World) (d : Wire.Daemon), R h { h with daemon := d }
  post : ∀ (h : World) (p : Posted),
    R h { h with link := h.link.map fun k => { k with posted := k.posted ++ [p] } }

/-- Every run of `x` that returns relates the world it starts from to the one it ends in. -/
def Stays (R : World → World → Prop) {α : Type} (x : HubM α) : Prop :=
  ∀ (h : World) (a : α) (h' : World), x.run h = .ok a h' → R h h'

namespace Stays

variable {R : World → World → Prop} {α β : Type}

theorem of_modify {g : World → World} (stays : ∀ h : World, R h (g h)) :
    Stays R (modify g : HubM Unit) := by
  intro h u h' run
  simp only [run_modify, EStateM.Result.ok.injEq] at run
  rw [← run.2]
  exact stays h

theorem of_modifyGet {g : World → α × World} (stays : ∀ h : World, R h (g h).2) :
    Stays R (modifyGet g : HubM α) := by
  intro h a h' run
  simp only [run_modifyGet, EStateM.Result.ok.injEq] at run
  rw [← run.2]
  exact stays h

theorem of_throw (e : Fault) : Stays R (throw e : HubM α) := by
  intro h a h' run
  cases run

/-- What follows an operation that stays within `R` starts from a world related to the first. -/
theorem run_bind {x : HubM α} {f : α → HubM β} {h h' : World} {b : β} (stays : Stays R x)
    (run : (x >>= f).run h = .ok b h') : ∃ a h₁, R h h₁ ∧ (f a).run h₁ = .ok b h' := by
  obtain ⟨a, h₁, first, rest⟩ := bind_ok.mp run
  exact ⟨a, h₁, stays h a h₁ first, rest⟩

/-- An operation that stays within a relation keeps every invariant the relation carries. -/
theorem keeps {P : World → Prop} {x : HubM α} (stays : Stays R x)
    (carried : ∀ h h', R h h' → P h → P h') : Keeps P x :=
  fun h _ h' holds run => carried h h' (stays h _ h' run) holds

end Stays

namespace Footprint

variable {R : World → World → Prop} (F : Footprint R) {α β : Type}
include F

theorem pure (a : α) : Stays R (Pure.pure a : HubM α) := by
  intro h b h' run
  rw [ok_pure run]
  exact F.refl h

theorem bind {x : HubM α} {f : α → HubM β} (first : Stays R x) (rest : ∀ a, Stays R (f a)) :
    Stays R (x >>= f) := by
  intro h b h' run
  obtain ⟨a, h₁, ran, more⟩ := bind_ok.mp run
  exact F.trans (first h a h₁ ran) (rest a h₁ b h' more)

/-- An operation that only reads the world. -/
theorem of_read {x : HubM α} (reads : ∀ h, ∃ a, x.run h = .ok a h) : Stays R x := by
  intro h a h' run
  obtain ⟨b, ran⟩ := reads h
  rw [ran, EStateM.Result.ok.injEq] at run
  rw [← run.2]
  exact F.refl h

/-- A loop whose every pass stays within a footprint. -/
theorem forIn {xs : List α} {body : α → PUnit → HubM (ForInStep PUnit)}
    (pass : ∀ a, Stays R (body a ⟨⟩)) : Stays R (ForIn.forIn xs ⟨⟩ body) := by
  induction xs with
  | nil => exact F.pure _
  | cons a rest ih =>
    rw [List.forIn_cons]
    refine F.bind (pass a) fun step => ?_
    cases step with
    | done _ => exact F.pure _
    | yield _ => exact ih

theorem stays_get : Stays R (get : HubM World) := F.of_read fun h => ⟨_, run_get h⟩

/-- Reading the registry, which stops the step when there is none. -/
theorem stays_theRegistry : Stays R theRegistry := by
  intro h r h' run
  rw [run_theRegistry] at run
  split at run
  · simp only [EStateM.Result.ok.injEq] at run
    rw [← run.2]
    exact F.refl h
  · cases run

theorem stays_note (n : Note) (plain : n.isPlain = true) : Stays R (Hub.note n) :=
  Stays.of_modify fun h => F.note h n plain

theorem stays_modifyWaiter (w : Nat) (g : Waiter → Waiter) (keeps : ∀ x, (g x).reaction = x.reaction) :
    Stays R (modifyWaiter w g) :=
  Stays.of_modify fun h => F.waiter h w g keeps

theorem stays_modifyOwner (o : Nat) (g : Owner → Owner) : Stays R (modifyOwner o g) :=
  Stays.of_modify fun h => F.owners h _

theorem stays_modifyFetch (f : Nat) (g : Fetch → Fetch) : Stays R (modifyFetch f g) :=
  Stays.of_modify fun h => F.fetches h _

theorem stays_modifyLatch (m : Nat) (g : Latch → Latch) (keeps : ∀ x, (g x).finale = x.finale) :
    Stays R (modifyLatch m g) :=
  Stays.of_modify fun h => F.latch h m g keeps

theorem stays_newOwner : Stays R newOwner :=
  Stays.of_modifyGet fun h => F.owners h _

theorem stays_newFetch (fs : Fetch) : Stays R (newFetch fs) :=
  Stays.of_modifyGet fun h => F.fetches h _

theorem stays_label (l : String) (w : Nat) :
    Stays R (modify fun h => { h with waiterLabels := bindLabel h.waiterLabels l w }) :=
  Stays.of_modify fun h => F.waiterLabels h _

theorem stays_daemonCall (member : String) (args : List Value) : Stays R (daemonCall member args) :=
  Stays.of_modify fun h => F.daemon h _

theorem stays_linkOpen : Stays R linkOpen := F.of_read fun h => ⟨_, run_linkOpen h⟩

theorem stays_post (p : Posted) : Stays R (Hub.post p) :=
  Stays.of_modify fun h => F.post h p

theorem stays_transmit (i : Nat) (dest path method : String) (args : List Value) :
    Stays R (transmit i dest path method args) := by
  unfold transmit
  refine F.bind F.stays_get fun h => ?_
  split
  · split
    · exact F.stays_post _
    · split
      · exact F.stays_post _
      · split
        split
        · exact F.stays_post _
        · exact F.bind (Stays.of_modifyGet fun h => F.daemon h _) fun _ => F.stays_post _
  · exact F.pure _

theorem stays_releaseLatch (m : Nat) : Stays R (releaseLatch m) := by
  unfold releaseLatch
  refine F.bind (F.of_read fun h => ⟨_, run_latch m h⟩) fun l => ?_
  split
  refine F.bind (F.stays_modifyLatch _ _ fun _ => rfl) fun _ => ?_
  split
  · split
    · exact F.stays_note _ rfl
    · exact F.pure _
  · exact F.pure _

theorem stays_releaseWaiter (w : Nat) : Stays R (releaseWaiter w) := by
  unfold releaseWaiter
  refine F.bind (F.of_read fun h => ⟨_, run_waiter w h⟩) fun wt => ?_
  split
  · exact F.pure _
  · refine F.bind (F.stays_modifyWaiter _ _ fun _ => rfl) fun _ => ?_
    split
    · exact F.pure _
    · exact F.stays_note _ rfl
    · exact F.stays_releaseLatch _

theorem stays_untrack (w : Nat) (o : Option Nat) : Stays R (untrack w o) := by
  cases o with
  | none => exact F.pure _
  | some o => exact F.stays_modifyOwner _ _

theorem stays_finish (w : Nat) : Stays R (finish w) := by
  unfold finish
  exact F.bind (F.of_read fun h => ⟨_, run_waiter w h⟩) fun _ =>
    F.bind (F.stays_modifyWaiter _ _ fun _ => rfl) fun _ =>
      F.bind (F.stays_untrack _ _) fun _ => F.stays_releaseWaiter w

theorem stays_compact (f : Nat) : Stays R (compact f) := by
  unfold compact
  refine F.bind (F.of_read fun h => ⟨_, run_fetch f h⟩) fun fs => ?_
  split
  · exact F.pure _
  · exact F.bind F.stays_get fun _ => F.stays_modifyFetch _ _

theorem stays_cancelWaiter (w : Nat) : Stays R (cancelWaiter w) := by
  unfold cancelWaiter
  refine F.bind (F.of_read fun h => ⟨_, run_waiter w h⟩) fun wt => ?_
  split
  · exact F.pure _
  · refine F.bind (F.stays_modifyWaiter _ _ fun _ => rfl) fun _ => F.bind (F.stays_untrack _ _) fun _ => ?_
    have released : Stays R (do releaseWaiter w; Pure.pure true : HubM Bool) :=
      F.bind (F.stays_releaseWaiter w) fun _ => F.pure _
    dsimp only
    split
    · exact F.bind (F.stays_modifyWaiter _ _ fun _ => rfl) fun _ => F.bind (F.stays_compact _) fun _ => released
    · exact released

theorem stays_closeOwner (o : Nat) : Stays R (closeOwner o) := by
  unfold closeOwner
  refine F.bind (F.of_read fun h => ⟨_, run_owner o h⟩) fun ow => ?_
  split
  · exact F.pure _
  · refine F.bind (F.stays_modifyOwner _ _) fun _ => F.bind (F.forIn fun w => ?_) fun _ => F.pure _
    exact F.bind (F.stays_cancelWaiter w) fun _ => F.pure _

/-- Finishing the waiters of a fetch that pass a test. -/
theorem stays_finishEach (ws : Array Nat) (p : Waiter → Bool) :
    Stays R (ForIn.forIn ws ⟨⟩ fun w _ => do
      let wt ← Hub.waiter w
      if p wt then finish w
      Pure.pure (ForInStep.yield ⟨⟩) : HubM PUnit) := by
  rw [← Array.forIn_toList]
  refine F.forIn fun w => ?_
  refine F.bind (F.of_read fun h => ⟨_, run_waiter w h⟩) fun wt => ?_
  split
  · exact F.bind (F.stays_finish w) fun _ => F.pure _
  · exact F.pure _

theorem stays_disposeFetches (s : Subject) : Stays R (disposeFetches s) := by
  unfold disposeFetches
  refine F.bind F.stays_get fun h => ?_
  refine F.bind (Stays.of_modify fun h => F.status h s _) fun _ => ?_
  refine F.bind (F.forIn fun p => ?_) fun _ => F.pure _
  obtain ⟨iface, f⟩ := p
  refine F.bind (F.stays_modifyFetch _ _) fun _ =>
    F.bind (F.of_read fun h => ⟨_, run_fetch _ h⟩) fun fs => ?_
  exact F.bind (F.stays_finishEach _ fun wt => !(wt.cancelled || wt.done)) fun _ => F.pure _

theorem stays_settleFetch (f : Nat) (err : Option String) : Stays R (settleFetch f err) := by
  unfold settleFetch
  refine F.bind (F.stays_modifyFetch _ _) fun _ =>
    F.bind (F.of_read fun h => ⟨_, run_fetch f h⟩) fun fs => ?_
  split
  · exact F.pure _
  · exact F.bind (Stays.of_modify fun h => F.status h _ _) fun _ =>
      F.bind (F.stays_finishEach _ fun wt => !wt.cancelled && !wt.done) fun _ =>
        F.stays_modifyFetch _ _

theorem stays_attach (f w : Nat) (o : Option Nat) : Stays R (attach f w o) := by
  unfold attach
  refine F.bind (F.stays_modifyWaiter _ _ fun _ => rfl) fun _ => F.bind (F.stays_modifyFetch _ _) fun _ => ?_
  split
  · exact F.stays_modifyOwner _ _
  · exact F.pure _

theorem stays_openFetch (s : Subject) (d : Descriptor) (w : Nat) (o : Option Nat) :
    Stays R (openFetch s d w o) := by
  unfold openFetch
  exact F.bind (F.stays_newFetch _) fun f =>
    F.bind (Stays.of_modify fun h => F.status h s _) fun _ =>
      F.bind (F.stays_attach _ _ _) fun _ => F.pure _

end Footprint

end MissionControl.Hub
