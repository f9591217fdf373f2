import MissionControl.Proofs.Hub.Requests

/-!
# The readiness broker keeps its books

The books of the hub balance (`World.Balanced`) before every top-level step and after it, with
every interface determined before the step still determined after it, with the same outcome.
This module gathers what every stretch of the interpreter does to the books and instantiates
the invariant of the interpreter with them (`broker`), so that `Invariant.kept` carries the books
through every operation, callbacks included (`runStep_balanced`).

Most of the hub's work leaves the books as they were (`Quiet`): notes, subscriptions, the
transport, object state built from a fetch, the registry's lock and clients' readiness. The rest
adds objects, owners and waiters, which the books accept as long as what they refer to exists,
or is one of the operations of the earlier modules.
-/

set_option autoImplicit false

namespace MissionControl.Hub

open Readiness

/-! ## Operations that leave the books as they were -/

namespace Quiet

variable {α : Type}

theorem of_modify {g : World → World} (alike : ∀ h : World, h.Alike (g h)) : Quiet (modify g) := by
  intro h u h' run
  simp only [run_modify, EStateM.Result.ok.injEq] at run
  rw [← run.2]
  exact alike h

theorem of_modifyGet {g : World → α × World} (alike : ∀ h : World, h.Alike (g h).2) :
    Quiet (modifyGet g) := by
  intro h a h' run
  simp only [run_modifyGet, EStateM.Result.ok.injEq] at run
  rw [← run.2]
  exact alike h

theorem of_throw {e : Fault} : Quiet (throw e : HubM α) := by
  intro h a h' run
  simp at run

end Quiet

theorem quiet_linkOpen : Quiet linkOpen := Quiet.of_read fun h => ⟨_, run_linkOpen h⟩

theorem quiet_subscribe (rule : MatchRule) (l : Listener) : Quiet (subscribe rule l) := by
  unfold subscribe
  refine Quiet.bind (Quiet.of_modifyGet fun h => World.Alike.of_same rfl rfl rfl rfl rfl rfl rfl rfl rfl rfl)
    fun id => Quiet.bind quiet_linkOpen fun linked => ?_
  split
  · exact Quiet.bind (quiet_daemonCall _ _) fun _ => Quiet.pure _
  · exact Quiet.pure _

theorem quiet_unsubscribe (id : Nat) : Quiet (unsubscribe id) := by
  unfold unsubscribe
  refine Quiet.bind (Quiet.of_read fun h => ⟨_, run_get h⟩) fun h => ?_
  dsimp only
  split
  · exact Quiet.pure _
  · refine Quiet.bind (Quiet.of_modify fun h => World.Alike.of_same rfl rfl rfl rfl rfl rfl rfl rfl rfl rfl)
      fun _ => Quiet.bind quiet_linkOpen fun linked => ?_
    split
    · exact quiet_daemonCall _ _
    · exact Quiet.pure _

theorem quiet_post (p : Posted) : Quiet (post p) :=
  Quiet.of_modify fun _ => World.Alike.of_same rfl rfl rfl rfl rfl rfl rfl rfl rfl rfl

theorem quiet_transmit (i : Nat) (dest path method : String) (args : List Value) :
    Quiet (transmit i dest path method args) := by
  unfold transmit
  refine Quiet.bind (Quiet.of_read fun h => ⟨_, run_get h⟩) fun h => ?_
  split
  · split
    · exact quiet_post _
    · split
      · exact quiet_post _
      · split
        split
        · exact quiet_post _
        · exact Quiet.bind
            (Quiet.of_modifyGet fun h => World.Alike.of_same rfl rfl rfl rfl rfl rfl rfl rfl rfl rfl)
            fun _ => quiet_post _
  · exact Quiet.pure _

/-- Building object state from a completed fetch changes only the object's properties. -/
theorem quiet_build (s : Subject) (d : Descriptor) (props : Option Properties) :
    Quiet (build s d props) := by
  unfold build
  split
  · exact Quiet.bind (Quiet.of_read fun h => ⟨_, run_get h⟩) fun _ => quiet_note _
  · exact quiet_modifyProxy _ _
  · exact quiet_modifyProxy _ _
  · exact quiet_modifyProxy _ _
  · exact quiet_modifyProxy _ _
  · exact quiet_modifyAccount _ _ fun _ => rfl
  · exact quiet_modifyAccount _ _ fun _ => rfl
  · exact Quiet.of_throw
  · exact Quiet.of_throw
  · exact Quiet.of_throw

theorem quiet_watchAccount (a : Nat) (iface : String) : Quiet (watchAccount a iface) := by
  unfold watchAccount
  refine Quiet.bind (Quiet.of_read fun h => ⟨_, run_account a h⟩) fun acc => ?_
  exact Quiet.bind (quiet_subscribe _ _) fun _ => quiet_modifyAccount _ _ fun _ => rfl

theorem quiet_watch (s : Subject) (iface : String) (k : Watcher) : Quiet (watch s iface k) := by
  unfold watch
  split
  · exact Quiet.bind (Quiet.of_read fun h => ⟨_, run_get h⟩) fun _ => quiet_note _
  · split
    · exact quiet_watchAccount _ _
    · exact Quiet.of_throw

theorem quiet_applyAccountChange (a : Nat) (body : List Value) :
    Quiet (applyAccountChange a body) := by
  unfold applyAccountChange
  split
  · exact quiet_modifyAccount _ _ fun _ => rfl
  · exact Quiet.pure _

theorem quiet_releaseStartupLock : Quiet releaseStartupLock := by
  unfold releaseStartupLock
  refine Quiet.bind (Quiet.of_read fun h => ⟨_, run_registry? h⟩) fun r? => ?_
  split
  · split
    · exact Quiet.pure _
    · split
      · exact Quiet.bind (quiet_note _) fun _ => Quiet.pure _
      · refine Quiet.bind (quiet_modifyRegistry _) fun _ => ?_
        split
        · exact Quiet.pure _
        · refine Quiet.bind (quiet_modifyRegistry _) fun _ => ?_
          split
          · exact quiet_note _
          · exact Quiet.pure _
  · exact Quiet.pure _

theorem quiet_registryClientReady (c : Nat) : Quiet (registryClientReady c) := by
  unfold registryClientReady
  refine Quiet.bind (Quiet.of_read fun h => ⟨_, run_registry? h⟩) fun r? => ?_
  split
  · split
    · split
      · exact Quiet.bind (quiet_modifyRegistry _) fun _ => quiet_releaseStartupLock
      · exact Quiet.pure _
    · exact Quiet.pure _
  · exact Quiet.pure _

theorem quiet_becomeReady (c : Nat) : Quiet (becomeReady c) := by
  unfold becomeReady
  refine Quiet.bind (Quiet.of_read fun h => ⟨_, run_client c h⟩) fun cl => ?_
  split
  · exact Quiet.pure _
  · refine Quiet.bind (quiet_modifyProxy _ _) fun _ => ?_
    split
    · exact quiet_registryClientReady _
    · exact Quiet.pure _

theorem quiet_openRegistry : Quiet openRegistry := by
  unfold openRegistry
  exact Quiet.bind (quiet_modifyRegistry _) fun _ =>
    Quiet.bind (quiet_subscribe _ _) fun _ => quiet_modifyRegistry _

theorem quiet_openClient (c : Nat) (name : String) : Quiet (openClient c name) := by
  unfold openClient
  exact Quiet.bind (quiet_modifyProxy _ _) fun _ =>
    Quiet.bind (quiet_subscribe _ _) fun _ => quiet_modifyClient _ _ (fun _ => rfl) fun _ => rfl

theorem quiet_absorbResult (fs : Fetch) (result : Except String (Option Properties)) :
    Quiet (absorbResult fs result) := by
  unfold absorbResult
  split
  · exact quiet_build _ _ _
  · exact Quiet.bind (Quiet.of_read fun h => ⟨_, run_get h⟩) fun _ => quiet_note _

theorem quiet_groupNotesFrom (start : Nat) : Quiet (groupNotesFrom start) := by
  unfold groupNotesFrom
  refine Quiet.of_modify fun h => ?_
  dsimp only
  split
  · exact World.Alike.refl h
  · exact World.Alike.of_same rfl rfl rfl rfl rfl rfl rfl rfl rfl rfl

theorem quiet_label (l : String) (w : Nat) :
    Quiet (modify fun h => { h with waiterLabels := bindLabel h.waiterLabels l w }) :=
  Quiet.of_modify fun _ => World.Alike.of_same rfl rfl rfl rfl rfl rfl rfl rfl rfl rfl

/-! ## New waiters, owners and objects -/

namespace World

/-- A waiter that may be made: registered on no fetch, with an owner and a client, if any, the
world has. -/
def Makeable (h : World) (wt : Waiter) : Prop :=
  wt.fetch = none ∧ (∀ o, wt.owner = some o → o < h.owners.size) ∧
    ∀ c, wt.reaction = some (.clientFetched c) → h.Has (.client c)

/-- Making a waiter keeps the books balanced.

Proof: the new waiter is registered on no fetch, so no fetch and no owner need to know of it;
what it refers to exists. -/
theorem newWaiter_balanced (h₀ : World) (S : List Frame) (wt : Waiter) :
    Triple (fun h => Balanced h₀ S h ∧ h.Makeable wt) (newWaiter wt) fun _ => Balanced h₀ S := by
  intro h w h' ⟨balanced, unattached, owned, reacts⟩ run
  simp only [run_newWaiter, EStateM.Result.ok.injEq] at run
  obtain ⟨-, rfl⟩ := run
  have books := balanced.books
  have reading : ∀ w', ({ h with waiters := h.waiters.push wt } : World).waiters.getD w' default =
      if w' = h.waiters.size then wt else h.waiters.getD w' default := fun w' => getD_push ..
  have past : h.waiters.getD h.waiters.size default = default := getD_of_size_le (Nat.le_refl _)
  refine ⟨⟨{ books.inRange with
      waiterOwner := fun w' o owner => ?_
      waiterClient := fun w' c reaction => ?_ }, fun w' f attached => ?_, books.statuses,
    books.settles, books.unique, books.requests⟩, fun o => ?_, { balanced.fanning with },
    balanced.remembers⟩
  · rw [reading] at owner
    split at owner
    · exact owned o owner
    · exact books.inRange.waiterOwner w' o owner
  · rw [reading] at reaction
    split at reaction
    · exact reacts c reaction
    · exact books.inRange.waiterClient w' c reaction
  · by_cases new : w' = h.waiters.size
    · rw [reading, if_pos new, unattached] at attached
      cases attached
    · rw [reading, if_neg new] at attached ⊢
      exact books.registered w' f attached
  · obtain ⟨nodup, tracked⟩ := balanced.tracks o
    refine ⟨nodup, fun w' => ?_⟩
    rw [tracked w', reading]
    by_cases new : w' = h.waiters.size
    · rw [if_pos new, new, past, unattached]
      exact iff_of_false (fun tracked => by cases tracked.1) fun tracked => by cases tracked.2
    · rw [if_neg new]

/-- A label bound, and the others as they were. -/
theorem lookup_bindLabel (labels : List (String × Nat)) (l l' : String) (i : Nat) :
    (bindLabel labels l i).lookup l' = if l' = l then some i else labels.lookup l' := by
  by_cases same : l' = l
  · subst same
    simp [bindLabel]
  · have other : (l' == l) = false := by simp [same]
    simp only [bindLabel, List.lookup_cons, other]
    rw [lookup_filter_key, if_neg same, if_neg same]

/-- A world with more objects and owners keeps the books balanced, when its records, statuses
and requests are as they were, no new owner tracks a waiter, and its labels name what it has.

Proof: the books read of objects only their statuses, which are as they were, and of owners
only their waiter lists; every bound the books check only grows. -/
theorem Balanced.grown {h₀ h h' : World} {S : List Frame} (balanced : Balanced h₀ S h)
    (waiters : h'.waiters = h.waiters) (fetches : h'.fetches = h.fetches)
    (calls : h'.bus.calls = h.bus.calls) (status : ∀ s, h'.status s = h.status s)
    (has : ∀ s, h.Has s → h'.Has s) (ownerCount : h.owners.size ≤ h'.owners.size)
    (ownerLists : ∀ o, (h'.owners.getD o default).waiters = (h.owners.getD o default).waiters)
    (plainLabel : ∀ l i, h'.plainLabels.lookup l = some i → h'.Has (.plain i))
    (accountLabel : ∀ l a, h'.accountLabels.lookup l = some a → h'.Has (.account a))
    (ownerLabel : ∀ l o, h'.ownerLabels.lookup l = some o → o < h'.owners.size)
    (clientOwner : ∀ c, h'.Has (.client c) → (h'.clients.getD c default).owner < h'.owners.size) :
    Balanced h₀ S h' := by
  have books := balanced.books
  have holding : ∀ f, h'.Holding f = h.Holding f := fun f => by
    simp only [Holding, fetches, status]
  refine ⟨⟨⟨plainLabel, accountLabel, ownerLabel, clientOwner, fun w o owned => ?_,
      fun w c reacts => ?_⟩, ?_, ?_, ?_, ?_, ?_⟩, fun o => ?_, ⟨balanced.fanning.distinct, ?_, ?_,
      fun s m o waits => ?_⟩, ?_⟩
  · rw [waiters] at owned
    exact Nat.lt_of_lt_of_le (books.inRange.waiterOwner w o owned) ownerCount
  · rw [waiters] at reacts
    exact has _ (books.inRange.waiterClient w c reacts)
  · simpa only [Registered, holding, waiters, fetches] using books.registered
  · simpa only [Statuses, status, fetches] using books.statuses
  · simpa only [Settles, holding, status, fetches] using books.settles
  · simpa only [Unique, fetches] using books.unique
  · simpa only [Requests, holding, calls, fetches] using books.requests
  · simpa only [ownerLists, waiters] using balanced.tracks o
  · simpa only [holding, calls, fetches] using balanced.fanning.fanned
  · simpa only [holding, calls, fetches] using balanced.fanning.answered
  · obtain ⟨had, owned⟩ := balanced.fanning.waiting s m o waits
    exact ⟨has s had, fun x named => Nat.lt_of_lt_of_le (owned x named) ownerCount⟩
  · simpa only [Remembers, status] using balanced.remembers

end World

namespace World

section Grown

variable {h₀ h : World} {S : List Frame} (balanced : Balanced h₀ S h)
include balanced

/-- A new plain object, under a label, keeps the books balanced. -/
theorem Balanced.pushPlain (label busName path : String) :
    Balanced h₀ S { h with
      plains := h.plains.push { label := label, busName := busName, path := path }
      plainLabels := bindLabel h.plainLabels label h.plains.size } := by
  have inRange := balanced.books.inRange
  refine balanced.grown rfl rfl rfl (fun s => ?_) (fun s had => ?_) (Nat.le_refl _) (fun _ => rfl)
    (fun l i found => ?_) inRange.accountLabel inRange.ownerLabel inRange.clientOwner
  · cases s with
    | plain i =>
      show ((h.plains.push _).getD i default).status = (h.plains.getD i default).status
      rw [getD_push]
      split
      · rename_i new
        rw [new, getD_of_size_le (Nat.le_refl _)]
        rfl
      · rfl
    | account _ | client _ => rfl
  · cases s with
    | plain i =>
      show i < (h.plains.push _).size
      rw [Array.size_push]
      exact Nat.lt_succ_of_lt had
    | account _ | client _ => exact had
  · rw [lookup_bindLabel] at found
    split at found
    · cases found
      show h.plains.size < (h.plains.push _).size
      simp
    · show i < (h.plains.push _).size
      rw [Array.size_push]
      exact Nat.lt_succ_of_lt (inRange.plainLabel l i found)

/-- A new account, under its path, keeps the books balanced. -/
theorem Balanced.pushAccount (path : String) :
    Balanced h₀ S { h with
      accounts := h.accounts.push { path := path }
      accountLabels := bindLabel h.accountLabels path h.accounts.size } := by
  have inRange := balanced.books.inRange
  refine balanced.grown rfl rfl rfl (fun s => ?_) (fun s had => ?_) (Nat.le_refl _) (fun _ => rfl)
    inRange.plainLabel (fun l a found => ?_) inRange.ownerLabel inRange.clientOwner
  · cases s with
    | account a =>
      show ((h.accounts.push _).getD a default).status = (h.accounts.getD a default).status
      rw [getD_push]
      split
      · rename_i new
        rw [new, getD_of_size_le (Nat.le_refl _)]
        rfl
      · rfl
    | plain _ | client _ => rfl
  · cases s with
    | account a =>
      show a < (h.accounts.push _).size
      rw [Array.size_push]
      exact Nat.lt_succ_of_lt had
    | plain _ | client _ => exact had
  · rw [lookup_bindLabel] at found
    split at found
    · cases found
      show h.accounts.size < (h.accounts.push _).size
      simp
    · show a < (h.accounts.push _).size
      rw [Array.size_push]
      exact Nat.lt_succ_of_lt (inRange.accountLabel l a found)

/-- A new owner, tracking nothing, keeps the books balanced. -/
theorem Balanced.pushOwner : Balanced h₀ S { h with owners := h.owners.push {} } := by
  have inRange := balanced.books.inRange
  refine balanced.grown rfl rfl rfl (fun _ => rfl) (fun _ had => had) (by simp) (fun o => ?_)
    inRange.plainLabel inRange.accountLabel (fun l o found => ?_) fun c had => ?_
  · show ((h.owners.push {}).getD o default).waiters = _
    rw [getD_push]
    split
    · rename_i new
      rw [new, getD_of_size_le (Nat.le_refl _)]
      rfl
    · rfl
  · show o < (h.owners.push {}).size
    rw [Array.size_push]
    exact Nat.lt_succ_of_lt (inRange.ownerLabel l o found)
  · show (h.clients.getD c default).owner < (h.owners.push {}).size
    rw [Array.size_push]
    exact Nat.lt_succ_of_lt (inRange.clientOwner c had)

/-- A label for an owner the world has keeps the books balanced. -/
theorem Balanced.labelOwner (label : String) {o : Nat} (valid : o < h.owners.size) :
    Balanced h₀ S { h with ownerLabels := bindLabel h.ownerLabels label o } := by
  have inRange := balanced.books.inRange
  refine balanced.grown rfl rfl rfl (fun _ => rfl) (fun _ had => had) (Nat.le_refl _) (fun _ => rfl)
    inRange.plainLabel inRange.accountLabel (fun l o' found => ?_) inRange.clientOwner
  rw [lookup_bindLabel] at found
  split at found
  · cases found
    exact valid
  · exact inRange.ownerLabel l o' found

/-- Invalidating a plain object keeps the books balanced. -/
theorem Balanced.invalidate (i : Nat) (reason : Option String) :
    Balanced h₀ S { h with plains := h.plains.modify i fun o => { o with invalid := reason } } := by
  have inRange := balanced.books.inRange
  refine balanced.grown rfl rfl rfl (fun s => ?_) (fun s had => ?_) (Nat.le_refl _) (fun _ => rfl)
    (fun l i found => ?_) inRange.accountLabel inRange.ownerLabel inRange.clientOwner
  · cases s with
    | plain j => exact getD_modify_of_keeps _ _ _ _ PlainObject.status fun _ => rfl
    | account _ | client _ => rfl
  · cases s with
    | plain j =>
      show j < (h.plains.modify _ _).size
      rw [Array.size_modify]
      exact had
    | account _ | client _ => exact had
  · show i < (h.plains.modify _ _).size
    rw [Array.size_modify]
    exact inRange.plainLabel l i found

/-- A new client, with an owner the world has, keeps the books balanced. -/
theorem Balanced.pushClient (client : ClientObject) (valid : client.owner < h.owners.size)
    (empty : client.status = {}) :
    Balanced h₀ S { h with clients := h.clients.push client } := by
  have inRange := balanced.books.inRange
  refine balanced.grown rfl rfl rfl (fun s => ?_) (fun s had => ?_) (Nat.le_refl _) (fun _ => rfl)
    inRange.plainLabel inRange.accountLabel inRange.ownerLabel fun c had => ?_
  · cases s with
    | client c =>
      show ((h.clients.push _).getD c default).status = (h.clients.getD c default).status
      rw [getD_push]
      split
      · rename_i new
        rw [new, getD_of_size_le (Nat.le_refl _), empty]
        rfl
      · rfl
    | plain _ | account _ => rfl
  · cases s with
    | client c =>
      show c < (h.clients.push _).size
      rw [Array.size_push]
      exact Nat.lt_succ_of_lt had
    | plain _ | account _ => exact had
  · show ((h.clients.push client).getD c default).owner < h.owners.size
    rw [getD_push]
    split
    · exact valid
    · rename_i old
      have had' : c < (h.clients.push client).size := had
      rw [Array.size_push] at had'
      exact inRange.clientOwner c (show c < h.clients.size by omega)

end Grown

end World

/-- Adding a client to the registry keeps the books balanced: its owner is new. -/
theorem enroll_balanced (h₀ : World) (S : List Frame) (r : Registry) (name u : String) (act : Bool) :
    Keeps (World.Balanced h₀ S) (enroll r name u act) := by
  intro h c h' balanced run
  simp only [enroll, bind_ok, run_newOwner, run_modifyGet, EStateM.Result.ok.injEq,
    exists_returned] at run
  obtain ⟨⟨⟩, h₁, registered, run⟩ := run
  have owned := balanced.pushOwner
  have enrolled := owned.pushClient { proxy := Client.Proxy.create name u act, owner := h.owners.size }
    (by simp) rfl
  refine Keeps.bind (quiet_modifyClient _ _ (by intros; rfl) (by intros; rfl)).balanced (fun _ => ?_)
    ((quiet_modifyRegistry _).balanced enrolled registered) (bind_ok.mpr run)
  split
  · exact Keeps.bind (quiet_note _).balanced fun _ => (Quiet.pure _).balanced
  · exact (Quiet.pure _).balanced

/-! ## Objects disposed of and clients gone -/

section Dispose

variable (h₀ : World) (S : List Frame)

theorem disposeAccount_balanced (a : Nat) : Keeps (World.Balanced h₀ S) (disposeAccount a) := by
  unfold disposeAccount
  refine Keeps.bind (Quiet.of_read fun h => ⟨_, run_account a h⟩).balanced fun acc => ?_
  refine Keeps.bind (Quiet.forIn fun id => Quiet.bind (quiet_unsubscribe id) fun _ => Quiet.pure _).balanced
    fun _ => ?_
  exact Keeps.bind (quiet_modifyAccount _ _ (by intros; rfl)).balanced fun _ =>
    disposeFetches_balanced h₀ S _

theorem removeAccount_balanced (a : Nat) : Keeps (World.Balanced h₀ S) (removeAccount a) := by
  unfold removeAccount
  refine Keeps.bind (Quiet.of_read fun h => ⟨_, run_account a h⟩).balanced fun acc => ?_
  split
  · exact (Quiet.pure _).balanced
  · exact Keeps.bind (quiet_modifyAccount _ _ (by intros; rfl)).balanced fun _ =>
      disposeAccount_balanced h₀ S a

theorem disposeClient_balanced (c : Nat) : Keeps (World.Balanced h₀ S) (disposeClient c) := by
  unfold disposeClient
  refine Keeps.bind (Quiet.of_read fun h => ⟨_, run_client c h⟩).balanced fun cl => ?_
  -- the rest of the disposal, after the name watch ends
  have rest : Keeps (World.Balanced h₀ S) (do
      closeOwner cl.owner
      disposeFetches (.client c)
      modifyClient c fun x => { x with readyLinked := false, goneLinked := false }) :=
    Keeps.bind (closeOwner_balanced h₀ S _) fun _ =>
      Keeps.bind (disposeFetches_balanced h₀ S _) fun _ =>
        (quiet_modifyClient _ _ (by intros; rfl) (by intros; rfl)).balanced
  dsimp only
  split
  · exact Keeps.bind (quiet_unsubscribe _).balanced fun _ =>
      Keeps.bind (quiet_modifyClient _ _ (by intros; rfl) (by intros; rfl)).balanced fun _ => rest
  · exact rest

theorem registryForget_balanced (name : String) :
    Keeps (World.Balanced h₀ S) (registryForget name) := by
  unfold registryForget
  refine Keeps.bind (Quiet.of_read fun h => ⟨_, run_registry? h⟩).balanced fun r? => ?_
  split
  · split
    · exact (Quiet.pure _).balanced
    · refine Keeps.bind (quiet_modifyClient _ _ (by intros; rfl) (by intros; rfl)).balanced fun _ =>
        Keeps.bind (quiet_modifyRegistry _).balanced fun _ =>
          Keeps.bind (disposeClient_balanced h₀ S _) fun _ => ?_
      split
      · exact quiet_releaseStartupLock.balanced
      · exact (Quiet.pure _).balanced
  · exact (Quiet.pure _).balanced

theorem invalidateClient_balanced (c : Nat) (reason : String) :
    Keeps (World.Balanced h₀ S) (invalidateClient c reason) := by
  unfold invalidateClient
  refine Keeps.bind (Quiet.of_read fun h => ⟨_, run_client c h⟩).balanced fun cl => ?_
  split
  · exact (Quiet.pure _).balanced
  · refine Keeps.bind (quiet_modifyProxy _ _).balanced fun _ =>
      Keeps.bind (closeOwner_balanced h₀ S _) fun _ =>
        Keeps.bind (Quiet.of_read fun h => ⟨_, run_client c h⟩).balanced fun cl' => ?_
    split
    · exact registryForget_balanced h₀ S _
    · exact (Quiet.pure _).balanced

theorem clientOwnerChanged_balanced (c : Nat) (name new : String) :
    Keeps (World.Balanced h₀ S) (clientOwnerChanged c name new) := by
  unfold clientOwnerChanged
  refine Keeps.bind (Quiet.of_read fun h => ⟨_, run_client c h⟩).balanced fun cl => ?_
  split
  · exact (Quiet.pure _).balanced
  · split
    · exact (Quiet.bind (quiet_modifyProxy _ _) fun _ => Quiet.pure _).balanced
    · refine Keeps.bind (quiet_modifyProxy _ _).balanced fun _ => ?_
      split
      · exact (Quiet.pure _).balanced
      · exact invalidateClient_balanced h₀ S _ _

theorem closeRegistry_balanced : Keeps (World.Balanced h₀ S) closeRegistry := by
  unfold closeRegistry
  refine Keeps.bind (Quiet.of_read fun h => ⟨_, run_registry? h⟩).balanced fun r? => ?_
  cases r? with
  | none => exact (Quiet.pure _).balanced
  | some r =>
    dsimp only
    split
    · exact (Quiet.pure _).balanced
    · refine Keeps.bind (quiet_modifyRegistry _).balanced fun _ => ?_
      -- every client of the registry is disposed of, after the name watch ends
      have rest : ∀ u : PUnit, Keeps (World.Balanced h₀ S) (do
          for e in r.entries do
            modifyClient e.client fun x => { x with readyLinked := false, goneLinked := false }
            disposeClient e.client
          modifyRegistry fun x => { x with entries := [], listening := false }) := fun _ => by
        refine Keeps.bind (Keeps.forIn _ _ fun e _ => ?_) fun _ => (quiet_modifyRegistry _).balanced
        intro h step h' balanced run
        obtain ⟨⟨⟩, h₁, linked, run⟩ := bind_ok.mp run
        obtain ⟨⟨⟩, h₂, disposed, returned⟩ := bind_ok.mp run
        simp only [run_pure, EStateM.Result.ok.injEq] at returned
        obtain ⟨rfl, rfl⟩ := returned
        have linked' :=
          (quiet_modifyClient _ _ (by intros; rfl) (by intros; rfl)).balanced balanced linked
        exact ⟨rfl, disposeClient_balanced h₀ S _ linked' disposed⟩
      split
      · exact Keeps.bind (quiet_unsubscribe _).balanced rest
      · exact rest ()

end Dispose

end MissionControl.Hub

namespace MissionControl.Hub

theorem quiet_get : Quiet (get : HubM World) := Quiet.of_read fun h => ⟨_, run_get h⟩

theorem quiet_theRegistry : Quiet theRegistry := by
  intro h r h' run
  rw [run_theRegistry] at run
  split at run
  · simp only [EStateM.Result.ok.injEq] at run
    rw [← run.2]
    exact World.Alike.refl h
  · cases run

theorem quiet_registerAll (type : String)
    (ds : List (String × Readiness.Builder × Option Readiness.Watcher)) :
    Quiet (registerAll type ds) := by
  unfold registerAll
  refine Quiet.bind quiet_get fun h => ?_
  split
  refine Quiet.bind (Quiet.of_modify ?_) fun _ => ?_
  · intro h
    exact World.Alike.of_same rfl rfl rfl rfl rfl rfl rfl rfl rfl rfl
  split
  · exact Quiet.pure _
  · exact Quiet.pure _

/-- Every step that never calls back keeps the books balanced. -/
theorem performPlain_balanced (h₀ : World) (S : List Frame) (step : Step) :
    Keeps (World.Balanced h₀ S) (performPlain step) := by
  unfold performPlain
  split
  · -- a descriptor added
    refine Keeps.bind quiet_get.balanced fun h => ?_
    split
    · refine Keeps.bind (Quiet.of_modify ?_).balanced fun _ => (Quiet.pure _).balanced
      intro h
      exact World.Alike.of_same rfl rfl rfl rfl rfl rfl rfl rfl rfl rfl
    · exact (Quiet.pure _).balanced
  · exact Keeps.bind quiet_get.balanced fun _ => (Quiet.pure _).balanced
  · exact Keeps.bind quiet_get.balanced fun _ => (Quiet.pure _).balanced
  · -- descriptors registered
    split
    · exact (quiet_registerAll _ _).balanced
    · exact (quiet_registerAll _ _).balanced
  · -- a plain object
    refine Keeps.bind (fun h u h' balanced run => ?_) fun _ => (Quiet.pure _).balanced
    simp only [run_modify, EStateM.Result.ok.injEq] at run
    rw [← run.2]
    exact balanced.pushPlain _ _ _
  · -- an owner, under a label
    intro h o h' balanced run
    simp only [bind_ok, run_newOwner, run_modify, run_pure, EStateM.Result.ok.injEq,
      exists_returned, exists_returned_unit] at run
    obtain ⟨-, rfl⟩ := run
    exact balanced.pushOwner.labelOwner _ (by simp)
  · -- an owner closed
    refine Keeps.bind quiet_get.balanced fun h => ?_
    split
    · exact Keeps.bind (closeOwner_balanced h₀ S _) fun _ => (Quiet.pure _).balanced
    · exact (Quiet.pure _).balanced
  · exact (Quiet.pure _).balanced
  · -- a waiter cancelled
    refine Keeps.bind quiet_get.balanced fun h => ?_
    split
    · exact Keeps.bind (cancelWaiter_balanced h₀ S _) fun _ => (Quiet.pure _).balanced
    · exact (Quiet.pure _).balanced
  · refine Keeps.bind (Quiet.of_modify ?_).balanced fun _ => (Quiet.pure _).balanced
    intro h
    exact World.Alike.of_same rfl rfl rfl rfl rfl rfl rfl rfl rfl rfl
  · refine Keeps.bind (Quiet.of_modify ?_).balanced fun _ => (Quiet.pure _).balanced
    intro h
    exact World.Alike.of_same rfl rfl rfl rfl rfl rfl rfl rfl rfl rfl
  · -- a plain object invalidated
    refine Keeps.bind quiet_get.balanced fun h => ?_
    split
    · refine Keeps.bind (fun h u h' balanced run => ?_) fun _ => (Quiet.pure _).balanced
      simp only [run_modify, EStateM.Result.ok.injEq] at run
      rw [← run.2]
      exact balanced.invalidate _ _
    · exact (Quiet.pure _).balanced
  · -- an object disposed of
    refine Keeps.bind quiet_get.balanced fun h => ?_
    refine Keeps.bind (Quiet.of_read fun h => ⟨_, run_subjectOf? _ h⟩).balanced fun s? => ?_
    dsimp only
    split
    · exact Keeps.bind (disposeAccount_balanced h₀ S _) fun _ =>
        Keeps.bind (quiet_groupNotesFrom _).balanced fun _ => (Quiet.pure _).balanced
    · exact Keeps.bind (disposeFetches_balanced h₀ S _) fun _ =>
        Keeps.bind (quiet_groupNotesFrom _).balanced fun _ => (Quiet.pure _).balanced
    · exact (Quiet.pure _).balanced
  · -- an account removed
    refine Keeps.bind quiet_get.balanced fun h => ?_
    split
    · exact Keeps.bind quiet_get.balanced fun _ => Keeps.bind (removeAccount_balanced h₀ S _) fun _ =>
        Keeps.bind (quiet_groupNotesFrom _).balanced fun _ => (Quiet.pure _).balanced
    · exact (Quiet.pure _).balanced
  · refine Keeps.bind (Quiet.of_read fun h => ⟨_, run_subjectOf? _ h⟩).balanced fun s? => ?_
    split
    · exact Keeps.bind quiet_get.balanced fun _ => (Quiet.pure _).balanced
    · exact (Quiet.pure _).balanced
  · -- an account, under its path
    refine Keeps.bind (fun h u h' balanced run => ?_) fun _ => (Quiet.pure _).balanced
    simp only [run_modify, EStateM.Result.ok.injEq] at run
    rw [← run.2]
    exact balanced.pushAccount _
  · exact Keeps.bind quiet_theRegistry.balanced fun _ =>
      Keeps.bind (closeRegistry_balanced h₀ S) fun _ => (Quiet.pure _).balanced
  · refine Keeps.bind quiet_theRegistry.balanced fun r => ?_
    split
    · exact (Quiet.pure _).balanced
    · exact (Quiet.pure _).balanced
  · exact Keeps.bind quiet_get.balanced fun _ => Keeps.bind quiet_theRegistry.balanced fun _ =>
      (Quiet.pure _).balanced
  · exact Keeps.bind quiet_get.balanced fun _ => Keeps.bind quiet_theRegistry.balanced fun _ =>
      (Quiet.pure _).balanced
  · exact Keeps.bind quiet_get.balanced fun _ => (Quiet.pure _).balanced
  · exact Keeps.bind quiet_get.balanced fun _ => (Quiet.pure _).balanced
  · exact Keeps.bind quiet_get.balanced fun _ => (Quiet.pure _).balanced
  · exact (Quiet.pure _).balanced

/-! ## The operations under way -/

namespace World

section Frames

variable {h₀ h : World} {S : List Frame}

/-- An operation that fans nothing out and waits for nothing can start at any time. -/
theorem Balanced.push {F : Frame} (balanced : Balanced h₀ S h) (fans : F.fanning = none)
    (waits : ∀ s m o, F ≠ .waiting s m o) : Balanced h₀ (F :: S) h :=
  { balanced with
    fanning := balanced.fanning.of_frames (by simp [fans]) fun s m o waiting => by
      rcases List.mem_cons.mp waiting with same | rest
      · exact absurd same.symm (waits s m o)
      · exact rest }

/-- An operation that fans nothing out can end at any time. -/
theorem Balanced.pop {F : Frame} (balanced : Balanced h₀ (F :: S) h) (fans : F.fanning = none) :
    Balanced h₀ S h :=
  { balanced with
    fanning := balanced.fanning.of_frames (by simp [fans]) fun _ _ _ waiting =>
      List.mem_cons_of_mem _ waiting }

/-- A fan-out goes on from any position. -/
theorem Balanced.advance {f i : Nat} (balanced : Balanced h₀ (.fanOut f i :: S) h) (j : Nat) :
    Balanced h₀ (.fanOut f j :: S) h :=
  { balanced with
    fanning := balanced.fanning.of_frames rfl fun s m o waiting => by
      simpa using waiting }

/-- A wait for several interfaces starts for an object the world has, with an owner it has. -/
theorem Balanced.wait {s : Subject} {m : Nat} {o : Option Nat} (balanced : Balanced h₀ S h)
    (has : h.Has s) (owned : ∀ x, o = some x → x < h.owners.size) :
    Balanced h₀ (.waiting s m o :: S) h :=
  { balanced with
    fanning :=
      { balanced.fanning with
        waiting := fun s' m' o' waiting => by
          rcases List.mem_cons.mp waiting with same | rest
          · cases same
            exact ⟨has, owned⟩
          · exact balanced.fanning.waiting s' m' o' rest } }

end Frames

end World

/-! ## The books as an invariant of the interpreter -/

/-- The books of the hub as an invariant of the interpreter: they balance with the operations of
the stack under way, and every outcome determined in `h₀` stays determined with the same outcome.
A reaction that fetches a client's roles is for a client the world has; a request for a fetch is
for an unasked fetch; a new waiter is makeable; a wait is for an object the world has. -/
def broker (h₀ : World) : Invariant where
  Holds := World.Balanced h₀
  Ready _ _ _ := True
  Reacts _ r h := match r with
    | .clientFetched c => h.Has (.client c)
    | _ => True
  Calls _ route h := match route with
    | .fetch f => h.Unasked f
    | _ => True
  Makes _ wt h := h.Makeable wt
  Waits _ s h := h.Has s
  Performs _ := True
  Heeds _ := True
  Replies _ _ _ := True
  Sights _ := True
  note S n _ := (quiet_note n).balanced
  react S w r h balanced _ _ _ reaction := by
    cases r with
    | clientFetched c => exact balanced.books.inRange.waiterClient w c reaction
    | script _ _ _ => trivial
    | latch _ => trivial
  fired S label depth actions s err h balanced _ :=
    (World.Alike.of_same rfl rfl rfl rfl rfl rfl rfl rfl rfl rfl :
      h.Alike { h with notes := h.notes.push (.fired label (h.subjectName s) err) }).balanced balanced
  scripted _ _ _ _ _ _ _ := trivial
  finale _ _ _ _ _ _ _ _ _ := trivial
  tick S m e c := (quiet_modifyLatch m _).balanced.mono (fun _ pre => pre.1) fun _ _ kept => kept
  becomeReady S c := (quiet_becomeReady c).balanced
  newWaiter S wt := World.newWaiter_balanced h₀ S wt
  sessionWaiter S h label depth actions callback release o _ balanced named := by
    refine ⟨rfl, fun x owned => ?_, fun c reacts => ?_⟩
    · obtain ⟨l, labelled⟩ := named x owned
      exact balanced.books.inRange.ownerLabel l x labelled
    · dsimp only at reacts
      split at reacts <;> cases reacts
  latchWaiter S s m o h balanced :=
    ⟨rfl, (balanced.fanning.waiting s m o (List.mem_cons_self ..)).2, fun _ reacts => by cases reacts⟩
  clientWaiter S c h balanced inside := by
    refine ⟨rfl, fun x owned => ?_, fun c' reacts => ?_⟩
    · cases owned
      exact balanced.books.inRange.clientOwner c inside
    · cases reacts
      exact inside
  waitLabelled S s o l _ := by
    intro h m h' ⟨balanced, has, named⟩ run
    have alike := quiet_newLatch l h m h' run
    refine (alike.balanced balanced).wait ((alike.has s).2 has) fun x owned => ?_
    obtain ⟨label, labelled⟩ := named x owned
    rw [alike.ownerCount]
    exact balanced.books.inRange.ownerLabel label x labelled
  waitClient S c l o _ := by
    intro h m h' ⟨balanced, has, owner⟩ run
    have alike := quiet_newLatch l h m h' run
    refine (alike.balanced balanced).wait ((alike.has _).2 has) fun x owned => ?_
    cases owned
    rw [alike.ownerCount, ← owner]
    exact balanced.books.inRange.clientOwner c has
  endWait S s m o h balanced := balanced.pop rfl
  sessionSubject S h label s _ balanced found := by
    split at found
    · rename_i i labelled
      cases found
      exact balanced.books.inRange.plainLabel label i labelled
    · obtain ⟨a, labelled, rfl⟩ := Option.map_eq_some_iff.mp found
      exact balanced.books.inRange.accountLabel label a labelled
  accountSubject S h label a _ balanced labelled := balanced.books.inRange.accountLabel label a labelled
  clientSubject S c h _ inside := inside
  waitingSubject S s m o h balanced := (balanced.fanning.waiting s m o (List.mem_cons_self ..)).1
  label S l w := (quiet_label l w).balanced
  alone S w h balanced _ := ⟨balanced.push rfl (fun _ _ _ waiting => by cases waiting), trivial⟩
  finishAlone S w :=
    (finish_balanced h₀ S w).mono (fun _ balanced => balanced.pop rfl) fun _ _ kept => kept
  refuse S w := (cancelWaiter_balanced h₀ S w).mono (fun _ pre => pre.1) fun _ _ kept => kept
  join S s d w f o _ := by
    intro h u h' ⟨balanced, _, ⟨fresh, _⟩, owned, fetching⟩ run
    exact World.attach_balanced h₀ S f w o
      ⟨balanced, balanced.books.statuses.holding_of_fetching fetching, fresh, owned⟩ run
  start S s d w o _ := by
    intro h f h' ⟨balanced, has, registering, owned, idle⟩ run
    exact openFetch_balanced h₀ S s d w o ⟨balanced, has, registering, owned, idle⟩ run
  watch S s iface k _ _ := (quiet_watch s iface k).balanced
  record S dest path method args route h balanced calls := by
    refine balanced.record fun f routed => ?_
    subst routed
    exact calls
  inline _ _ _ _ _ _ _ _ _ := trivial
  replied _ _ _ _ := trivial
  transmit S i dest path method args := (quiet_transmit i dest path method args).balanced
  answer S i h balanced inside unanswered _ := balanced.answer inside unanswered
  naming _ _ _ := trivial
  listing _ _ _ := trivial
  signalled _ _ := trivial
  avatar S a p := (quiet_modifyAccount a _ (by intros; rfl)).balanced
  avatarCall _ _ _ _ _ := trivial
  skipDisposed S f h balanced disposed :=
    { balanced with fanning := balanced.fanning.settled (balanced.books.statuses.not_holding disposed) }
  absorb S f fs result :=
    (quiet_absorbResult fs result).balanced.mono (fun _ pre => pre.1) fun _ _ kept => kept
  startFiring S f := (World.quiet_modifyFiring f true).balanced
  advance S f i w h balanced _ := ⟨balanced.advance (i + 1), trivial⟩
  settle S f j err :=
    (settleFetch_balanced h₀ S f j err).mono (fun _ pre => pre.1) fun _ _ kept => kept
  ownerChanged S c name new _ :=
    (clientOwnerChanged_balanced h₀ S c name new).mono (fun _ pre => pre.1) fun _ _ kept => kept
  accountChange S a body :=
    (quiet_applyAccountChange a body).balanced.mono (fun _ pre => pre.1) fun _ _ kept => kept
  unsubscribe S _ _ _ _ _ id := (quiet_unsubscribe id).balanced
  openRegistry S r _ :=
    quiet_openRegistry.balanced.mono (fun _ pre => pre.1) fun _ _ kept => ⟨kept, trivial⟩
  listCall _ _ _ _ := trivial
  abandonNaming S h balanced _ := balanced.pop rfl
  abandonListing S h balanced _ := balanced.pop rfl
  release S := quiet_releaseStartupLock.balanced.mono (fun _ balanced => balanced.pop rfl)
    fun _ _ kept => kept
  sighted S h r _ balanced _ _ _ := balanced.push rfl fun _ _ _ same => by cases same
  registered S h balanced := balanced.pop rfl
  markActivatable S c := (quiet_modifyProxy c _).balanced
  markActive S c u := (quiet_modifyProxy c _).balanced
  enroll S r name u act :=
    (enroll_balanced h₀ (.registering :: S) r name u act).mono (fun _ pre => pre.1) fun _ _ kept =>
      kept.push rfl fun _ _ _ same => by cases same
  openClient S c name :=
    (quiet_openClient c name).balanced.mono (fun _ pre => pre.1) fun _ _ kept => kept.pop rfl
  plain S step _ := performPlain_balanced h₀ S step

/-- Every top-level step that returns keeps the books balanced, and forgets no outcome
determined before it.

Proof: the invariant holds of the world the step starts from, whose notes alone were cleared;
every operation keeps it (`Invariant.kept`). -/
theorem runStep_balanced {budget : Nat} {h h' : World} {j r : Json} (balanced : World.Balanced h [] h)
    (run : (runStep budget 0 j).run { h with notes := #[] } = .ok r h') :
    World.Balanced h' [] h' ∧ h'.Remembers h := by
  have cleared : World.Balanced h [] { h with notes := #[] } :=
    (World.Alike.of_same rfl rfl rfl rfl rfl rfl rfl rfl rfl rfl :
      h.Alike { h with notes := #[] }).balanced balanced
  have kept : World.Balanced h [] h' := ((broker h).kept budget).runStep [] 0 j (.inl trivial) cleared run
  exact ⟨{ kept with remembers := fun _ _ ready => ⟨ready, rfl⟩ }, kept.remembers⟩

end MissionControl.Hub
