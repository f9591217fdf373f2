import MissionControl.Hub.World

/-!
# Settling waiters

The operations that finish with waiters without calling any of them back: releasing, finishing,
cancelling, closing an owner and disposing of an object's fetches. None of them can reach a
waiter's reaction, so they need no step budget.

* A waiter is released at most once; its release hook runs then.
* Finishing marks a waiter done, detaches it from its fetch and its owner, and releases it.
* Cancelling a waiter that is neither cancelled nor done marks it cancelled, detaches it, drops
  the cancelled waiters of its fetch unless that fetch is firing, and releases it.
* Closing an owner, once, cancels every waiter it still tracks.
* Disposing of an object's fetches forgets them: every waiter still registered on one is
  finished without being called back, and a late reply to such a fetch is ignored.
-/

namespace MissionControl

namespace Hub

open Readiness

/-- Latch `m` counts one of its waiters released; the last one runs the latch's release. -/
def releaseLatch (m : Nat) : HubM Unit := do
  let l ← latch m
  let (c, hit) := l.toRelease.tick
  modifyLatch m fun x => { x with toRelease := c }
  if hit then
    match l.release with
    | some label => note (.allReleased label)
    | none => pure ()

/-- Waiter `w` released: its release hook runs, the first time only. -/
def releaseWaiter (w : Nat) : HubM Unit := do
  let wt ← waiter w
  if wt.released then return
  modifyWaiter w fun x => { x with released := true }
  match wt.release with
  | .silent => pure ()
  | .script label => note (.released label)
  | .latch m => releaseLatch m

/-- The owner of a waiter, if any, no longer tracks it. -/
def untrack (w : Nat) : Option Nat → HubM Unit
  | some o => modifyOwner o (·.untrack w)
  | none => pure ()

/-- Whether an owner, if there is one, is closed. -/
def ownerClosed : Option Nat → HubM Bool
  | some o => return (← owner o).closed
  | none => return false

/-- Waiter `w` finished with: done, detached and released. -/
def finish (w : Nat) : HubM Unit := do
  let wt ← waiter w
  modifyWaiter w fun x => { x with done := true, fetch := none }
  untrack w wt.owner
  releaseWaiter w

/-- Fetch `f` drops its cancelled waiters, unless it is firing them. -/
def compact (f : Nat) : HubM Unit := do
  let fs ← fetch f
  if fs.firing then return
  let h ← get
  modifyFetch f fun x =>
    { x with waiters := x.waiters.filter fun w => !(h.waiters.getD w default).cancelled }

/-- Waiter `w` cancelled, if it is neither cancelled nor done; whether it was. -/
def cancelWaiter (w : Nat) : HubM Bool := do
  let wt ← waiter w
  if wt.cancelled || wt.done then return false
  modifyWaiter w fun x => { x with cancelled := true }
  untrack w wt.owner
  match wt.fetch with
  | some f =>
    modifyWaiter w fun x => { x with fetch := none }
    compact f
  | none => pure ()
  releaseWaiter w
  return true

/-- Owner `o` closed: every waiter it still tracks is cancelled. Closing twice does nothing. -/
def closeOwner (o : Nat) : HubM Unit := do
  let ow ← owner o
  if ow.closed then return
  modifyOwner o fun _ => { waiters := [], closed := true }
  for w in ow.waiters do
    let _ ← cancelWaiter w

/-- Every fetch in progress for a subject forgotten: its waiters are finished without being
called back, and its reply will be ignored. -/
def disposeFetches (s : Subject) : HubM Unit := do
  let st := (← get).status s
  modify fun h => h.setStatus s { st with pending := [] }
  for (_, f) in st.pending do
    modifyFetch f fun x => { x with disposed := true }
    let fs ← fetch f
    for w in fs.waiters do
      let wt ← waiter w
      if !(wt.cancelled || wt.done) then finish w

/-- The notes taken from position `start` on, grouped as notes of undefined order. -/
def groupNotesFrom (start : Nat) : HubM Unit :=
  modify fun h =>
    let later := (h.notes.extract start h.notes.size).toList
    if later.isEmpty then h
    else { h with notes := (h.notes.extract 0 start).push (.unordered later) }

end Hub

end MissionControl
