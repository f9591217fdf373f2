/-!
# Readiness bookkeeping

Each object keeps, per interface, either the fetch in progress or the outcome of the fetch that
completed (an error text, or none for success). An interface whose fetch completed is ready,
successfully or not; completing moves it from fetching to ready.

An owner groups waiters so that closing it cancels every one still pending; closing is final.
A countdown reaches zero exactly once, which is how "all of several waiters" is detected.
-/

namespace MissionControl

namespace Readiness

/-- The per-interface readiness of one object: fetches in progress by interface, and outcomes
of completed fetches by interface. -/
structure Status where
  pending : List (String × Nat) := []
  ready : List (String × Option String) := []
  deriving Inhabited

namespace Status

/-- Whether `iface` has been determined, successfully or not. -/
def isReady (s : Status) (iface : String) : Bool := s.ready.any (·.1 == iface)

/-- The error the fetch of `iface` completed with. -/
def fetchError? (s : Status) (iface : String) : Option String := (s.ready.lookup iface).join

/-- The fetch in progress for `iface`. -/
def fetching? (s : Status) (iface : String) : Option Nat := s.pending.lookup iface

/-- Whether a fetch of `iface` is in progress. -/
def isFetching (s : Status) (iface : String) : Bool := (s.fetching? iface).isSome

/-- The status with fetch `f` in progress for `iface`. -/
def start (s : Status) (iface : String) (f : Nat) : Status :=
  { s with pending := s.pending ++ [(iface, f)] }

/-- The status with `iface` determined with outcome `err`: no longer fetching, and ready. -/
def markReady (s : Status) (iface : String) (err : Option String) : Status :=
  { pending := s.pending.filter (·.1 != iface)
    ready := if s.isReady iface then s.ready.map (fun e => if e.1 == iface then (iface, err) else e)
      else s.ready ++ [(iface, err)] }

end Status

/-- A handle that cancels the pending waiters registered with it when closed. -/
structure Owner where
  waiters : List Nat := []
  closed : Bool := false
  deriving Inhabited

namespace Owner

/-- The owner tracking one more waiter. -/
def track (o : Owner) (w : Nat) : Owner := { o with waiters := o.waiters ++ [w] }

/-- The owner no longer tracking the first occurrence of a waiter. -/
def untrack (o : Owner) (w : Nat) : Owner := { o with waiters := o.waiters.erase w }

/-- How many waiters the owner still tracks. -/
def pendingCount (o : Owner) : Nat := o.waiters.length

end Owner

/-- A count of events still to come; it reaches zero once. -/
structure Countdown where
  remaining : Nat
  deriving Inhabited

/-- One event counted: the countdown after it, and whether this event brought it to zero.
Events past zero change nothing and report false. -/
def Countdown.tick (c : Countdown) : Countdown × Bool :=
  match c.remaining with
  | 0 => (c, false)
  | n + 1 => (⟨n⟩, n == 0)

end Readiness

end MissionControl
