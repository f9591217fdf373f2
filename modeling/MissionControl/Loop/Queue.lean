/-!
# The dispatch queue

Work for the dispatch loop is queued and run one item at a time, first in first out. Once the
loop is stopped nothing more is queued: posting fails with `stoppedMessage`. Posting nothing
queues nothing and always succeeds.

Draining takes the whole queue as a batch and runs it, then the batch queued meanwhile, and so
on until the queue is empty; `batch` hands out one batch at a time.
-/

namespace MissionControl

namespace Loop

/-- The error of posting to a stopped loop. -/
def stoppedMessage : String := "mainloop: stopped"

/-- The queue of a dispatch loop. -/
structure Queue (α : Type) where
  items : List α := []
  stopped : Bool := false
  deriving Inhabited

namespace Queue

variable {α : Type}

/-- The queue after posting an item, or the error when the loop is stopped. -/
def post (q : Queue α) (a : α) : Except String (Queue α) :=
  if q.stopped then .error stoppedMessage else .ok { q with items := q.items ++ [a] }

/-- The queue of a stopped loop. -/
def stop (q : Queue α) : Queue α := { q with stopped := true }

/-- The next batch to run and the queue without it. -/
def batch (q : Queue α) : List α × Queue α := (q.items, { q with items := [] })

end Queue

end Loop

end MissionControl
