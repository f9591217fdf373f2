import MissionControl.Loop.Queue
import MissionControl.Request.Notation

/-!
# Dispatch loop sessions

A session drives one dispatch loop. Steps post work, drain the queue, stop the loop, or run it.
Posted work notes its id when it runs and then does its own steps: posting more work (noting
the outcome) or stopping the loop. Those steps are read only when the work runs; one that cannot
be read ends the top-level step with its fault.

The loop runs at most once, and only once stopped: running drains the queue, and drains again
when woken by the stop, so work posted while stopping cannot slip through. Asking to run a loop
that is not stopped queues an empty probe, which later drains count. A run on a cancelled
context is allowed only as the first step: it finds the queue empty, stops the loop and fails
with the cancellation.
-/

namespace MissionControl

namespace Loop

open Request

/-- Work on the queue: session work with its id and steps, or an empty probe. -/
inductive Work where
  | script (id : Int) (actions : List Json)
  | probe
  deriving Inhabited

/-- A session's state. -/
structure Session where
  queue : Queue Work := {}
  ran : Bool := false
  notes : Array Json := #[]
  deriving Inhabited

/-- Computations on a session. A step of posted work that cannot be read stops the whole
top-level step, and leaves what happened before it in place. -/
abbrev SessionM := ExceptT String (StateM Session)

/-- A note taken. -/
def note (j : Json) : SessionM Unit := modify fun s => { s with notes := s.notes.push j }

/-- Work posted; the error text when the loop is stopped. -/
def postWork (w : Work) : SessionM (Option String) := do
  match (← get).queue.post w with
  | .ok q =>
    modify fun s => { s with queue := q }
    return none
  | .error e => return some e

/-- The step kind a step document names. -/
def kindOf (j : Json) : String :=
  match j.field? "do" with
  | some (.str s) => s
  | _ => ""

/-- The steps of posted work, done when it runs; each must be an object. -/
def doActions : List Json → SessionM Unit
  | [] => pure ()
  | a :: rest => do
    let .obj _ := a | throw "actions must be objects"
    let kind := kindOf a
    if kind == "post" then
      let id ← intField a "id"
      let nothing ← boolField a "nil"
      let err ← if nothing then pure none else do
        let actions ← listField a "actions"
        postWork (.script id actions)
      note (.obj [("posted", .ofInt id), ("err", .ofOption err)])
    else if kind == "stop" then
      modify fun s => { s with queue := s.queue.stop }
    else throw ("unknown action " ++ Text.quote kind)
    doActions rest

/-- Work run. -/
def runWork : Work → SessionM Unit
  | .script id actions => do
    note (.obj [("ran", .ofInt id)])
    doActions actions
  | .probe => pure ()

/-- The size of a piece of work: one for itself and one for each node of its steps. Work posted
by running it is made of the documents of its steps, so it is smaller. -/
def Work.size : Work → Nat
  | .script _ actions => 1 + Json.itemsSize actions
  | .probe => 1

/-- The queue drained batch by batch; how many items ran, added to `count`. A batch is taken
off the queue before it runs, so work that fails drops the rest of its batch. -/
def drainFrom : Nat → Nat → SessionM Nat
  | 0, count => pure count
  | n + 1, count => do
    let (items, q) := (← get).queue.batch
    if items.isEmpty then return count
    modify fun s => { s with queue := q }
    items.forM runWork
    drainFrom n (count + items.length)

/-- The batches a drain of the session's queue may need: a batch that runs something leaves
work of smaller total size behind, so that size bounds them. -/
def drainBudget (s : Session) : Nat := (s.queue.items.map Work.size).foldr (· + ·) 0 + 1

/-- The queue drained until it is empty; how many items ran. -/
def drain : SessionM Nat := do drainFrom (drainBudget (← get)) 0

/-- The error of a run that is not allowed. -/
def badStep (message : String) : Json := errorAnswer "bad_step" message

/-- One top-level step; `first` tells whether it is the session's first. -/
def runStep (first : Bool) (j : Json) : SessionM Json := do
  let kind := kindOf j
  if kind == "post" then
    if ← boolField j "nil" then return .obj [("err", .null)]
    let id ← intField j "id"
    let actions ← listField j "actions"
    let err ← postWork (.script id actions)
    return .obj [("err", .ofOption err)]
  else if kind == "drain" then
    let n ← drain
    return .obj [("n", .ofNat n)]
  else if kind == "stop" then
    modify fun s => { s with queue := s.queue.stop }
    return .null
  else if kind == "run" then
    let s ← get
    if s.ran || !s.queue.stopped then
      let _ ← postWork .probe
      return badStep "run needs a stopped loop, once"
    modify fun s => { s with ran := true }
    let _ ← drain
    let _ ← drain
    return .obj [("err", .null)]
  else if kind == "run_cancelled" then
    if !first then return badStep "run_cancelled must be the first step"
    let _ ← drain
    modify fun s => { s with queue := s.queue.stop, ran := true }
    return .obj [("err", .str "context canceled")]
  else throw ("unknown step " ++ Text.quote kind)

/-- The reports of steps run one after another. -/
def runAll (s : Session) (first : Bool) : List Json → List Json
  | [] => []
  | j :: rest =>
    let (r, s') := ((runStep first j).run).run { s with notes := #[] }
    let r := match r with
      | .ok a => a
      | .error m => badInput m
    .obj [("r", r), ("ev", .arr s'.notes.toList)] :: runAll s' false rest

/-- The answer of a dispatch loop session. -/
def sessionAnswer (j : Json) : Decode Json := do
  let steps ← listField j "steps"
  pure (.obj [("steps", .arr (runAll {} true steps))])

end Loop

end MissionControl
