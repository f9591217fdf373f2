import MissionControl.Event.Handlers
import MissionControl.Request.Notation

/-!
# Handler list sessions

A session drives one handler list of text events. A step connects a handler (which, when
called, notes its id and the event and then runs its own steps one level deeper), disconnects
one, emits an event, clears the list or asks its size. Handlers called at `maxLevels` levels of
nesting still note the event but run nothing. A handler's steps are read only when they run; one
that cannot be read ends the top-level step with its fault.

Each step reports its answer, the notes taken while it ran and the list's size after it.
-/

namespace MissionControl

namespace Event

open Request

/-- Handler calls nest at most this deep. -/
def maxLevels : Nat := 8

/-- A session's state: the list, whose handlers hold their steps, and the notes taken. -/
structure Session where
  handlers : HandlerList (List Json) := {}
  notes : Array Json := #[]
  deriving Inhabited

/-- Computations on a session. A step that cannot be read stops the whole top-level step,
however deep it was reached, and leaves what happened before it in place. -/
abbrev SessionM := ExceptT String (StateM Session)

/-- The step kind a step document names. -/
def kindOf (j : Json) : String :=
  match j.field? "do" with
  | some (.str s) => s
  | _ => ""

mutual
/-- One step at `depth`; its answer. -/
def runStep : Nat → Nat → Json → SessionM Json
  | 0, _, _ => throw "nesting too deep"
  | n + 1, depth, j => do
    let kind := kindOf j
    if kind == "connect" then
      let actions ← listField j "actions"
      let id ← modifyGet fun s =>
        let (l, id) := s.handlers.connect actions
        (id, { s with handlers := l })
      return .obj [("id", .ofNat id)]
    else if kind == "disconnect" then
      let id ← intField j "id"
      modify fun s => { s with handlers := s.handlers.disconnect id.toNat }
      return .null
    else if kind == "emit" then
      let v ← strField j "v"
      (← get).handlers.emit (return (← get).handlers) (callHandler n depth) v
      return .null
    else if kind == "clear" then
      modify fun s => { s with handlers := s.handlers.clear }
      return .null
    else if kind == "len" then return .obj [("len", .ofNat (← get).handlers.size)]
    else throw ("unknown step " ++ Text.quote kind)

/-- A handler called with an event: it notes its id and the event, then runs its steps one
level deeper, unless calls are nested `maxLevels` deep. -/
def callHandler : Nat → Nat → Nat → List Json → String → SessionM Unit
  | 0, _, _, _, _ => pure ()
  | n + 1, depth, id, actions, v => do
    modify fun s => { s with notes := s.notes.push (.obj [("h", .ofNat id), ("v", .str v)]) }
    if depth < maxLevels then runEach n (depth + 1) actions

/-- Steps run in turn at `depth`. -/
def runEach : Nat → Nat → List Json → SessionM Unit
  | 0, _, _ => pure ()
  | _ + 1, _, [] => pure ()
  | n + 1, depth, j :: rest => do
    let _ ← runStep n depth j
    runEach n depth rest
end

/-- The steps one top-level step may take. -/
def stepBudget : Nat := 1000000

/-- The reports of steps run one after another. -/
def runAll (s : Session) : List Json → List Json
  | [] => []
  | j :: rest =>
    let (r, s') := ((runStep stepBudget 0 j).run).run { s with notes := #[] }
    let r := match r with
      | .ok a => a
      | .error m => badInput m
    .obj [("r", r), ("ev", .arr s'.notes.toList), ("len", .ofNat s'.handlers.size)] :: runAll s' rest

/-- The answer of a handler list session. -/
def sessionAnswer (j : Json) : Decode Json := do
  let steps ← listField j "steps"
  pure (.obj [("steps", .arr (runAll {} steps))])

end Event

end MissionControl
