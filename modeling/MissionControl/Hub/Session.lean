import MissionControl.Hub.Run

/-!
# Sessions

A session runs its steps one after another on one world and reports, for each step, its answer,
the notes taken while it ran and a snapshot of the world after it. A step that stops with a
fault reports the fault as its answer and leaves the world as the fault found it; the next step
goes on from there.

Three kinds of session differ only in how the world starts: a bare broker; a broker that knows
the account interfaces; and a broker that knows the client interfaces (unless told not to)
together with a client registry for a name prefix (the client prefix when empty).
-/

namespace MissionControl

namespace Hub

open Request

/-- The steps one top-level step may take before it is stopped. -/
def stepBudget : Nat := 1000000

/-- The answer reporting a fault. -/
def faultAnswer : Fault → Json
  | .panic m => errorAnswer "panic" m
  | .exhausted => errorAnswer "panic" "step budget exhausted"

/-- One top-level step run on a world: its report and the world after it. -/
def runTop (h : World) (j : Json) : Json × World :=
  let (r, h') := match (runStep stepBudget 0 j).run { h with notes := #[] } with
    | .ok r h' => (r, h')
    | .error f h' => (faultAnswer f, h')
  (.obj [("r", r), ("ev", .arr (Note.reportAll h'.notes.toList)), ("st", snapshot h')], h')

/-- The reports of steps run one after another from a world. -/
def runAll (h : World) : List Json → List Json
  | [] => []
  | j :: rest => let (e, h') := runTop h j; e :: runAll h' rest

/-- The world a kind of session starts from. -/
def initial (kind : String) (j : Json) : Decode World := do
  if kind == "account" then
    pure { descriptors := (({} : Readiness.DescriptorTable).addAll Account.objectType accountDescriptors).1 }
  else if kind == "registry" then
    let bare ← boolField j "no_descriptors"
    let pre ← strField j "prefix"
    let descriptors := if bare then {} else
      (({} : Readiness.DescriptorTable).addAll Client.objectType clientDescriptors).1
    pure { descriptors, registry := some { clientPrefix := if pre.isEmpty then Client.nameBase else pre } }
  else pure {}

/-- The answer of a session request of the given kind. -/
def sessionAnswer (kind : String) (j : Json) : Decode Json := do
  let h ← initial kind j
  let steps ← listField j "steps"
  pure (.obj [("steps", .arr (runAll h steps))])

end Hub

end MissionControl
