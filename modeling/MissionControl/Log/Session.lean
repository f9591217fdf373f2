import MissionControl.Log.Setup
import MissionControl.Request.Notation

/-!
# Logging sessions

A session runs calls against a fresh process logger in a given environment: setting it up with a
profile, setting the process-wide level from a word, and logging a message at a level, through
the process logger or through a component's logger (which adds a `component` field), with string
fields in sorted order. The answer holds each call's result, what was written (timestamps
masked) and the final process-wide level.
-/

namespace MissionControl

namespace Log

open Request

/-- The level a log call names. -/
def callLevel? (word : String) : Option Level :=
  if word == "trace" then some .trace
  else if word == "debug" then some .debug
  else if word == "info" then some .info
  else if word == "warn" then some .warn
  else if word == "error" then some .error
  else none

/-- The string fields of a call, sorted by name. -/
def stringFields (j : Json) : Decode (List (String × FieldValue)) :=
  match j.field? "fields" with
  | none => pure []
  | some (.obj ms) => do
    let fs ← ms.mapM fun (k, v) => match v with
      | .str s => pure (k, FieldValue.text s)
      | _ => throw ("field " ++ k ++ " must be a string")
    pure (fs.mergeSort fun a b => a.1 ≤ b.1)
  | some _ => throw "field fields must be an object"

/-- One call; its result. -/
def runCall (env : Env) (p : ProcessLog) (j : Json) : ProcessLog × Json :=
  let kind := match j.field? "do" with
    | some (.str s) => s
    | _ => ""
  if kind == "configure" then
    match strField j "profile", intField j "profile_value" with
    | .ok name, .ok n =>
      let profile := if name == "runtime" then .runtime else if name == "test" then .test
        else Profile.ofNumber n
      (p.configure profile env, .null)
    | .error m, _ | _, .error m => (p, badInput m)
  else if kind == "set_level" then
    match strField j "raw" with
    | .ok raw =>
      let (p', ok) := p.setLevel raw
      (p', .obj [("ok", .bool ok), ("global", .str p'.level.name)])
    | .error m => (p, badInput m)
  else if kind == "log" then
    match strField j "level", strField j "msg", stringFields j, j.field? "component" with
    | .ok word, .ok msg, .ok fields, comp =>
      match callLevel? word with
      | none => (p, badInput "unknown level")
      | some level =>
        let own := match comp with
          | some (.str c) => [("component", FieldValue.text c)]
          | _ => []
        (p.write { level, fields := own ++ fields, message := msg }, .null)
    | .error m, _, _, _ | _, .error m, _, _ | _, _, .error m, _ => (p, badInput m)
  else (p, badInput ("unknown call " ++ Text.quote kind))

/-- The results of calls run one after another. -/
def runCalls (env : Env) : ProcessLog → List Json → ProcessLog × List Json
  | p, [] => (p, [])
  | p, j :: rest =>
    let (p', r) := runCall env p j
    let (p'', rs) := runCalls env p' rest
    (p'', r :: rs)

/-- The environment of a request. -/
def envField (j : Json) : Decode Env :=
  match j.field? "env" with
  | none => pure []
  | some (.obj ms) => ms.mapM fun (k, v) => match v with
    | .str s => pure (k, s)
    | _ => throw ("env " ++ k ++ " must be a string")
  | some _ => throw "field env must be an object"

/-- The answer of a logging session. -/
def sessionAnswer (j : Json) : Decode Json := do
  let env ← envField j
  let calls ← listField j "calls"
  let (p, results) := runCalls env (ProcessLog.start env) calls
  pure (.obj [("results", .arr results), ("output", .str (masked p.output)),
    ("global_level", .str p.level.name)])

end Log

end MissionControl
