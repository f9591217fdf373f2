import MissionControl.Request.Files
import MissionControl.Hub.Transport
import MissionControl.Cli.Missionctl

/-!
# Requests that run the service

`service` runs the service with a configuration against the bus daemon (`fake` is its
address), stopping it after a number of answered calls (`stop_after` > 0), before it starts
(< 0) or never (0). `missionctl` runs the service command in a scratch directory holding the
given files, with an environment in which the process log is disabled unless the request says
otherwise; `@BUS@` is the daemon's address when a daemon runs, and the command is stopped
after `term_after` answered calls when that is positive.
-/

namespace MissionControl

namespace Request

/-- The kind of a run error. -/
def runErrorKind : Service.RunError → String
  | .invalid e => ConfigError.kind e
  | .failed _ => "error"

/-- When a run is told to stop, by a request's count. -/
def stopOf (n : Int) (negativeEarly : Bool) : Service.Stop :=
  if n > 0 then .afterAnswers n.toNat
  else if n < 0 && negativeEarly then .beforeRun
  else .never

/-- How long a run may go on before it is given up on. -/
def childLimit : Duration := ⟨5 * Duration.second⟩

/-- The answer to a `service` request: a run that would still be going after the limit is
reported as timed out. -/
def serviceAnswer (j : Json) : Decode Json := do
  let cfg ← decodeServiceConfig j
  let script ← match j.field? "bus_script" with
    | some s => Hub.decodeScript s
    | none => pure {}
  let stop := stopOf (← intField j "stop_after") true
  let report ← boolField j "report_calls"
  let e := Service.run cfg { daemon := some Hub.fakeAddress, script, stop }
  if e.span.outlasts childLimit then return .obj [("error", .str "timeout")]
  let err : List (String × Json) := match e.error with
    | some r => [("err", .str r.message), ("kind", .str (runErrorKind r))]
    | none => [("err", .null)]
  pure (.obj (err ++ if report then [("bus", .ofStrings e.calls)] else []))

/-- The address that stands for the daemon in a command's arguments, environment and files. -/
def busMark : String := "@BUS@"

/-- The answer to a `missionctl` request: a command that would still be running after the
limit is reported as timed out. -/
def controlAnswer (j : Json) : Decode Json := do
  let args ← argsField j
  let given ← Hub.decodeEnv j "env"
  let env := if given.any (·.1 == "MISSIONCTL_LOG_LEVEL") then given
    else given ++ [("MISSIONCTL_LOG_LEVEL", "disabled")]
  let t := Files.Tree.ofFiles (← filesField j "files")
  let daemon := if ← boolField j "fake_bus" then some (Wire.DaemonName.mark busMark) else none
  let script ← match j.field? "bus_script" with
    | some s => Hub.decodeScript s
    | none => pure {}
  let termAfter ← intField j "term_after"
  let (o, calls) := Cli.runControl args env t { daemon, script, stop := stopOf termAfter false }
  if o.span.outlasts childLimit then return errorAnswer "child" "timeout"
  pure (.obj ([("code", .ofNat o.code), ("stdout", .str o.stdout), ("stderr", .str o.stderr)] ++
    if termAfter > 0 then [("bus", .ofStrings calls)] else []))

end Request

end MissionControl
