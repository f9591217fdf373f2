import MissionControl.Hub.Link
import MissionControl.Config.Service
import MissionControl.Http.Listen
import MissionControl.Log.Event

/-!
# A run of the service

The service validates its configuration, then dials the bus with retries, logging each failed
attempt with the delay before the next. Connected, it builds its core (the client and account
interfaces, a broker and the client registry for its prefix) and starts the metrics endpoint
when an address is configured (a listener that cannot start stops the run). The dispatch loop
runs the core's start and then whatever the bus hands it, until the run is told to stop; then
the core closes, and the connection.

A run is told to stop before it starts, after the daemon has answered a number of calls, or
never (it then runs until nothing is left to do). Stopping early still runs the core's start,
which was handed to the loop first; stopping after a number of answers lets the work running at
that moment finish. A run stopped before it starts that cannot connect at once gives up with the
cancellation.

The run reports its error, the calls the daemon received, sorted, and the log it wrote: the
failed attempts, the connection, the endpoint's failure, the warnings of the registry and the
broker, and the stop.

It also reports how long it goes on by itself. Giving up takes the delays after every failed
attempt, jitter counted at its mean; retrying without a bound never gives up. A connected run
that waits to be told to stop, with no endpoint failure to end it and no stop on its way (the
daemon never answers as many calls as the stop waits for), goes on until something outside
stops it.
-/

namespace MissionControl

namespace Service

open Hub

/-- When a run is told to stop. -/
inductive Stop where
  | never
  | beforeRun
  | afterAnswers (n : Nat)
  deriving Inhabited

/-- What surrounds a run: the environment, the bus daemon's address when one runs, the
daemon's script, and when the run is told to stop. -/
structure Surroundings where
  env : List (String × String) := []
  daemon : Option Wire.DaemonName := none
  script : Wire.Script := {}
  stop : Stop := .never
  deriving Inhabited

/-- Why a run failed. -/
inductive RunError where
  | invalid (e : ConfigError)
  | failed (message : String)

/-- The message of a run error. -/
def RunError.message : RunError → String
  | .invalid e => e.message
  | .failed m => m

/-- How a run ended: its error, the calls the daemon received (sorted), the level the
configuration sets for the process log, and the log events written, in order. -/
structure Ending where
  error : Option RunError := none
  calls : List String := []
  level : Option String := none
  events : List Log.Event := []
  span : Span := .within ⟨0⟩

/-- A number of milliseconds as the log writes a duration: a decimal without trailing zeros. -/
def millisText (d : Duration) : String :=
  let n := d.nanos.natAbs
  let whole := toString (n / Duration.millisecond)
  let frac := (toString (n % Duration.millisecond + Duration.millisecond)).toList.drop 1
  let frac := String.ofList (frac.reverse.dropWhile (· == '0')).reverse
  (if d.nanos < 0 then "-" else "") ++ whole ++ (if frac.isEmpty then "" else "." ++ frac)

/-- The fields of the service's own log context. -/
def serviceContext : List (String × Log.FieldValue) := [("component", .text "daemon")]

/-- The event of a failed connection attempt. -/
def attemptFailed (cfg : ServiceConfig) (e : String) (attempt : Nat) : Log.Event :=
  { level := .warn, message := "bus connect failed",
    fields := serviceContext ++ [("error", .text e), ("attempt", .number (toString attempt)),
      ("retry_in", .number (millisText (cfg.backoff.delay attempt)))] }

/-- The event of a warning noted by the core. -/
def warningEvent (components : List String) (e : String) (fields : List (String × String))
    (message : String) : Log.Event :=
  { level := .warn, message,
    fields := components.map (fun c => ("component", .text c)) ++ [("error", .text e)] ++
      fields.map fun (k, v) => (k, .text v) }

/-- The event of the registry giving back a share of its startup lock with none left. -/
def belowZeroEvent : Log.Event :=
  { level := .error, message := "startup lock released below zero",
    fields := registryLog.map (fun c => ("component", .text c)) ++ [("startup_lock", .number "0")] }

/-- The log events of the notes taken, in order. -/
def noteEvents : List Note → List Log.Event
  | [] => []
  | .warned cs e fs m :: rest => warningEvent cs e fs m :: noteEvents rest
  | .releasedBelowZero :: rest => belowZeroEvent :: noteEvents rest
  | .unordered ns :: rest => noteEvents ns ++ noteEvents rest
  | _ :: rest => noteEvents rest

/-- The connected part of a run: the core, the endpoint and the loop, then closing; the
endpoint's failure, if any. -/
def serve (cfg : ServiceConfig) (stop : Stop) (addr : String) : HubM (Option String) := do
  let descriptors := ((({} : Readiness.DescriptorTable).addAll Client.objectType
    clientDescriptors).1.addAll Account.objectType accountDescriptors).1
  let reg : Registry := { clientPrefix := if cfg.clientPrefix.isEmpty then Client.nameBase
    else cfg.clientPrefix, listening := false }
  modify fun h => { h with descriptors := descriptors, registry := some reg }
  let endpoint := if addr.isEmpty then none else Http.listenProblem addr
  startRegistry workBudget
  match endpoint, stop with
  | some _, _ | none, .beforeRun => pure ()
  | none, .afterAnswers n => drainPosted drainBudget (some n)
  | none, .never => drainPosted drainBudget none
  closeRegistry
  closeLink
  return endpoint

/-- Runs the service with a configuration in its surroundings. -/
def run (cfg : ServiceConfig) (s : Surroundings) : Ending :=
  match cfg.validate with
  | .error e => { error := some (.invalid e) }
  | .ok () =>
    let level := if cfg.logLevel.isEmpty then none else some cfg.logLevel
    let cancelled := match s.stop with
      | .beforeRun => true
      | _ => false
    let (failures, outcome) := retryPlan s.env s.daemon cfg.bus cfg.connectAttempts cancelled
    let attempts := (failures.zipIdx 1).map fun (e, k) => attemptFailed cfg e k
    match outcome with
    | .error e =>
      let span := if cfg.connectAttempts ≤ 0 && !cancelled then .endless
        else if cancelled then .within ⟨0⟩
        else .within (cfg.backoff.typicalWait failures.length)
      { error := some (.failed e), level, events := attempts, span }
    | .ok () =>
      let addr := Text.trim cfg.metricsAddr
      let act : HubM (String × Option String) := do
        let u ← greet
        let endpoint ← serve cfg s.stop addr
        return (u, endpoint)
      let start : World := { daemon := { script := s.script } }
      let ((unique, endpoint), h) := match act.run start with
        | .ok r h => (r, h)
        | .error _ h => (("", none), h)
      let connected : Log.Event := {
        level := .info, message := "bus connected",
        fields := serviceContext ++ [("bus", .text cfg.bus), ("unique_name", .text unique),
          ("connect_time", .number "0")] }
      let listening : List Log.Event := if addr.isEmpty then [] else
        [{ level := .info, message := "metrics listening",
           fields := serviceContext ++ [("addr", .text addr)] }]
      let endpointFailed : List Log.Event := match endpoint with
        | some e => [{
            level := .error, message := "metrics server failed",
            fields := serviceContext ++ [("error", .text e), ("addr", .text addr)] }]
        | none => []
      let stopFields : List (String × Log.FieldValue) := match endpoint with
        | some e => [("error", .text e)]
        | none => []
      let stopped : Log.Event := {
        level := .info, message := "daemon stopped", fields := serviceContext ++ stopFields }
      let waitsForStop := match s.stop with
        | .never => true
        | .afterAnswers n => h.daemon.answered < n
        | .beforeRun => false
      { error := endpoint.map .failed
        span := if endpoint.isNone && waitsForStop then .endless else .within ⟨0⟩
        calls := h.daemon.log.toList.mergeSort fun a b => a ≤ b
        level := level
        events := attempts ++ [connected] ++ listening ++ noteEvents h.notes.toList ++
          endpointFailed ++ [stopped] }

end Service

end MissionControl
