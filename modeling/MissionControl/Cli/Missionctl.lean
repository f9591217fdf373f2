import MissionControl.Cli.Flags
import MissionControl.Cli.Outcome
import MissionControl.Config.Load
import MissionControl.Service.Run
import MissionControl.Log.Setup
import MissionControl.Files.Tree

/-!
# The service command

`missionctl` sets up the process log for the runtime (the environment may override it), reads
its flags, and runs the service until it is told to stop.

* `-h`/`--help` prints the usage and succeeds.
* A bad command line prints the error after the command's name and exits with 2.
* The configuration starts from the defaults, takes the file named by `-c`/`--config` (trimmed;
  none when empty), then every flag given on the command line (trimmed), and must be valid; a
  failure prints the error and exits with 1.
* A failed run prints the error and exits with 1; a run that is told to stop succeeds.

Everything the command writes goes to its standard error: the process log first, then its own
message.
-/

namespace MissionControl

namespace Cli

/-- The service command's flags. -/
def controlFlags : List FlagSpec := [
  { name := "config", short := some 'c', takesText := true, usage := "path to a TOML config file" },
  { name := "bus", takesText := true,
    usage := "bus to join: \"session\", \"system\", or an address" },
  { name := "metrics-addr", takesText := true, usage := "serve /metrics and /health on this address" },
  { name := "log-level", takesText := true, usage := "trace|debug|info|warn|error" },
  { name := "help", short := some 'h', takesText := false, usage := "show help" }]

/-- The service command's usage text. -/
def controlUsage : String := "usage: missionctl [flags]\n" ++ flagUsages controlFlags

/-- The configuration a command line asks for, or why there is none: the defaults, then the
configuration file, then the flags given, validated. -/
def resolveConfig (p : Parsed) (t : Files.Tree) : Except String ServiceConfig := do
  let path := Text.trim ((p.get? "config").getD "")
  let cfg ← if path.isEmpty then pure ServiceConfig.default else
    match loadConfig path (t.source path) with
    | .ok cfg => pure cfg
    | .error e => throw e.message
  let given (name : String) (current : String) : String :=
    match p.get? name with
    | some v => Text.trim v
    | none => current
  let cfg := { cfg with
    bus := given "bus" cfg.bus
    metricsAddr := given "metrics-addr" cfg.metricsAddr
    logLevel := given "log-level" cfg.logLevel }
  match cfg.validate with
  | .ok () => pure cfg
  | .error e => throw e.message

/-- The paths the service command may read for its arguments. -/
def controlPaths (args : List String) : List String :=
  match parseFlags controlFlags args with
  | .ok p => let path := Text.trim ((p.get? "config").getD ""); if path.isEmpty then [] else [path]
  | .error _ => []

/-- The environment variables the service command reads. -/
def controlVariables : List String :=
  ["MISSIONCTL_LOG_LEVEL", "MISSIONCTL_LOG_TIMESTAMP", "MISSIONCTL_LOG_NOCOLOR",
    "MISSIONCTL_LOG_BYPASS", "NO_COLOR", "DBUS_SESSION_BUS_ADDRESS", "DBUS_SYSTEM_BUS_ADDRESS"]

/-- Runs the service command: how it ended and the calls the bus daemon received, sorted. -/
def runControl (args : List String) (env : List (String × String)) (t : Files.Tree)
    (s : Service.Surroundings) : Outcome × List String :=
  let log := (Log.ProcessLog.start env).configure .runtime env
  let fail (code : Nat) (log : Log.ProcessLog) (m : String) : Outcome :=
    { code, stderr := log.output ++ "missionctl: " ++ m ++ "\n" }
  match parseFlags controlFlags args with
  | .error .help => ({ code := 0 }, [])
  | .error (.failure m) => (fail 2 log m, [])
  | .ok p =>
    if p.get? "help" == some "true" then ({ code := 0, stderr := controlUsage }, [])
    else
      match resolveConfig p t with
      | .error m => (fail 1 log m, [])
      | .ok cfg =>
        let ending := Service.run cfg { s with env }
        let log := match ending.level with
          | some l => (log.setLevel l).1
          | none => log
        let log := ending.events.foldl Log.ProcessLog.write log
        match ending.error with
        | some e => ({ fail 1 log e.message with span := ending.span }, ending.calls)
        | none => ({ code := 0, stderr := log.output, span := ending.span }, ending.calls)

end Cli

end MissionControl
