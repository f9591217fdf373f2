import MissionControl.Bus.Backoff
import MissionControl.Client.Name
import MissionControl.Log.Level

/-!
# Service configuration

The daemon is configured by the bus to join, the client prefix, the address of the metrics
endpoint (empty: none), the number of connection attempts (0: retry forever), the retry
backoff and the log level (empty: keep the default).

`validate` reports the first fault in this order: a client prefix that does not end with a
dot or that starts with one; a negative initial or maximum delay; an initial delay beyond a
positive maximum; a negative number of attempts; a non-empty log level that names no level.
-/

namespace MissionControl

/-- The configuration of the daemon. -/
structure ServiceConfig where
  bus : String
  clientPrefix : String
  metricsAddr : String
  connectAttempts : Int
  backoff : Backoff
  logLevel : String
  deriving Inhabited

/-- Why a service configuration is invalid. -/
inductive ConfigError where
  | clientPrefixShape (given : String)
  | negativeDelay
  | initialBeyondMax (initial max : Duration)
  | negativeAttempts (n : Int)
  | unknownLogLevel (raw : String)
  deriving Repr

namespace ConfigError

/-- The message of an invalid configuration. -/
def message : ConfigError → String
  | .clientPrefixShape p => "daemon: invalid client prefix: " ++ Text.quote p ++ " must end with '.'"
  | .negativeDelay => "daemon: invalid connect backoff: negative delay"
  | .initialBeyondMax i m =>
    "daemon: invalid connect backoff: initial " ++ i.text ++ " exceeds max " ++ m.text
  | .negativeAttempts n => "daemon: invalid connect backoff: connect attempts " ++ toString n
  | .unknownLogLevel raw => "daemon: invalid log level: " ++ Text.quote raw

end ConfigError

namespace ServiceConfig

/-- The session bus, the standard client prefix, no metrics, five attempts, the default
backoff and no log level. -/
def default : ServiceConfig :=
  ⟨"session", Client.nameBase, "", 5, Backoff.default, ""⟩

/-- The first fault of a configuration. -/
def validate (cfg : ServiceConfig) : Except ConfigError Unit :=
  if !cfg.clientPrefix.endsWith "." || cfg.clientPrefix.startsWith "." then
    .error (.clientPrefixShape cfg.clientPrefix)
  else if cfg.backoff.initial.nanos < 0 || cfg.backoff.max.nanos < 0 then .error .negativeDelay
  else if cfg.backoff.max.nanos > 0 && cfg.backoff.initial.nanos > cfg.backoff.max.nanos then
    .error (.initialBeyondMax cfg.backoff.initial cfg.backoff.max)
  else if cfg.connectAttempts < 0 then .error (.negativeAttempts cfg.connectAttempts)
  else if !cfg.logLevel.isEmpty && (Level.ofWord? cfg.logLevel).isNone then
    .error (.unknownLogLevel cfg.logLevel)
  else .ok ()

end ServiceConfig

end MissionControl
