import MissionControl.Request.Notation
import MissionControl.Bus.Properties
import MissionControl.Bus.Signal
import MissionControl.Client.Filter
import MissionControl.Config.Service

/-!
# Answers of the stateless requests

Each request here reads its fields, calls one function of the library and writes its result:
client names, channel filter scores, property getters, match rules, retry delays, log levels,
configuration validation and the names of connection states.
-/

namespace MissionControl

namespace Request

/-- The error kind that names an invalid configuration's sentinel. -/
def ConfigError.kind : ConfigError → String
  | .clientPrefixShape _ => "ErrInvalidClientPrefix"
  | .negativeDelay | .initialBeyondMax _ _ | .negativeAttempts _ => "ErrInvalidBackoff"
  | .unknownLogLevel _ => "ErrInvalidLogLevel"

/-- The answer of an invalid configuration. -/
def configErrorAnswer (e : ConfigError) : Json := errorAnswer (ConfigError.kind e) e.message

/-- A double as a JSON number; JSON has no number for not-a-number or the infinities, so
those are refused with the encoder's message. -/
def floatJson (x : Float) : Except String Json :=
  if x.isNaN || x.isInf then .error ("json: unsupported value: " ++ Number.general x)
  else .ok (.num (Number.json x))

/-- A configuration as an answer, or why it cannot be written. -/
def configJson (cfg : ServiceConfig) : Except String Json := do
  let multiplier ← floatJson cfg.backoff.multiplier
  pure (.obj [("bus", .str cfg.bus), ("client_prefix", .str cfg.clientPrefix),
    ("metrics_addr", .str cfg.metricsAddr), ("connect_attempts", .ofInt cfg.connectAttempts),
    ("backoff", .obj [("initial_ns", .ofInt cfg.backoff.initial.nanos),
      ("multiplier", multiplier),
      ("max_ns", .ofInt cfg.backoff.max.nanos), ("jitter", .bool cfg.backoff.jitter)]),
    ("log_level", .str cfg.logLevel)])

/-- The answer of an accepted configuration; one that cannot be written is answered with the
encoder's error. -/
def acceptedAnswer (cfg : ServiceConfig) : Json :=
  match configJson cfg with
  | .ok c => .obj [("ok", .bool true), ("config", c)]
  | .error m => errorAnswer "encode" m

/-- The answer to a configuration that may be invalid. -/
def validatedAnswer (cfg : ServiceConfig) (wrap : ConfigError → Json) : Json :=
  match cfg.validate with
  | .ok () => acceptedAnswer cfg
  | .error e => wrap e

/-- The retry backoff of a request object, over the default one. -/
def decodeBackoff (j : Json) (base : Backoff) : Decode Backoff := do
  let initial ← intField j "initial_ns" base.initial.nanos
  let multiplier ← floatField j "multiplier" base.multiplier
  let max ← intField j "max_ns" base.max.nanos
  let jitter ← boolField j "jitter" base.jitter
  pure ⟨⟨initial⟩, multiplier, ⟨max⟩, jitter⟩

/-- A service configuration: the given fields over the defaults. -/
def decodeServiceConfig (j : Json) : Decode ServiceConfig := do
  let d := ServiceConfig.default
  let bus ← strField j "bus" d.bus
  let clientPrefix ← strField j "client_prefix" d.clientPrefix
  let metricsAddr ← strField j "metrics_addr" d.metricsAddr
  let connectAttempts ← intField j "connect_attempts" d.connectAttempts
  let backoff ← match j.field? "backoff" with
    | some b => decodeBackoff b d.backoff
    | none => pure d.backoff
  let logLevel ← strField j "log_level" d.logLevel
  pure ⟨bus, clientPrefix, metricsAddr, connectAttempts, backoff, logLevel⟩

/-- A match rule of a request. -/
def decodeMatchRule (j : Json) : Decode MatchRule := do
  pure { sender := ← strField j "sender", path := ← strField j "path",
         interface := ← strField j "interface", member := ← strField j "member",
         arg0 := ← strField j "arg0" }

/-- A signal of a request. -/
def decodeSignal (j : Json) : Decode Signal := do
  let body ← listField j "body"
  pure { sender := ← strField j "sender", path := ← strField j "path",
         name := ← strField j "name", body := ← decodeItems body }

/-- The filters of a request: a list of property maps (an absent one reads as empty). -/
def decodeFilters (j : Json) : Decode (List Properties) := do
  let fs ← listField j "filters"
  fs.mapM fun f => do
    let p ← decodeProps f
    pure (p.getD [])

/-- `{"value", "ok"}` of a getter. -/
def getterAnswer (value : Json) (ok : Bool) : Json := .obj [("value", value), ("ok", .bool ok)]

/-- The answer of a property getter. -/
def propsAnswer (j : Json) : Decode Json := do
  let p? ← propsField j "props"
  let p := p?.getD []
  let getter ← strField j "getter"
  let key ← strField j "key"
  if getter = "string" then
    let v := p.string? key
    pure (getterAnswer (.str (v.getD "")) v.isSome)
  else if getter = "bool" then
    let v := p.bool? key
    pure (getterAnswer (.bool (v.getD false)) v.isSome)
  else if getter = "uint32" then
    let v := p.uint32? key
    pure (getterAnswer (.ofNat (v.getD 0)) v.isSome)
  else if getter = "strings" then
    match p.strings? key with
    | some xs => pure (getterAnswer (encodeValue (.strs xs)) true)
    | none => pure (getterAnswer (encodeValue (.strs none)) false)
  else if getter = "maps" then
    match p.maps? key with
    | some ms => pure (getterAnswer (.arr (ms.map encodePropsOpt)) true)
    | none => pure (getterAnswer .null false)
  else if getter = "map" then
    match p.map? key with
    | some m => pure (getterAnswer (encodePropsOpt m) true)
    | none => pure (getterAnswer .null false)
  else if getter = "clone" then pure (.obj [("value", encodePropsOpt p?)])
  else if getter = "channel_type" then
    pure (.obj [("value", .str ((p.string? "org.freedesktop.Telepathy.Channel.ChannelType").getD ""))])
  else throw ("unknown getter " ++ Text.quote getter)

/-- The name of a connection state number. -/
def stateName (n : Int) : String :=
  if n = 0 then "idle" else if n = 1 then "connecting" else if n = 2 then "connected"
  else if n = 3 then "rejected" else "state(" ++ toString n ++ ")"

/-- The answers of the stateless requests, by operation name. -/
def pureAnswer? (op : String) (j : Json) : Option (Decode Json) :=
  if op = "check_valid_name" then some do
    let suffix ← strField j "suffix"
    match Client.checkName suffix with
    | .ok () => pure (.obj [("ok", .bool true)])
    | .error e => pure (errorAnswer "ErrInvalidName" e.message)
  else if op = "has_client_prefix" then some do
    let name ← strField j "name"
    pure (.obj [("result", .bool (Client.isClientName name))])
  else if op = "object_path_for_name" then some do
    let name ← strField j "name"
    pure (.obj [("path", .str (objectPathForName name))])
  else if op = "match_filters" then some do
    let p ← propsField j "props"
    let filters ← decodeFilters j
    let assume ← boolField j "assume_requested"
    pure (.obj [("quality", .ofNat (Client.matchFilters (p.getD []) filters assume))])
  else if op = "props" then some (propsAnswer j)
  else if op = "match" then some do
    let rule ← decodeMatchRule ((j.field? "match").getD (.obj []))
    let sig ← decodeSignal ((j.field? "signal").getD (.obj []))
    pure (.obj [("matches", .bool (rule.selects sig))])
  else if op = "backoff" then some do
    let b ← decodeBackoff j Backoff.default
    let attempt ← intField j "attempt" 1
    pure (.obj [("delay_ns", .ofInt (b.delay attempt).nanos)])
  else if op = "parse_level" then some do
    let raw ← strField j "raw"
    let (l, ok) := Level.parse raw
    pure (.obj [("level", .str l.name), ("value", .ofInt l.number), ("ok", .bool ok)])
  else if op = "validate_config" then some do
    let cfg ← decodeServiceConfig j
    pure (validatedAnswer cfg configErrorAnswer)
  else if op = "account_state" then some do
    let v ← intField j "value"
    pure (.obj [("state", .str (stateName v))])
  else none

end Request

end MissionControl
