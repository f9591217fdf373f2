import MissionControl.Config.Service
import MissionControl.Toml.Document
import MissionControl.Text.Blank

/-!
# Loading the service configuration from a file

A configuration file is a TOML document whose top-level keys overlay the defaults:

| key                | value   | use                                  |
|--------------------|---------|--------------------------------------|
| `bus`              | string  | trimmed                              |
| `client_prefix`    | string  | trimmed                              |
| `metrics_addr`     | string  | trimmed                              |
| `connect_attempts` | integer | as is                                |
| `backoff_initial`  | string  | trimmed, read as a duration          |
| `backoff_max`      | string  | trimmed, read as a duration          |
| `backoff_jitter`   | boolean | as is                                |
| `log_level`        | string  | trimmed                              |

A top-level key takes the setting whose name equals it, or else the one whose name equals it
up to case (Unicode simple case folding, so the Kelvin sign folds to `k` and the long s to
`s`); its value must then be of the setting's kind. Only a key spelled exactly as the setting
overrides the default, though: a key that matches up to case only is accepted and ignored.

Loading fails, in this order: when the file is missing or is not a document whose settings have
the right kinds; when the document has keys that set nothing (every key path listed by the
document and not taken by a setting, in sorted order); when a duration does not read; when the
resulting configuration is invalid.
-/

namespace MissionControl

/-- The kind of value a setting takes. -/
inductive SettingKind where
  | text
  | count
  | flag
  deriving BEq

/-- The settings of a configuration file with the kind of value each takes. -/
def settingKinds : List (String × SettingKind) :=
  [("bus", .text), ("client_prefix", .text), ("metrics_addr", .text),
    ("connect_attempts", .count), ("backoff_initial", .text), ("backoff_max", .text),
    ("backoff_jitter", .flag), ("log_level", .text)]

/-- A character under simple case folding, for the characters setting names can fold to. -/
def foldKeyChar (c : Char) : Char :=
  if 'A' ≤ c && c ≤ 'Z' then Char.ofNat (c.toNat + 32)
  else if c == '\u212A' then 'k'
  else if c == '\u017F' then 's'
  else c

/-- Whether a key equals a setting's name up to case. -/
def equalFold (name key : String) : Bool :=
  name.length == key.length &&
    (name.toList.zip key.toList).all fun (a, b) => foldKeyChar a == foldKeyChar b

/-- The setting a top-level key takes, if any. -/
def settingFor? (key : String) : Option (String × SettingKind) :=
  match settingKinds.find? (·.1 == key) with
  | some s => some s
  | none => settingKinds.find? fun s => equalFold s.1 key

/-- The name of a setting's kind in a mismatch message. -/
def SettingKind.name : SettingKind → String
  | .text => "string"
  | .count => "integer"
  | .flag => "boolean"

/-- Whether a value is of a setting's kind. -/
def SettingKind.accepts : SettingKind → Toml.Value → Bool
  | .text, .string _ => true
  | .count, .integer _ => true
  | .flag, .boolean _ => true
  | _, _ => false

/-- Why a configuration file does not load. -/
inductive LoadError where
  /-- Missing, not a document, or a setting of the wrong kind; `reason` says which. -/
  | unreadable (path reason : String)
  | unknownKeys (path : String) (keys : List String)
  | badDuration (key : String) (e : Duration.ReadError)
  | invalid (path : String) (e : ConfigError)

/-- The message of a load error. -/
def LoadError.message : LoadError → String
  | .unreadable path reason => "config load failed (" ++ path ++ "): " ++ reason
  | .unknownKeys path keys =>
    "config parse failed (" ++ path ++ "): unknown keys " ++ ", ".intercalate keys
  | .badDuration key e => "parse " ++ key ++ ": " ++ e.message
  | .invalid path e => "config invalid (" ++ path ++ "): " ++ e.message

/-- Why the value of top-level key `key` does not suit a setting of kind `kind`: the message
names the line where the key was defined, when the document defines it on a line of its own
(a table made only on the way to a deeper key has none). -/
def mismatchReason (doc : Toml.Document) (key : String) (kind : SettingKind) (v : Toml.Value) :
    String :=
  let text := Toml.keyText [key]
  let place := match doc.positions.lookup text with
    | some line => "toml: line " ++ toString line ++ " (" ++ text ++ "): "
    | none => "toml: (" ++ text ++ ") "
  place ++ "incompatible types: TOML value has type " ++ v.typeName ++ "; destination has type " ++
    kind.name

/-- The key texts the settings take: the top-level keys whose values have the right kind; the
reason of the first key, in document order, that takes a setting with a value of another kind. -/
def takenKeys (doc : Toml.Document) : Except String (List String) :=
  doc.root.foldlM (fun acc (k, v) =>
    match settingFor? k with
    | some (_, kind) =>
      if kind.accepts v then .ok (acc ++ [Toml.keyText [k]]) else .error (mismatchReason doc k kind v)
    | none => .ok acc) []

/-- The value of the key spelled exactly `name`, when the document defines it. -/
def definedValue? (root : Toml.Table) (name : String) : Option Toml.Value := root.lookup name

/-- A trimmed string setting over a default. -/
def textSetting (root : Toml.Table) (name : String) (default : String) : String :=
  match definedValue? root name with
  | some (.string s) => Text.trim s
  | _ => default

/-- A duration setting over a default. -/
def durationSetting (root : Toml.Table) (name : String) (default : Duration) :
    Except LoadError Duration :=
  match definedValue? root name with
  | some (.string s) =>
    match Duration.parse (Text.trim s) with
    | .ok d => .ok d
    | .error e => .error (.badDuration name e)
  | _ => .ok default

/-- The configuration a document sets over the defaults, validated; `path` names the file. -/
def configOfDocument (path : String) (doc : Toml.Document) : Except LoadError ServiceConfig := do
  let taken ← match takenKeys doc with
    | .ok keys => pure keys
    | .error reason => throw (.unreadable path reason)
  let unknown := doc.keys.filter fun k => !taken.contains k
  if !unknown.isEmpty then throw (.unknownKeys path (unknown.mergeSort fun a b => a ≤ b))
  let base := ServiceConfig.default
  let root := doc.root
  let initial ← durationSetting root "backoff_initial" base.backoff.initial
  let max ← durationSetting root "backoff_max" base.backoff.max
  let attempts := match definedValue? root "connect_attempts" with
    | some (.integer n) => n
    | _ => base.connectAttempts
  let jitter := match definedValue? root "backoff_jitter" with
    | some (.boolean b) => b
    | _ => base.backoff.jitter
  let cfg : ServiceConfig := {
    bus := textSetting root "bus" base.bus
    clientPrefix := textSetting root "client_prefix" base.clientPrefix
    metricsAddr := textSetting root "metrics_addr" base.metricsAddr
    connectAttempts := attempts
    backoff := { base.backoff with initial, max, jitter }
    logLevel := textSetting root "log_level" base.logLevel }
  match cfg.validate with
  | .ok () => pure cfg
  | .error e => throw (.invalid path e)

/-- Loads the configuration file at `path`: `source` is its text, or why it cannot be read. -/
def loadConfig (path : String) (source : Except String String) : Except LoadError ServiceConfig :=
  match source with
  | .error reason => .error (.unreadable path reason)
  | .ok t =>
    match Toml.parse t with
    | .ok doc => configOfDocument path doc
    | .error e => .error (.unreadable path e.text)

end MissionControl
