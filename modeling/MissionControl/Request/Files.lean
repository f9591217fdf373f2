import MissionControl.Request.Pure
import MissionControl.Config.Load
import MissionControl.Config.Template
import MissionControl.Http.Router
import MissionControl.Cli.Configgen

/-!
# Requests on configuration files and the endpoint

`http` serves one request on the observability endpoint. `load_config` loads a configuration file: the given text written as `config.toml`, the template,
or the missing file `missing.toml`. `write_template` writes the template into a scratch
directory holding the given files and reports every file afterwards. `configgen` runs the
configuration generator on its arguments in such a directory.
-/

namespace MissionControl

namespace Request

/-- The error kind of a load error. -/
def LoadError.kind : LoadError → String
  | .unreadable _ _ => "config_load"
  | .unknownKeys _ _ | .badDuration _ _ => "error"
  | .invalid _ e => ConfigError.kind e

/-- The message a load error is reported with: an unreadable file's reason is left out. -/
def LoadError.summary : LoadError → String
  | .unreadable path _ => "config load failed (" ++ path ++ ")"
  | e => e.message

/-- The answer to loading a configuration file. -/
def loadAnswer (result : Except LoadError ServiceConfig) : Json :=
  match result with
  | .ok cfg => acceptedAnswer cfg
  | .error e => errorAnswer (LoadError.kind e) (LoadError.summary e)

/-- The answer to a `load_config` request. -/
def loadConfigAnswer (j : Json) : Decode Json := do
  if ← boolField j "missing" then
    return loadAnswer (loadConfig "missing.toml" ((Files.Tree.ofFiles []).source "missing.toml"))
  let text ← if ← boolField j "template" then pure configTemplate else strField j "toml"
  pure (loadAnswer (loadConfig "config.toml" (.ok text)))

/-- The files of a request, by relative path. -/
def filesField (j : Json) (key : String) : Decode (List (String × String)) :=
  match j.field? key with
  | none => pure []
  | some (.obj ms) => ms.mapM fun (p, v) =>
    match v with
    | .str s => pure (p, s)
    | _ => throw ("file " ++ p ++ " must be a string")
  | some _ => throw ("field " ++ key ++ " must be an object")

/-- Files as an answer object. -/
def filesJson (t : Files.Tree) : Json := .obj (t.files.map fun (p, c) => (p, .str c))

/-- The answer to a `write_template` request. -/
def writeTemplateAnswer (j : Json) : Decode Json := do
  let t := Files.Tree.ofFiles (← filesField j "files")
  let path ← strField j "path"
  let overwrite ← boolField j "overwrite"
  match writeTemplate t path overwrite with
  | .ok t' => pure (.obj [("files", filesJson t'), ("ok", .bool true)])
  | .error m => pure (.obj [("files", filesJson t), ("error", .str "error"), ("message", .str m)])

/-- The arguments of a command request. -/
def argsField (j : Json) : Decode (List String) := do
  (← listField j "args").mapM fun
    | .str s => pure s
    | _ => throw "field args must hold strings"

/-- The answer to a `configgen` request. -/
def generatorAnswer (j : Json) : Decode Json := do
  let t := Files.Tree.ofFiles (← filesField j "files")
  let (o, t') := Cli.runGenerator (← argsField j) t
  pure (.obj [("code", .ofNat o.code), ("stdout", .str o.stdout), ("stderr", .str o.stderr),
    ("files", filesJson t')])

/-- The answer to an `http` request. -/
def httpAnswer (j : Json) : Decode Json := do
  let method ← strField j "method" "GET"
  let path ← strField j "path"
  let ready ← match j.field? "ready" with
    | none | some .null => pure none
    | some (.bool b) => pure (some b)
    | some _ => throw "field ready must be a bool"
  match Http.serve method path ready with
  | .error m => pure (errorAnswer "panic" m)
  | .ok r =>
    let common := [("status", Json.ofNat r.status), ("content_type", .str r.contentType)]
    if r.status == 200 && path.startsWith "/metrics" then
      pure (.obj (common ++ [("has_missionctl_metrics", .bool true)]))
    else pure (.obj (common ++ [("body", .str r.body)]))

end Request

end MissionControl
