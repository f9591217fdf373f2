import MissionControl.Files.Tree

/-!
# The configuration template

The template is an annotated configuration file that sets every key to its default, with the
metrics endpoint on the local port 9470 and the log level `info`.

Writing it refuses to replace anything that exists at the path unless asked to overwrite; the
file itself is then made or truncated, which fails as opening the path for writing fails.
-/

namespace MissionControl

/-- The annotated default configuration file. -/
def configTemplate : String :=
  "# \"session\", \"system\", or a bus address such as \"unix:path=/run/dbus/socket\"\n" ++
  "bus = \"session\"\n" ++
  "client_prefix = \"org.freedesktop.Telepathy.Client.\"\n" ++
  "\n" ++
  "# Serves /metrics and /health when set.\n" ++
  "metrics_addr = \"127.0.0.1:9470\"\n" ++
  "\n" ++
  "# 0 retries forever.\n" ++
  "connect_attempts = 5\n" ++
  "backoff_initial = \"250ms\"\n" ++
  "backoff_max = \"5s\"\n" ++
  "backoff_jitter = true\n" ++
  "\n" ++
  "log_level = \"info\"\n"

/-- Writes the template at `path`; without `overwrite`, anything already there is kept and
reported. -/
def writeTemplate (t : Files.Tree) (path : String) (overwrite : Bool) :
    Except String Files.Tree :=
  if !overwrite && (t.exists? path).toBool then .error ("config already exists: " ++ path)
  else
    match t.write path configTemplate with
    | .ok t' => .ok t'
    | .error e => .error ("open " ++ path ++ ": " ++ e.text)

end MissionControl
