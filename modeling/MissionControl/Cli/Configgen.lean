import MissionControl.Cli.Flags
import MissionControl.Cli.Outcome
import MissionControl.Config.Load
import MissionControl.Config.Template

/-!
# The configuration generator command

`configgen` writes the configuration template to `--output`, refusing to replace a file unless
`--force` is given, or with `--validate` loads the file at `--input` and reports whether it is a
valid configuration. Both paths default to the service's usual configuration file.

Its flags stop the command at once: help prints the usage and succeeds; a bad command line
prints the usage and the error and exits with 2. Any other failure prints the error after the
command's name and exits with 1.
-/

namespace MissionControl

namespace Cli

/-- Where the service looks for its configuration. -/
def defaultConfigPath : String := "cmd/missionctl/config.toml"

/-- The generator's flags. -/
def generatorFlags : List FlagSpec := [
  { name := "output", takesText := true, usage := "output path for the config template",
    default := defaultConfigPath },
  { name := "validate", takesText := false, usage := "validate an existing config file" },
  { name := "input", takesText := true, usage := "config path for validation",
    default := defaultConfigPath },
  { name := "force", takesText := false, usage := "overwrite an existing config file" }]

/-- The generator's usage text. -/
def generatorUsage : String := "Usage of configgen:\n" ++ flagUsages generatorFlags

/-- The paths the generator may read or write for its arguments. -/
def generatorPaths (args : List String) : List String :=
  match parseFlags generatorFlags args with
  | .ok p => [(p.get? "output").getD defaultConfigPath, (p.get? "input").getD defaultConfigPath]
  | .error _ => []

/-- Runs the generator on its arguments in a file tree; how it ended and the tree afterwards. -/
def runGenerator (args : List String) (t : Files.Tree) : Outcome × Files.Tree :=
  match parseFlags generatorFlags args with
  | .error .help => ({ code := 0, stderr := generatorUsage }, t)
  | .error (.failure m) => ({ code := 2, stderr := generatorUsage ++ m ++ "\n" }, t)
  | .ok p =>
    let output := (p.get? "output").getD defaultConfigPath
    let input := (p.get? "input").getD defaultConfigPath
    if p.get? "validate" == some "true" then
      match loadConfig input (t.source input) with
      | .ok _ => ({ code := 0, stdout := "Validated config at " ++ input ++ "\n" }, t)
      | .error e => ({ code := 1, stderr := "configgen: " ++ e.message ++ "\n" }, t)
    else
      match writeTemplate t output (p.get? "force" == some "true") with
      | .ok t' => ({ code := 0, stdout := "Wrote config template to " ++ output ++ "\n" }, t')
      | .error m => ({ code := 1, stderr := "configgen: " ++ m ++ "\n" }, t)

end Cli

end MissionControl
