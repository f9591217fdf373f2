import MissionControl.Json.Read
import MissionControl.Request.Pure
import MissionControl.Hub.Session
import MissionControl.Hub.Transport
import MissionControl.Request.Programs
import MissionControl.Event.Session
import MissionControl.Loop.Session
import MissionControl.Account.Session
import MissionControl.Request.Files
import MissionControl.Log.Session

/-!
# Answering requests

A request is a JSON object whose `op` names the operation; the answer is one JSON object. A
line that is not JSON is answered with a bad-input error, and so is an unknown operation.
-/

namespace MissionControl

namespace Request

/-- The answer to a request document. -/
def answer (j : Json) : Json :=
  match j with
  | .obj _ =>
    let op := match j.field? "op" with
      | some (.str s) => s
      | _ => ""
    let result? := if op == "broker" || op == "account" || op == "registry" then
      some (Hub.sessionAnswer op j)
    else if op == "dbus" then some (Hub.transportAnswer j)
    else if op == "service" then some (serviceAnswer j)
    else if op == "missionctl" then some (controlAnswer j)
    else if op == "event_list" then some (Event.sessionAnswer j)
    else if op == "mainloop" then some (Loop.sessionAnswer j)
    else if op == "filter_chain" then some (Account.chainSessionAnswer j)
    else if op == "connector" then some (Account.connectorSessionAnswer j)
    else if op == "load_config" then some (loadConfigAnswer j)
    else if op == "write_template" then some (writeTemplateAnswer j)
    else if op == "configgen" then some (generatorAnswer j)
    else if op == "logging" then some (Log.sessionAnswer j)
    else if op == "http" then some (httpAnswer j)
    else pureAnswer? op j
    match result? with
    | some r =>
      match r with
      | .ok a => a
      | .error m => badInput m
    | none => badInput ("unknown op " ++ Text.quote op)
  | _ => badInput "invalid json"

/-- The answer line to a request line. -/
def answerLine (line : String) : String :=
  match Json.parse line with
  | some j => (answer j).render
  | none => (badInput "invalid json").render

end Request

end MissionControl
