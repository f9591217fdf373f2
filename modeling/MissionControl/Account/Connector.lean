import MissionControl.Account.Chain
import MissionControl.Event.Handlers
import MissionControl.Bus.Value

/-!
# Connection attempts

An account connects through attempts. An attempt starts from a copy of the account's
parameters (none: an empty map) and runs the filters of the chain one after another; each filter
gets the attempt's parameters, may change them, and passes on success or failure through a
continuation, at once or later. A continuation counts only once, and only for the attempt it was
made for.

At most one attempt is in progress: starting one while connecting does nothing. The attempt is
rejected as soon as a filter passes failure, and then no later filter runs. It is connected once
the last filter passes success (at once for an empty chain), and then the connection manager,
if there is one, is asked to connect with the attempt's parameters. Either way every handler of
the attempt's end is told whether the chain accepted it, and every request waiting to be online
learns the outcome: the rejection, or what the manager reported (nothing without a manager).

Filters here are scripted: each says what it does with the attempt. The filters and the manager
take notes, which are what a session reports. A filter whose script cannot be read stops the
step that ran it, after its note, and leaves the attempt where it stood.
-/

namespace MissionControl

namespace Account

/-- What a scripted filter does with an attempt, after noting that it ran. -/
inductive FilterAction where
  | accept
  | reject
  /-- Keeps its continuation for later. -/
  | defer
  /-- Passes success, then passes `second`; the repeat is ignored. -/
  | twice (second : Bool)
  | set (key : String) (value : Value)
  | delete (key : String)
  /-- Asks for a new attempt (ignored while connecting), then passes success. -/
  | begin
  /-- Advances the attempt directly with `success`, then passes `next`. -/
  | proceed (success next : Bool)
  /-- A script that cannot be read: the filter stops the step with this message. -/
  | unreadable (message : String)
  deriving Inhabited

/-- Where an account's connection stands. -/
inductive ConnectionState where
  | idle
  | connecting
  | connected
  | rejected
  deriving BEq, Inhabited

/-- The name of a connection state. -/
def ConnectionState.name : ConnectionState → String
  | .idle => "idle"
  | .connecting => "connecting"
  | .connected => "connected"
  | .rejected => "rejected"

/-- How the scripted connection manager answers. -/
inductive ManagerMode where
  | succeed
  /-- Keeps its completion for later. -/
  | defer
  | fail (message : String)
  deriving Inhabited

/-- The error of an attempt rejected by a filter. -/
def rejectedMessage (account : String) : String :=
  "account: connection rejected by filter: " ++ account

/-- A filter's continuation: the attempt it belongs to and whether it was used. -/
structure Continuation where
  attempt : Nat
  called : Bool := false
  deriving Inhabited

/-- What the connector notes. -/
inductive ConnectorNote where
  | filtered (name account : String) (params : Properties)
  | deferred (k : Nat)
  | processed (handler : Int) (success : Bool)
  | online (request : Int) (err : Option String)
  | managed (account : String) (params : Properties)
  | managerDeferred (k : Nat)
  deriving Inhabited

/-- An account's connector with its scripted filters and manager. -/
structure Connector where
  account : String
  /-- The account's parameters; `none` when the account has no parameters at all. -/
  params : Option Properties
  chain : Chain FilterAction := {}
  /-- Whether attempts run the chain above; otherwise they run an empty chain. -/
  usesChain : Bool := true
  manager : Option ManagerMode := none
  state : ConnectionState := .idle
  attempt : Nat := 0
  index : Nat := 0
  current : Properties := []
  online : List Int := []
  process : HandlerList Int := {}
  continuations : Array Continuation := #[]
  deferred : Array Nat := #[]
  managerCalls : Nat := 0
  notes : Array ConnectorNote := #[]
  deriving Inhabited

/-- Why a connector step stopped. -/
inductive Fault where
  /-- The program gave up with this message. -/
  | panic (message : String)
  /-- A filter's script could not be read. -/
  | badInput (message : String)
  deriving Inhabited

/-- Computations on a connector; a fault stops them, keeping the connector reached so far. -/
abbrev ConnectorM := EStateM Fault Connector

/-- A note taken. -/
def noteConnector (n : ConnectorNote) : ConnectorM Unit :=
  modify fun c => { c with notes := c.notes.push n }

/-- The requests waiting to be online learn the outcome, in the order they asked. -/
def completeOnline (err : Option String) : ConnectorM Unit := do
  let waiting := (← get).online
  modify fun c => { c with online := [] }
  for id in waiting do noteConnector (.online id err)

/-- The attempt ends: accepted by the chain or not. -/
def finishAttempt (success : Bool) : ConnectorM Unit := do
  let c ← get
  let params := c.current
  modify fun c => { c with current := [] }
  c.process.emit (return (← get).process) (fun _ id success => noteConnector (.processed id success))
    success
  if !success then
    modify fun c => { c with state := .rejected }
    completeOnline (some (rejectedMessage c.account))
  else
    modify fun c => { c with state := .connected }
    match c.manager with
    | none => completeOnline none
    | some mode =>
      noteConnector (.managed c.account params)
      match mode with
      | .succeed => completeOnline none
      | .fail m => completeOnline (some m)
      | .defer =>
        let k := (← get).managerCalls
        modify fun c => { c with managerCalls := k + 1 }
        noteConnector (.managerDeferred k)

/-- The filter at a position of the chain attempts run. -/
def Connector.filterAt? (c : Connector) (i : Nat) : Option (String × Option FilterAction) :=
  if c.usesChain then c.chain.at? i else none

/-- The fault of calling an absent filter. -/
def absentFilter : String := "runtime error: invalid memory address or nil pointer dereference"

mutual
/-- A new attempt, unless one is in progress. -/
def beginAttempt : Nat → ConnectorM Unit
  | 0 => pure ()
  | n + 1 => do
    let c ← get
    if c.state == .connecting then return
    modify fun c => { c with current := c.params.getD [], index := 0, attempt := c.attempt + 1,
                             state := .connecting }
    proceed n true

/-- The attempt advances: on success the next filter runs, or the attempt ends. Nothing happens
when no attempt is in progress. -/
def proceed : Nat → Bool → ConnectorM Unit
  | 0, _ => pure ()
  | n + 1, success => do
    let c ← get
    if c.state != .connecting then return
    if success then
      match c.filterAt? c.index with
      | some (name, f) =>
        let k := c.continuations.size
        modify fun c => { c with index := c.index + 1,
                                 continuations := c.continuations.push { attempt := c.attempt } }
        match f with
        | some action => runFilter n name action k
        | none => throw (.panic absentFilter)
        return
      | none => pure ()
    finishAttempt success

/-- A scripted filter runs with continuation `k`. -/
def runFilter : Nat → String → FilterAction → Nat → ConnectorM Unit
  | 0, _, _, _ => pure ()
  | n + 1, name, action, k => do
    let c ← get
    noteConnector (.filtered name c.account c.current)
    match action with
    | .accept => resume n k true
    | .reject => resume n k false
    | .defer =>
      let d := (← get).deferred.size
      modify fun c => { c with deferred := c.deferred.push k }
      noteConnector (.deferred d)
    | .twice second =>
      resume n k true
      resume n k second
    | .set key value =>
      modify fun c => { c with current := c.current.set key value }
      resume n k true
    | .delete key =>
      modify fun c => { c with current := c.current.erase key }
      resume n k true
    | .begin =>
      beginAttempt n
      resume n k true
    | .proceed success next =>
      proceed n success
      resume n k next
    | .unreadable m => throw (.badInput m)

/-- Continuation `k` passes `success`: only the first time, and only for its own attempt. -/
def resume : Nat → Nat → Bool → ConnectorM Unit
  | 0, _, _ => pure ()
  | n + 1, k, success => do
    let c ← get
    let cont := c.continuations.getD k default
    if cont.called || cont.attempt != c.attempt then return
    modify fun c => { c with continuations := c.continuations.modify k fun x => { x with called := true } }
    proceed n success
end

end Account

end MissionControl
