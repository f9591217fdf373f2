import MissionControl.Log.Event

/-!
# The process logger

The process logger is set up once. A profile gives the defaults: the runtime profile logs from
info with timestamps, the test profile from debug without them; any other profile number is the
runtime profile. Then the environment may override, each variable read after trimming:

* `MISSIONCTL_LOG_LEVEL`: a level word (ignored unless it names a level);
* `MISSIONCTL_LOG_TIMESTAMP`, `MISSIONCTL_LOG_NOCOLOR`, `MISSIONCTL_LOG_BYPASS`: a truth value
  (`1 t T TRUE true True` or `0 f F FALSE false False`; anything else is ignored). Bypass
  writes the JSON form instead of the console form.

A non-empty `NO_COLOR` turns colour off as well. Until it is set up the process logger writes
nothing. The level that admits events is process-wide; it starts at debug, the setup sets it,
and it may be changed later.
-/

namespace MissionControl

namespace Log

/-- The settings of the process logger. -/
structure Setup where
  level : Level
  stamped : Bool
  plain : Bool
  bypass : Bool
  deriving Inhabited

/-- A profile of defaults. -/
inductive Profile where
  | runtime
  | test
  deriving BEq

/-- The profile a profile number names. -/
def Profile.ofNumber (n : Int) : Profile := if n == 1 then .test else .runtime

/-- The defaults of a profile. -/
def Setup.ofProfile : Profile → Setup
  | .runtime => { level := .info, stamped := true, plain := false, bypass := false }
  | .test => { level := .debug, stamped := false, plain := false, bypass := false }

/-- A truth value as the environment writes it. -/
def parseFlag? (raw : String) : Option Bool :=
  let w := Text.trim raw
  if ["1", "t", "T", "TRUE", "true", "True"].contains w then some true
  else if ["0", "f", "F", "FALSE", "false", "False"].contains w then some false
  else none

/-- An environment: variables with their values; a missing variable reads as empty. -/
abbrev Env := List (String × String)

/-- The value of a variable. -/
def getenv (env : Env) (name : String) : String := (env.lookup name).getD ""

/-- The setup with the environment's overrides. -/
def Setup.withEnv (s : Setup) (env : Env) : Setup :=
  let flag (name : String) (d : Bool) := (parseFlag? (getenv env name)).getD d
  { level := (Level.ofWord? (getenv env "MISSIONCTL_LOG_LEVEL")).getD s.level
    stamped := flag "MISSIONCTL_LOG_TIMESTAMP" s.stamped
    plain := flag "MISSIONCTL_LOG_NOCOLOR" s.plain
    bypass := flag "MISSIONCTL_LOG_BYPASS" s.bypass }

/-- The process logger: its setup once made, the process-wide level, whether `NO_COLOR` is set,
and what it has written. -/
structure ProcessLog where
  setup : Option Setup := none
  level : Level := .debug
  noColor : Bool := false
  output : String := ""
  deriving Inhabited

namespace ProcessLog

/-- A process logger in an environment. -/
def start (env : Env) : ProcessLog := { noColor := !(getenv env "NO_COLOR").isEmpty }

/-- Sets the logger up, unless it already is. -/
def configure (p : ProcessLog) (profile : Profile) (env : Env) : ProcessLog :=
  match p.setup with
  | some _ => p
  | none =>
    let s := (Setup.ofProfile profile).withEnv env
    { p with setup := some s, level := s.level }

/-- Sets the process-wide level from a word; whether the word names a level. -/
def setLevel (p : ProcessLog) (raw : String) : ProcessLog × Bool :=
  match Level.ofWord? raw with
  | some l => ({ p with level := l }, true)
  | none => (p, false)

/-- Writes an event, if the logger is set up and the level admits it. -/
def write (p : ProcessLog) (e : Event) : ProcessLog :=
  match p.setup with
  | none => p
  | some s =>
    if !p.level.admits e.level then p
    else
      let line := if s.bypass then e.jsonLine s.stamped
        else e.consoleLine s.stamped (s.plain || p.noColor)
      { p with output := p.output ++ line }

end ProcessLog

/-- Whether a run of digits of a given length starts a text. -/
def digitsAt : Nat → List Char → Option (List Char)
  | 0, cs => some cs
  | n + 1, c :: rest => if c.isDigit then digitsAt n rest else none
  | _ + 1, [] => none

/-- A timestamp `YYYY-MM-DDThh:mm:ss`, an optional fraction and a zone `Z` or `±hh:mm` at the
front of a text: the rest after it. -/
def timestampAt? (cs : List Char) : Option (List Char) := do
  let r ← digitsAt 4 cs
  let r ← match r with | '-' :: r => digitsAt 2 r | _ => none
  let r ← match r with | '-' :: r => digitsAt 2 r | _ => none
  let r ← match r with | 'T' :: r => digitsAt 2 r | _ => none
  let r ← match r with | ':' :: r => digitsAt 2 r | _ => none
  let r ← match r with | ':' :: r => digitsAt 2 r | _ => none
  let zone (z : List Char) : Option (List Char) := match z with
    | 'Z' :: more => some more
    | s :: more =>
      if s == '+' || s == '-' then do
        let m ← digitsAt 2 more
        match m with
        | ':' :: m => digitsAt 2 m
        | _ => none
      else none
    | [] => none
  match r with
  | '.' :: d :: more =>
    if d.isDigit then
      match zone (more.dropWhile Char.isDigit) with
      | some rest => some rest
      | none => zone r
    else zone r
  | _ => zone r

/-- A text with every timestamp replaced by the time mark. -/
def maskTimes : Nat → List Char → List Char
  | 0, cs => cs
  | _, [] => []
  | n + 1, c :: rest =>
    match timestampAt? (c :: rest) with
    | some after => timeMark.toList ++ maskTimes n after
    | none => c :: maskTimes n rest

/-- A written text with its timestamps masked. -/
def masked (s : String) : String := String.ofList (maskTimes s.length s.toList)

end Log

end MissionControl
