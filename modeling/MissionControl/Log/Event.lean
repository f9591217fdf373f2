import MissionControl.Log.Level
import MissionControl.Text.Quoted
import MissionControl.Text.Upper
import MissionControl.Number.Decimal

/-!
# Log events and their written forms

An event has a level, fields (the logger's own first, then the event's, each a text or a number
as written) and a message. It is written in one of two forms, one line each.

The JSON form lists the level, the fields in order, the time when the logger stamps events, and
the message when it is not empty. Strings escape the quote, the backslash, the controls with
one-letter escapes (`\b \f \n \r \t`) and every other control below U+0020 and U+007F as
`\u00HH`; everything else is written as it is.

The console form reads that JSON back as a map (a later key replaces an earlier one) and writes
the time, the level, the caller and the message, then the remaining fields sorted by name (an
`error` field first) as `name=value`. A level field that names a level from trace to panic (by
name in any letter case, or by number) shows as its three capitals; any other text shows as its
first three bytes in capitals. A text value is quoted (with escapes) when it holds a
space, a quote, a backslash or a character outside printable ASCII. With colour, the time is
dark grey, levels have their colours (trace blue, info green, warn yellow, error and above
red, debug none), the message is bold from info up, field names are cyan and the value of an
`error` field is bold red.
-/

namespace MissionControl

namespace Log

/-- The value of an event field: a text, or a number as written. -/
inductive FieldValue where
  | text (s : String)
  | number (literal : String)
  deriving BEq, Inhabited

/-- A log event. -/
structure Event where
  level : Level
  fields : List (String × FieldValue)
  message : String
  deriving Inhabited

/-- What a timestamp is written as. -/
def timeMark : String := "<time>"

/-- Two lower-case hexadecimal digits. -/
def hex2 (n : Nat) : String := String.ofList [Nat.digitChar (n / 16 % 16), Nat.digitChar (n % 16)]

/-- One character of a JSON string. -/
def jsonChar (c : Char) : String :=
  if c == '"' then "\\\""
  else if c == '\\' then "\\\\"
  else if c == '\x08' then "\\b"
  else if c == '\x0c' then "\\f"
  else if c == '\n' then "\\n"
  else if c == '\r' then "\\r"
  else if c == '\t' then "\\t"
  else if c.toNat < 0x20 || c.toNat == 0x7f then "\\u00" ++ hex2 c.toNat
  else c.toString

/-- A JSON string. -/
def jsonString (s : String) : String := "\"" ++ String.join (s.toList.map jsonChar) ++ "\""

/-- The JSON text of a field value. -/
def FieldValue.json : FieldValue → String
  | .text s => jsonString s
  | .number l => l

/-- The JSON form of an event, with its line break; `stamped` adds the time. -/
def Event.jsonLine (e : Event) (stamped : Bool) : String :=
  let members := [("level", jsonString e.level.name)] ++
    e.fields.map (fun (k, v) => (k, v.json)) ++
    (if stamped then [("time", jsonString timeMark)] else []) ++
    (if e.message.isEmpty then [] else [("message", jsonString e.message)])
  "\x7b" ++ ",".intercalate (members.map fun (k, v) => jsonString k ++ ":" ++ v) ++ "\x7d\n"

/-- Colour codes. -/
def darkGray : Nat := 90
def bold : Nat := 1
def red : Nat := 31
def green : Nat := 32
def yellow : Nat := 33
def blue : Nat := 34
def cyan : Nat := 36

/-- A text in a colour; code 0 and `plain` leave it as it is. -/
def colorize (plain : Bool) (code : Nat) (s : String) : String :=
  if plain || code == 0 then s else "\x1b[" ++ toString code ++ "m" ++ s ++ "\x1b[0m"

/-- The three capitals and the colour of the levels that have them, trace to panic. -/
def levelLook? : Level → Option (String × Nat)
  | .trace => some ("TRC", blue)
  | .debug => some ("DBG", 0)
  | .info => some ("INF", green)
  | .warn => some ("WRN", yellow)
  | .error => some ("ERR", red)
  | .fatal => some ("FTL", red)
  | .panic => some ("PNC", red)
  | _ => none

/-- The levels from trace to panic. -/
def shownLevels : List Level := [.trace, .debug, .info, .warn, .error, .fatal, .panic]

/-- The level from trace to panic that a level field's text names: its name in any letter
case, or its number. -/
def shownLevel? (s : String) : Option Level :=
  let w := s.toList.map Char.toLower
  match shownLevels.find? (·.name.toList == w) with
  | some l => some l
  | none =>
    match Number.parseInt? s with
    | some n => shownLevels.find? (·.number == n)
    | none => none

/-- The level part of a level field's text that names no level from trace to panic: its first
three bytes upper-cased, each byte of a character cut there standing as the replacement
character; an empty text shows as `???`. -/
def levelStub (s : String) : String :=
  if s.isEmpty then "???" else String.ofList (go 3 s.toList)
where
  go : Nat → List Char → List Char
    | _, [] => []
    | room, c :: rest =>
      if c.utf8Size ≤ room then Text.upper c :: go (room - c.utf8Size) rest
      else List.replicate room '\uFFFD'

/-- The level part of the console form: the three capitals of a level in its colour, a
stub of any other text, a number in capitals, or `???` with no level at all. -/
def levelPart (plain : Bool) : Option FieldValue → String
  | some (.text s) =>
    match (shownLevel? s).bind levelLook? with
    | some (short, code) => colorize plain code short
    | none => levelStub s
  | some (.number l) => Text.upperText l
  | none => "???"

/-- The caller part of the console form: the caller in bold and a cyan marker, when the
caller is a non-empty text. -/
def callerPart (plain : Bool) : Option FieldValue → String
  | some (.text s) => if s.isEmpty then "" else colorize plain bold s ++ colorize plain cyan " >"
  | _ => ""

/-- Whether a console value is quoted. -/
def needsQuote (s : String) : Bool :=
  s.toList.any fun c => c.toNat < 0x20 || c.toNat > 0x7e || c == ' ' || c == '\\' || c == '"'

/-- The console text of a field value. -/
def FieldValue.console : FieldValue → String
  | .text s => if needsQuote s then Text.quote s else s
  | .number l => l

/-- The members of an event as the console reads them back: each key once, with its last
value, in the order keys first appear. -/
def readBack (members : List (String × FieldValue)) : List (String × FieldValue) :=
  members.foldl (fun acc (k, v) =>
    if acc.any (·.1 == k) then acc.map fun e => if e.1 == k then (k, v) else e
    else acc ++ [(k, v)]) []

/-- The keys the console writes as parts rather than as fields. -/
def partKeys : List String := ["level", "time", "message", "caller"]

/-- The console form of an event, with its line break. `stamped` adds the time; `plain`
writes no colour. -/
def Event.consoleLine (e : Event) (stamped plain : Bool) : String :=
  let members := readBack ([("level", FieldValue.text e.level.name)] ++ e.fields ++
    (if stamped then [("time", .text timeMark)] else []) ++
    (if e.message.isEmpty then [] else [("message", .text e.message)]))
  let textOf (k : String) : Option String := match members.lookup k with
    | some (.text s) => some s
    | some (.number l) => some l
    | none => none
  let levelName := match members.lookup "level" with
    | some (.text s) => s
    | _ => ""
  let timePart := if stamped then colorize plain darkGray ((textOf "time").getD "<nil>") else ""
  let strong := ["info", "warn", "error", "fatal", "panic"].contains levelName
  let messagePart := match textOf "message" with
    | some m => if m.isEmpty then "" else if strong then colorize plain bold m else m
    | none => ""
  let parts := [timePart, levelPart plain (members.lookup "level"),
    callerPart plain (members.lookup "caller"), messagePart].filter (!·.isEmpty)
  let names := ((members.map (·.1)).filter (!partKeys.contains ·)).mergeSort (fun a b => a ≤ b)
  let ordered := if names.contains "error" then "error" :: names.filter (· != "error") else names
  let fields := ordered.map fun k =>
    let v := (members.lookup k).getD (.text "")
    if k == "error" then
      colorize plain cyan (k ++ "=") ++ colorize plain red (colorize plain bold v.console)
    else colorize plain cyan (k ++ "=") ++ v.console
  let head := " ".intercalate parts
  let sep := if !head.isEmpty && !fields.isEmpty then " " else ""
  head ++ sep ++ " ".intercalate fields ++ "\n"

end Log

end MissionControl
