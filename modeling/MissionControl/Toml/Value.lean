/-!
# TOML values and keys

A decoded TOML document is a table: an ordered list of keys with their values. A value is a
string, an integer, a float (kept as written), a boolean, a date-time (kept as written), a static
array, a table, or an array of tables (the tables made by repeated `[[name]]` headers).

A key is a path of parts. Its text joins the parts with dots and writes a part in double quotes,
with escapes, unless it is non-empty and made of ASCII letters, digits, underscores and dashes
only: `bus`, `t.x`, `"a b"`, `""`.
-/

namespace MissionControl

namespace Toml

/-- A decoded TOML value. -/
inductive Value where
  | string (s : String)
  | integer (n : Int)
  | float (text : String)
  | boolean (b : Bool)
  | datetime (text : String)
  | array (items : List Value)
  | table (entries : List (String × Value))
  | tables (items : List (List (String × Value)))
  deriving Inhabited

/-- A table: keys with their values, in the order they were first defined. -/
abbrev Table := List (String × Value)

/-- Whether a value is a static array, the one kind a key may be given twice. -/
def Value.isArray : Value → Bool
  | .array _ => true
  | _ => false

/-- Whether a value is a table, inline or made by headers. -/
def Value.isTable : Value → Bool
  | .table _ => true
  | _ => false

/-- The name of the type a value is decoded to when it meets a setting of another kind. -/
def Value.typeName : Value → String
  | .string _ => "string"
  | .integer _ => "int64"
  | .float _ => "float64"
  | .boolean _ => "bool"
  | .datetime _ => "time.Time"
  | .array _ => "[]interface \x7b\x7d"
  | .table _ => "map[string]interface \x7b\x7d"
  | .tables _ => "[]map[string]interface \x7b\x7d"

/-- The table with `k` set to `v`: in place when present, last otherwise. -/
def Table.put (t : Table) (k : String) (v : Value) : Table :=
  if t.any (·.1 == k) then t.map fun e => if e.1 == k then (k, v) else e else t ++ [(k, v)]

/-- Whether a character may appear in a bare key. -/
def isBareKeyChar (c : Char) : Bool := c.isAlphanum || c == '_' || c == '-'

/-- Four lower-case hexadecimal digits of a code below `2^16`. -/
def hex4 (n : Nat) : String :=
  let ds := Nat.toDigits 16 n
  String.ofList (List.replicate (4 - ds.length) '0' ++ ds)

/-- A character of a quoted key part, escaped. -/
def escapeKeyChar (c : Char) : String :=
  if c == '"' then "\\\""
  else if c == '\\' then "\\\\"
  else if c == '\x08' then "\\b"
  else if c == '\t' then "\\t"
  else if c == '\n' then "\\n"
  else if c == '\x0c' then "\\f"
  else if c == '\r' then "\\r"
  else if c.toNat < 0x20 || c.toNat == 0x7f then "\\u" ++ hex4 c.toNat
  else c.toString

/-- The text of one key part: bare when it can be, quoted otherwise. -/
def partText (p : String) : String :=
  if p.isEmpty then "\"\""
  else if p.toList.all isBareKeyChar then p
  else "\"" ++ String.join (p.toList.map escapeKeyChar) ++ "\""

/-- The text of a key path. -/
def keyText (parts : List String) : String := ".".intercalate (parts.map partText)

end Toml

end MissionControl
