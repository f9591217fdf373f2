import MissionControl.Json.Read
import MissionControl.Bus.Value
import MissionControl.Number.Format
import MissionControl.Number.Decimal
import MissionControl.Text.Quoted

/-!
# Values in requests and answers

Requests write bus values in a small notation over JSON, and answers use the same notation.

* A string, a truth value and null stand for themselves; a bare number is a double; a bare
  array is a generic list.
* Any other value is an object with exactly one tag: an integer type (`i8` … `uint`) with a
  decimal (a number or a string, range-checked), `f64` with a number or a string (`NaN`,
  `Inf`, `+Inf`, `-Inf` or a decimal), `bytes` with hexadecimal digits, `strs` with strings,
  `list` with values, `map` and `props` with an object of values, `maps` and `props_list` with
  an array of such objects, `path` with a string, `paths` with strings, `struct` with values
  and `variant` with one value.

In answers integers carry their decimal as a string, a double its general format, bytes lower
case hexadecimal; a generic list is a bare array; the absent list of strings is `{"strs":null}`.
A property map standing alone is a plain object of values, or null for the absent map.

Reading a request can fail; the failure carries the message of the bad input.
-/

namespace MissionControl

namespace Request

/-- The result of reading part of a request: a value or the message of the bad input. -/
abbrev Decode := Except String

/-- The text of a JSON value as an error message quotes it. -/
def literalText : Json → String
  | .str s => s
  | .num l => l
  | j => j.render

/-- The digits of an unsigned decimal: at least one digit and nothing else, no sign. -/
def unsignedDigits? (s : String) : Option Nat :=
  Number.digitsValue? s.toList

/-- Reads an integer of a type from a number or a decimal string. A signed type reads a
signed 64-bit decimal and then checks its range. An unsigned type reads bare digits within
the type's range, and refuses anything else, a sign included, as out of range. -/
def decodeInt (t : IntType) (j : Json) : Decode Int := do
  let text := literalText j
  let digits := match j with
    | .num l | .str l => some l
    | _ => none
  if t.signed then
    match digits.bind Number.parseInt? with
    | some n =>
      if !IntType.i64.holds n then throw (t.tag ++ ": " ++ Text.quote text ++ " is not an int64")
      if !t.holds n then throw (t.tag ++ " out of range")
      pure n
    | none => throw (t.tag ++ ": " ++ Text.quote text ++ " is not an int64")
  else
    match digits.bind unsignedDigits? with
    | some n => if t.holds n then pure n else throw (t.tag ++ " out of range")
    | none => throw (t.tag ++ " out of range")

/-- Reads a double from a number or a string. -/
def decodeFloat (j : Json) : Decode Float :=
  let text := literalText j
  match j with
  | .num l | .str l =>
    match Number.parseFloat? l with
    | some x => pure x
    | none => throw ("f64: " ++ Text.quote text ++ " is not a float")
  | _ => throw ("f64: " ++ Text.quote text ++ " is not a float")

/-- The bytes written by a hexadecimal text. -/
def decodeHex : List Char → Option (List UInt8)
  | [] => some []
  | a :: b :: rest => do
    let hi ← Json.hexValue? a
    let lo ← Json.hexValue? b
    let tail ← decodeHex rest
    pure ((hi * 16 + lo).toUInt8 :: tail)
  | [_] => none

/-- The strings of a JSON array; anything but an array is refused as not one. -/
def decodeStrings (what : String) : Json → Decode (List String)
  | .arr items => items.mapM fun
    | .str s => pure s
    | _ => throw (what ++ " must be an array of strings")
  | _ => throw (what ++ " must be an array")

/-- The integer type named by a tag. -/
def intTypeOfTag? (tag : String) : Option IntType :=
  IntType.all.find? (·.tag == tag)

/-- Adds an entry to a map, a later entry for the same key replacing the value. -/
def addEntry (acc : List (String × Value)) (k : String) (v : Value) : List (String × Value) :=
  if acc.any (·.1 == k) then acc.map fun e => if e.1 == k then (k, v) else e else acc ++ [(k, v)]

/-- Reads a tagged value that holds no nested values, or reports the tag's fault. -/
def decodeLeaf (tag : String) (v : Json) : Decode Value :=
  match intTypeOfTag? tag with
  | some t => .int t <$> decodeInt t v
  | none =>
    if tag = "f64" then .float <$> decodeFloat v
    else if tag = "bytes" then
      match v with
      | .str s =>
        match decodeHex s.toList with
        | some bs => pure (.bytes bs)
        | none => throw "bytes must be a hex string"
      | _ => throw "bytes must be a hex string"
    else if tag = "strs" then (.strs ∘ some) <$> decodeStrings "strs" v
    else if tag = "path" then
      match v with
      | .str s => pure (.path s)
      | _ => throw "path must be a string"
    else if tag = "paths" then .paths <$> decodeStrings "paths" v
    else if tag = "list" || tag = "struct" || tag = "maps" || tag = "props_list" then
      throw (tag ++ " must be an array")
    else if tag = "map" || tag = "props" then throw "property map must be an object"
    else throw ("unknown value tag " ++ Text.quote tag)

mutual
/-- Reads a value. -/
def decodeValue : Json → Decode Value
  | .null => pure .nil
  | .bool b => pure (.bool b)
  | .str s => pure (.str s)
  | .num l => .float <$> decodeFloat (.num l)
  | .arr items => .list <$> decodeItems items
  | .obj [(tag, v)] => if tag = "variant" then .boxed <$> decodeValue v else decodeTagged tag v
  | .obj _ => throw "typed value must have exactly one tag"

/-- Reads the value of a tagged object whose tag may nest values. -/
def decodeTagged (tag : String) : Json → Decode Value
  | .arr items =>
    if tag = "list" then .list <$> decodeItems items
    else if tag = "struct" then .struct <$> decodeItems items
    else if tag = "maps" then .maps <$> decodeMaps items
    else if tag = "props_list" then .propsList <$> decodeMaps items
    else decodeLeaf tag (.arr items)
  | .obj ms =>
    if tag = "map" then (.map ∘ some) <$> decodeEntries [] ms
    else if tag = "props" then (.props ∘ some) <$> decodeEntries [] ms
    else decodeLeaf tag (.obj ms)
  | .null =>
    if tag = "map" then pure (.map none)
    else if tag = "props" then pure (.props none)
    else decodeLeaf tag .null
  | v => decodeLeaf tag v

/-- Reads the items of a list. -/
def decodeItems : List Json → Decode (List Value)
  | [] => pure []
  | x :: rest => do
    let v ← decodeValue x
    let vs ← decodeItems rest
    pure (v :: vs)

/-- Reads the members of an object as map entries. -/
def decodeEntries (acc : List (String × Value)) : List (String × Json) → Decode (List (String × Value))
  | [] => pure acc
  | (k, x) :: rest => do
    let v ← decodeValue x
    decodeEntries (addEntry acc k v) rest

/-- Reads an array of maps: objects, or null for an absent map. -/
def decodeMaps : List Json → Decode (List (Option (List (String × Value))))
  | [] => pure []
  | .obj ms :: rest => do
    let m ← decodeEntries [] ms
    let tail ← decodeMaps rest
    pure (some m :: tail)
  | .null :: rest => do
    let tail ← decodeMaps rest
    pure (none :: tail)
  | _ :: _ => throw "property map must be an object"
end

/-- Reads a property map: an object of values, or null for the absent map. -/
def decodeProps (j : Json) : Decode (Option Properties) :=
  match j with
  | .null => pure none
  | .obj ms => some <$> decodeEntries [] ms
  | _ => throw "property map must be an object"

/-- The property map of a field; a missing field is the absent map. -/
def propsField (j : Json) (key : String) : Decode (Option Properties) :=
  decodeProps ((j.member? key).getD .null)

/-- Lower-case hexadecimal digits of bytes. -/
def hexText (bs : List UInt8) : String :=
  String.join (bs.map fun b => String.ofList [Nat.digitChar (b.toNat / 16), Nat.digitChar (b.toNat % 16)])

/-- A one-member object. -/
def tagged (tag : String) (j : Json) : Json := .obj [(tag, j)]

/-- The notation of a value that only a request makes: its type's name. -/
def typeOnly (name : String) : Json := .obj [("type", .str name)]

mutual
/-- The notation of a value. Structures and boxed values, which only requests make, are
written by their type's name alone. -/
def encodeValue : Value → Json
  | .nil => .null
  | .bool b => .bool b
  | .str s => .str s
  | .int t n => tagged t.tag (.str (toString n))
  | .float x => tagged "f64" (.str (Number.general x))
  | .bytes bs => tagged "bytes" (.str (hexText bs))
  | .strs none => tagged "strs" .null
  | .strs (some xs) => tagged "strs" (.arr (xs.map .str))
  | .path p => tagged "path" (.str p)
  | .paths ps => tagged "paths" (.arr (ps.map .str))
  | .list items => .arr (encodeItems items)
  | .map m => tagged "map" (encodeMap m)
  | .props m => tagged "props" (encodeMap m)
  | .maps ms => tagged "maps" (.arr (encodeMaps ms))
  | .propsList ms => tagged "props_list" (.arr (encodeMaps ms))
  | .struct _ => typeOnly "main.wireStruct"
  | .boxed _ => typeOnly "main.wireVariant"
  | .variant v => tagged "variant" (encodeValue v)
  | .variants vs => tagged "variants" (.arr ((encodeItems vs).map (tagged "variant")))

/-- The notation of the items of a list. -/
def encodeItems : List Value → List Json
  | [] => []
  | v :: rest => encodeValue v :: encodeItems rest

/-- The members of a map as a plain object's members. -/
def encodeEntries : List (String × Value) → List (String × Json)
  | [] => []
  | (k, v) :: rest => (k, encodeValue v) :: encodeEntries rest

/-- A map as a plain object, or null for the absent map. -/
def encodeMap : Option (List (String × Value)) → Json
  | some m => .obj (encodeEntries m)
  | none => .null

/-- A list of maps as plain objects, an absent map as null. -/
def encodeMaps : List (Option (List (String × Value))) → List Json
  | [] => []
  | m :: rest => encodeMap m :: encodeMaps rest
end

/-- A property map as a plain object. -/
def encodeProps (p : Properties) : Json := .obj (encodeEntries p)

/-- A property map as a plain object, or null for the absent map. -/
def encodePropsOpt : Option Properties → Json
  | some p => encodeProps p
  | none => .null

/-- The list of a request field, empty when missing. -/
def listField (j : Json) (key : String) : Decode (List Json) :=
  match j.field? key with
  | none => pure []
  | some (.arr xs) => pure xs
  | some _ => throw ("field " ++ key ++ " must be an array")

/-- A string field, `default` when missing. -/
def strField (j : Json) (key : String) (default : String := "") : Decode String :=
  match j.field? key with
  | none => pure default
  | some (.str s) => pure s
  | some _ => throw ("field " ++ key ++ " must be a string")

/-- A truth-value field, `default` when missing. -/
def boolField (j : Json) (key : String) (default : Bool := false) : Decode Bool :=
  match j.field? key with
  | none => pure default
  | some (.bool b) => pure b
  | some _ => throw ("field " ++ key ++ " must be a bool")

/-- A 64-bit integer field given as a number or a decimal string, `default` when missing. -/
def intField (j : Json) (key : String) (default : Int := 0) : Decode Int :=
  match j.field? key with
  | none => pure default
  | some v =>
    let bad := key ++ ": " ++ Text.quote (literalText v) ++ " is not an int64"
    let digits := match v with
      | .num l | .str l => some l
      | _ => none
    match digits.bind Number.parseInt? with
    | some n => if IntType.i64.holds n then pure n else throw bad
    | none => throw bad

/-- A double field given as a number, `default` when missing. -/
def floatField (j : Json) (key : String) (default : Float) : Decode Float :=
  match j.field? key with
  | none => pure default
  | some v => decodeFloat v

/-- An error answer of a kind with a message. -/
def errorAnswer (kind message : String) : Json :=
  .obj [("error", .str kind), ("message", .str message)]

/-- The answer to a request that could not be read. -/
def badInput (message : String) : Json := errorAnswer "bad_input" message

end Request

end MissionControl
