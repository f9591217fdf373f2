import MissionControl.Bus.Value
import MissionControl.Number.Format

/-!
# Values in transit

A value sent on the bus takes a wire type, and the receiver reads it back into its own shapes;
the connection then simplifies what it read. `delivered` is the whole trip.

On the wire: strings, truth values, integers, doubles, byte strings, string lists, object paths
and path lists keep their types, except that the platform words travel as 64-bit integers; maps
and property maps travel as string-keyed maps of variants, lists of maps as lists of such maps,
bare lists as lists of variants, structures as structures and boxed values as variants. Absent
values and 8-bit signed integers have no wire type and cannot be sent; an absent map travels as
an empty one.

Read back: a list of variants stays a list of variants, a string-keyed map of variants is a map
of variants, a structure is a bare list of its fields. The connection then unwraps: a variant is
its (unwrapped) content, an object path a string, a path list a string list, a map of variants a
map of unwrapped values, each map of a list of maps likewise, and a bare list its unwrapped
items. A list of variants is left as it is, its items as they were read.
-/

namespace MissionControl

namespace Wire

mutual
/-- Whether a value can be sent. -/
def sendable : Value → Bool
  | .nil => false
  | .int .i8 _ => false
  | .list items | .struct items | .variants items => sendableAll items
  | .map (some es) | .props (some es) => sendableEntries es
  | .maps ms | .propsList ms => sendableMaps ms
  | .boxed v | .variant v => sendable v
  | _ => true

/-- Whether every value of a list can be sent. -/
def sendableAll : List Value → Bool
  | [] => true
  | v :: rest => sendable v && sendableAll rest

/-- Whether every value of a map can be sent. -/
def sendableEntries : List (String × Value) → Bool
  | [] => true
  | (_, v) :: rest => sendable v && sendableEntries rest

/-- Whether every value of a list of maps can be sent. -/
def sendableMaps : List (Option (List (String × Value))) → Bool
  | [] => true
  | none :: rest => sendableMaps rest
  | some m :: rest => sendableEntries m && sendableMaps rest
end

mutual
/-- A sent value as the receiver reads it back. -/
def received : Value → Value
  | .int .int n => .int .i64 n
  | .int .uint n => .int .u64 n
  | .strs xs => .strs (some (xs.getD []))
  | .list items | .variants items => .variants (receivedAll items)
  | .map (some es) | .props (some es) => .map (some (receivedEntries es))
  | .map none | .props none => .map (some [])
  | .maps ms | .propsList ms => .maps (receivedMaps ms)
  | .struct fields => .list (receivedAll fields)
  | .boxed v | .variant v => .variant (received v)
  | v => v

/-- Values read back one by one. -/
def receivedAll : List Value → List Value
  | [] => []
  | v :: rest => received v :: receivedAll rest

/-- A map read back: each value inside a variant. -/
def receivedEntries : List (String × Value) → List (String × Value)
  | [] => []
  | (k, v) :: rest => (k, .variant (received v)) :: receivedEntries rest

/-- A list of maps read back; an absent map arrives empty. -/
def receivedMaps : List (Option (List (String × Value))) → List (Option (List (String × Value)))
  | [] => []
  | none :: rest => some [] :: receivedMaps rest
  | some m :: rest => some (receivedEntries m) :: receivedMaps rest
end

mutual
/-- A value read back, simplified by the connection. -/
def unwrap : Value → Value
  | .variant v => unwrap v
  | .path p => .str p
  | .paths ps => .strs (some ps)
  | .map (some es) => .map (some (unwrapEntries es))
  | .maps ms => .maps (unwrapMaps ms)
  | .list items => .list (unwrapAll items)
  | v => v

/-- Values simplified one by one. -/
def unwrapAll : List Value → List Value
  | [] => []
  | v :: rest => unwrap v :: unwrapAll rest

/-- A map with its values simplified. -/
def unwrapEntries : List (String × Value) → List (String × Value)
  | [] => []
  | (k, v) :: rest => (k, unwrap v) :: unwrapEntries rest

/-- A list of maps with their values simplified. -/
def unwrapMaps : List (Option (List (String × Value))) → List (Option (List (String × Value)))
  | [] => []
  | none :: rest => none :: unwrapMaps rest
  | some m :: rest => some (unwrapEntries m) :: unwrapMaps rest
end

/-- A value as the connection hands it over after the trip. -/
def delivered (v : Value) : Value := unwrap (received v)

mutual
/-- A received value as the bus daemon writes it in its log: text as it is, numbers in
decimal, lists in brackets. -/
def logText : Value → String
  | .nil => "<nil>"
  | .bool b => if b then "true" else "false"
  | .str s | .path s => s
  | .int _ n => toString n
  | .float x => Number.general x
  | .bytes bs => "[" ++ " ".intercalate (bs.map fun b => toString b.toNat) ++ "]"
  | .strs xs => "[" ++ " ".intercalate (xs.getD []) ++ "]"
  | .paths ps => "[" ++ " ".intercalate ps ++ "]"
  | .list items | .struct items | .variants items => "[" ++ " ".intercalate (logTexts items) ++ "]"
  | .map (some es) | .props (some es) => "map[" ++ " ".intercalate (logEntries es) ++ "]"
  | .map none | .props none => "map[]"
  | .maps ms | .propsList ms => "[" ++ " ".intercalate (logMaps ms) ++ "]"
  | .boxed v | .variant v => logText v

/-- Values as the log writes them. -/
def logTexts : List Value → List String
  | [] => []
  | v :: rest => logText v :: logTexts rest

/-- Map entries as the log writes them. -/
def logEntries : List (String × Value) → List String
  | [] => []
  | (k, v) :: rest => (k ++ ":" ++ logText v) :: logEntries rest

/-- Maps as the log writes them. -/
def logMaps : List (Option (List (String × Value))) → List String
  | [] => []
  | none :: rest => "map[]" :: logMaps rest
  | some m :: rest => ("map[" ++ " ".intercalate (logEntries m) ++ "]") :: logMaps rest
end

end Wire

end MissionControl
