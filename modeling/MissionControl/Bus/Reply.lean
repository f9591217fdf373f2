import MissionControl.Bus.Value

/-!
# Method replies

A method call is answered once, with an error or with a body of values. The daemon's and the
properties interface's replies are read into the shapes their callers want:

* a property fetch wants a body of exactly one map (a property map or a plain map); any other
  body is an invalid reply that says how many values came, or what type the one value had;
* a name listing wants a body of exactly one list of strings.

An answer can also be a property map handed over as it is, the absent map included, which reads
as a one-map body.
-/

namespace MissionControl

namespace Bus

/-- How a method call was answered. -/
inductive Answer where
  /-- The call failed with this error text. -/
  | failure (message : String)
  /-- The call returned these values. -/
  | values (body : List Value)
  /-- The call returned one property map; `none` is the absent map. -/
  | properties (props : Option Properties)
  deriving Inhabited

/-- The name of a value's dynamic type, as the bus layer reports it in an invalid reply. -/
def typeName : Value → String
  | .nil => "<nil>"
  | .bool _ => "bool"
  | .str _ => "string"
  | .int .i8 _ => "int8"
  | .int .i16 _ => "int16"
  | .int .i32 _ => "int32"
  | .int .i64 _ => "int64"
  | .int .int _ => "int"
  | .int .u8 _ => "uint8"
  | .int .u16 _ => "uint16"
  | .int .u32 _ => "uint32"
  | .int .u64 _ => "uint64"
  | .int .uint _ => "uint"
  | .float _ => "float64"
  | .bytes _ => "[]uint8"
  | .strs _ => "[]string"
  | .path _ => "dbus.ObjectPath"
  | .paths _ => "[]dbus.ObjectPath"
  | .list _ => "[]interface \x7b\x7d"
  | .map _ => "map[string]interface \x7b\x7d"
  | .props _ => "bus.Properties"
  | .maps _ => "[]map[string]interface \x7b\x7d"
  | .propsList _ => "[]bus.Properties"
  | .struct _ => "main.wireStruct"
  | .boxed _ => "main.wireVariant"
  | .variant _ => "dbus.Variant"
  | .variants _ => "[]dbus.Variant"

/-- The prefix of every invalid-reply error. -/
def invalidReply : String := "bus: invalid reply"

namespace Answer

/-- The properties of a fetch reply, or the error it stands for. -/
def properties? : Answer → Except String (Option Properties)
  | .failure m => .error m
  | .properties p => .ok p
  | .values [.map m] => .ok m
  | .values [.props m] => .ok m
  | .values [v] => .error (invalidReply ++ ": GetAll returned " ++ typeName v)
  | .values body => .error (invalidReply ++ ": GetAll returned " ++ toString body.length ++ " values")

/-- The names of a listing reply, or the error it stands for; the absent list is empty. -/
def strings? : Answer → Except String (List String)
  | .failure m => .error m
  | .properties _ => .error (invalidReply ++ ": expected []string, got map[string]interface \x7b\x7d")
  | .values [.strs xs] => .ok (xs.getD [])
  | .values [v] => .error (invalidReply ++ ": expected []string, got " ++ typeName v)
  | .values body => .error (invalidReply ++ ": expected one value, got " ++ toString body.length)

end Answer

end Bus

end MissionControl
