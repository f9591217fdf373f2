/-!
# JSON documents

Requests arrive and answers leave as one JSON document per line. A document is null, a truth
value, a number, a string, an array or an object. A number keeps the literal it was written
with, so that an integer of any size and a decimal fraction reach the reader of the request
exactly as written, and an answer can carry a number in the spelling chosen for it.

Writing a document follows the conventions of a canonical encoder: members of an object are
written in the order of their keys, a string escapes the quote, the backslash, the control
characters and the two line separators U+2028 and U+2029, and every other character is written
as it is. The canonical text of a document is also what orders a list of documents where an
order has to be chosen.
-/

namespace MissionControl

/-- A JSON document. Object members stay in the order they were given; a number is its
literal. -/
inductive Json where
  | null
  | bool (value : Bool)
  | num (literal : String)
  | str (value : String)
  | arr (items : List Json)
  | obj (members : List (String × Json))
  deriving Inhabited

namespace Json

/-- The document of a natural number. -/
def ofNat (n : Nat) : Json := .num (toString n)

/-- The document of an integer, written with a minus sign when negative. -/
def ofInt (i : Int) : Json := .num (toString i)

/-- A string, or null when there is none. -/
def ofOption (s : Option String) : Json :=
  match s with
  | some v => .str v
  | none => .null

/-- A list of strings, or null when there is none. -/
def ofStrings (xs : List String) : Json := .arr (xs.map .str)

/-- The value of the last member named `key`; a request that names a key twice means the
later one. -/
def member? (j : Json) (key : String) : Option Json :=
  match j with
  | .obj ms => (ms.filter (·.1 == key)).getLast?.map (·.2)
  | _ => none

/-- The value of the member named `key` unless it is missing or null: an optional field of a
request treats an explicit null as absent. -/
def field? (j : Json) (key : String) : Option Json :=
  match j.member? key with
  | some .null => none
  | other => other

/-- The four hexadecimal digits of a code unit below 2^16, lower case. -/
def hex4 (n : Nat) : String :=
  String.ofList [Nat.digitChar (n / 4096 % 16), Nat.digitChar (n / 256 % 16),
    Nat.digitChar (n / 16 % 16), Nat.digitChar (n % 16)]

/-- How one character of a string is written. With `html`, the characters that open or
close markup are escaped as well, as a writer meant for embedding in markup does. -/
def escapeChar (html : Bool) (c : Char) : String :=
  if c = '"' then "\\\""
  else if c = '\\' then "\\\\"
  else if c = '\n' then "\\n"
  else if c = '\r' then "\\r"
  else if c = '\t' then "\\t"
  else if c.val < 0x20 || c.val = 0x2028 || c.val = 0x2029 ||
      (html && (c = '<' || c = '>' || c = '&')) then
    "\\u" ++ hex4 c.val.toNat
  else c.toString

/-- The quoted form of a string. -/
def quote (html : Bool) (s : String) : String :=
  "\"" ++ String.join (s.toList.map (escapeChar html)) ++ "\""

/-- Members ordered by key; members with equal keys keep their order. -/
def sortMembers (ms : List (String × String)) : List (String × String) :=
  ms.mergeSort (fun a b => !(b.1 < a.1))

mutual
/-- The canonical text of a document. -/
def renderWith (html : Bool) : Json → String
  | .null => "null"
  | .bool b => if b then "true" else "false"
  | .num l => l
  | .str s => quote html s
  | .arr xs => "[" ++ ",".intercalate (renderItems html xs) ++ "]"
  | .obj ms =>
    "\x7b" ++ ",".intercalate ((sortMembers (renderMembers html ms)).map
      (fun m => quote html m.1 ++ ":" ++ m.2)) ++ "\x7d"

/-- The texts of the items of an array. -/
def renderItems (html : Bool) : List Json → List String
  | [] => []
  | x :: rest => renderWith html x :: renderItems html rest

/-- The keys of an object with the texts of their values. -/
def renderMembers (html : Bool) : List (String × Json) → List (String × String)
  | [] => []
  | (k, v) :: rest => (k, renderWith html v) :: renderMembers html rest
end

mutual
/-- The number of nodes of a document. -/
def size : Json → Nat
  | .arr xs => 1 + itemsSize xs
  | .obj ms => 1 + membersSize ms
  | _ => 1

/-- The number of nodes of the items of an array. -/
def itemsSize : List Json → Nat
  | [] => 0
  | x :: rest => size x + itemsSize rest

/-- The number of nodes of the values of an object's members. -/
def membersSize : List (String × Json) → Nat
  | [] => 0
  | (_, v) :: rest => size v + membersSize rest
end

/-- The text of a document as an answer line: markup characters are written as they are. -/
def render (j : Json) : String := renderWith false j

/-- The text that orders documents: a canonical encoder's default text, in which markup
characters are escaped. -/
def sortKey (j : Json) : String := renderWith true j

/-- Documents in the order of their canonical text. -/
def sortByText (xs : List Json) : List Json :=
  ((xs.map fun j => (sortKey j, j)).mergeSort (fun a b => !(b.1 < a.1))).map (·.2)

end Json

end MissionControl
