/-!
# Names in bus messages

A message names an object path, an interface and a member, and each has a grammar:

* an object path is `/`, or `/` followed by non-empty elements separated by single slashes,
  with no slash at the end; elements use ASCII letters, digits and `_`;
* an interface has at least two non-empty elements separated by dots, none starting with a
  digit, at most 255 bytes, with the same characters;
* a member is one non-empty element of at most 255 bytes, not starting with a digit.

A method is named `interface.member`: the part after the last dot is the member, and a name
without a dot has no interface.
-/

namespace MissionControl

namespace Wire

/-- A character allowed inside path, interface and member elements. -/
def isNameChar (c : Char) : Bool :=
  ('0' ≤ c && c ≤ '9') || ('A' ≤ c && c ≤ 'Z') || ('a' ≤ c && c ≤ 'z') || c == '_'

/-- Whether an object path is well formed. -/
def validPath (p : String) : Bool :=
  match p.toList with
  | ['/'] => true
  | '/' :: rest =>
    let parts := (String.ofList rest).splitOn "/"
    parts.all fun e => !e.isEmpty && e.toList.all isNameChar
  | _ => false

/-- Whether an element does not start with a digit. -/
def startsUndigited (e : String) : Bool :=
  match e.toList with
  | c :: _ => !c.isDigit
  | [] => false

/-- Whether an interface name is well formed. -/
def validInterface (s : String) : Bool :=
  let parts := s.splitOn "."
  !s.isEmpty && s.utf8ByteSize ≤ 255 && parts.length ≥ 2 &&
    parts.all fun e => !e.isEmpty && startsUndigited e && e.toList.all isNameChar

/-- Whether a member name is well formed. -/
def validMember (s : String) : Bool :=
  !s.isEmpty && s.utf8ByteSize ≤ 255 && startsUndigited s && s.toList.all isNameChar

/-- The interface and member of a method name, split at the last dot. -/
def splitMethod (method : String) : String × String :=
  match method.toList.reverse.span (· != '.') with
  | (member, []) => ("", String.ofList member.reverse)
  | (member, _ :: iface) => (String.ofList iface.reverse, String.ofList member.reverse)

/-- What is wrong with a message's names, if anything; an empty interface is absent and so not
checked. -/
def namesProblem (path iface member : String) : Option String :=
  if !validPath path then some "invalid path name"
  else if !iface.isEmpty && !validInterface iface then some "invalid interface name"
  else if !validMember member then some "invalid member name"
  else none

/-- The error of a message whose names are wrong. -/
def invalidMessage (problem : String) : String := "dbus: invalid message: " ++ problem

end Wire

end MissionControl
