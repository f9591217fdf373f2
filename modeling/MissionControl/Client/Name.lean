import MissionControl.Text.Bytes

/-!
# Client names

A client owns a well-known bus name made of the client prefix and a suffix of its own. The
suffix is a dot-separated list of non-empty elements; each element starts with an ASCII
letter or `_` and consists of ASCII letters, digits, `_` and `-`. The checks look at the bytes
of the suffix, which need not be well-formed UTF-8: a non-ASCII character is reported by its
first byte, shown as the character of that byte's value, and a suffix or an element in an error
is quoted as a byte string.

`checkSuffix` reports the first fault in the order: an empty suffix, then element by element
an empty element (with its index), a bad first byte, and the first bad byte. Every element is
scanned from its first byte, which the start check has already passed.
-/

namespace MissionControl

namespace Client

/-- The well-known name prefix shared by every client. -/
def nameBase : String := "org.freedesktop.Telepathy.Client."

/-- Whether a bus name is a client name. -/
def isClientName (name : String) : Bool := name.startsWith nameBase

/-- Why a client name suffix is invalid. Suffixes and elements are byte strings. -/
inductive NameError where
  | empty
  | emptyElement (suffix : List UInt8) (index : Nat)
  | badStart (element : List UInt8)
  | badByte (element : List UInt8) (byte : UInt8)
  deriving BEq, Repr

/-- The text every error about a client name starts with. -/
def invalidNameText : String := "client: invalid client name"

/-- The message of an invalid client name. -/
def NameError.message : NameError → String
  | .empty => invalidNameText ++ ": empty name"
  | .emptyElement s i =>
    invalidNameText ++ ": " ++ Text.quoteBytes s ++ " has an empty element at " ++ toString i
  | .badStart e =>
    invalidNameText ++ ": element " ++ Text.quoteBytes e ++ " must start with a letter or '_'"
  | .badByte e b =>
    invalidNameText ++ ": element " ++ Text.quoteBytes e ++ " contains " ++
      Text.quoteChar (Char.ofNat b.toNat)

/-- Whether a byte is an ASCII letter. -/
def isLetterByte (b : UInt8) : Bool := (97 ≤ b && b ≤ 122) || (65 ≤ b && b ≤ 90)

/-- Whether a byte may appear in an element. -/
def isElementByte (b : UInt8) : Bool :=
  isLetterByte b || (48 ≤ b && b ≤ 57) || b = 95 || b = 45

/-- The byte that separates elements, a dot. -/
def dot : UInt8 := 46

/-- The first fault of one element at position `index`. -/
def checkElement (suffix : List UInt8) (index : Nat) (element : List UInt8) : Option NameError :=
  match element with
  | [] => some (.emptyElement suffix index)
  | b :: _ =>
    if !(isLetterByte b || b = 95) then some (.badStart element)
    else (element.find? (fun c => !isElementByte c)).map (.badByte element)

/-- The first fault of the elements from position `index` on. -/
def checkElements (suffix : List UInt8) : Nat → List (List UInt8) → Option NameError
  | _, [] => none
  | i, e :: rest =>
    match checkElement suffix i e with
    | some err => some err
    | none => checkElements suffix (i + 1) rest

/-- Checks a client name suffix given as bytes. -/
def checkSuffix (suffix : List UInt8) : Except NameError Unit :=
  if suffix.isEmpty then .error .empty
  else match checkElements suffix 0 (suffix.splitOn dot) with
    | some err => .error err
    | none => .ok ()

/-- Checks a client name suffix, byte by byte. -/
def checkName (suffix : String) : Except NameError Unit := checkSuffix suffix.toUTF8.toList

end Client

end MissionControl
