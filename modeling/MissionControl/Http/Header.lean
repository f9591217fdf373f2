import MissionControl.Text.Quoted
/-!
# Header fields

After the request line come header fields, up to the first empty line. A line that starts with
a space or a tab continues the field before it: the pieces are joined with one space, each
without the blanks (spaces and tabs) at its ends. The first field may not start with a blank:
that line is refused whole, or as too large beyond 80 bytes.

A field's first line must hold a colon. Its name is what stands before the first colon of the
joined field, and must be made of token characters, where spaces are let through but keep the
name from being made canonical; its value is the rest without the blanks in front, and may
hold no control character but the tab. A name is canonical with upper case at its start and
after each hyphen and lower case elsewhere.

Lines end at line feeds, a carriage return right before one dropped; the text runs out before
an empty line only when it is cut short.
-/

namespace MissionControl

namespace Http

/-- Whether a character may be part of a token, such as a method or a field name. -/
def isTokenChar (c : Char) : Bool :=
  c.isAlphanum || c.toNat == 0x60 || "!#$%&'*+-.^_|~".toList.contains c

/-- Whether a character is a blank at the end of a header line: a space or a tab. -/
def isBlank (c : Char) : Bool := c == ' ' || c == '\t'

/-- A header line piece without the blanks at its ends. -/
def trimBlanks (cs : List Char) : List Char :=
  ((cs.dropWhile isBlank).reverse.dropWhile isBlank).reverse

/-- A field name in canonical case, `upper` telling whether the next letter is upper case. -/
def canonicalCase (upper : Bool) : List Char → List Char
  | [] => []
  | c :: rest =>
    let c := if upper && c.isLower then c.toUpper else if !upper && c.isUpper then c.toLower else c
    c :: canonicalCase (c == '-') rest

/-- A name as the header keeps it: canonical when it is a token, as written otherwise. -/
def canonicalName (k : List Char) : String :=
  if k.all isTokenChar then String.ofList (canonicalCase true k) else String.ofList k

/-- The name a field is filed under, or none when the name does not read: empty, or with a
character that is neither a token character nor a space. -/
def fieldName? (k : List Char) : Option String :=
  if k.isEmpty || !k.all (fun c => isTokenChar c || c == ' ') then none
  else if k.contains ' ' then some (String.ofList k)
  else some (canonicalName k)

/-- Whether a character may stand in a field value: not a control character, the tab apart. -/
def validValueChar (c : Char) : Bool := c == '\t' || (c.toNat ≥ 0x20 && c.toNat != 0x7f)

/-- A header field: the name it is filed under and its value. -/
structure Field where
  name : String
  value : String
  deriving BEq, Inhabited

/-- The lines of a text: each ends at a line feed, with a carriage return right before it
dropped; what follows the last line feed is a last line only when it is not empty. -/
def textLines (cs : List Char) : List (List Char) :=
  match (String.ofList cs).splitOn "\n" |>.map String.toList |>.reverse with
  | [] => []
  | last :: earlier =>
    let ended := earlier.reverse.map fun l => if l.getLast? == some '\r' then l.dropLast else l
    if last.isEmpty then ended else ended ++ [last]

/-- Whether a line continues the field before it. -/
def continues (line : List Char) : Bool := line.head? == some ' ' || line.head? == some '\t'

/-- The refusal of a field line. -/
def malformedLine (kv : List Char) : String :=
  "malformed MIME header line: " ++ Text.quote (String.ofList kv)

/-- The fields of the lines up to the first empty one, each step reading one field with its
continuation lines; `fuel` bounds the steps, and one step a line is enough. -/
def collectFields : Nat → List (List Char) → List Field → Except String (List Field)
  | 0, _, acc => .ok acc.reverse
  | _ + 1, [], _ => .error "unexpected EOF"
  | fuel + 1, line :: more, acc =>
    if line.isEmpty then .ok acc.reverse
    else if !line.contains ':' then
      .error ("malformed MIME header: missing colon: " ++ Text.quote (String.ofList line))
    else
      let (extra, rest) := more.span continues
      let kv := extra.foldl (fun joined l => joined ++ ' ' :: trimBlanks l) (trimBlanks line)
      let name := kv.takeWhile (· != ':')
      let value := (kv.dropWhile (· != ':')).drop 1
      match fieldName? name with
      | none => .error (malformedLine kv)
      | some n =>
        if !value.all validValueChar then .error (malformedLine kv)
        else collectFields fuel rest ({ name := n, value := String.ofList (value.dropWhile isBlank) } :: acc)

/-- The longest first line a refusal of a leading blank quotes. -/
def initialLineLimit : Nat := 80

/-- The header fields of the lines after the request line, in order, or why they do not read. -/
def readFields (lines : List (List Char)) : Except String (List Field) :=
  match lines with
  | first :: _ =>
    if continues first then
      if (String.ofList first).utf8ByteSize > initialLineLimit then .error "message too large"
      else .error ("malformed MIME header initial line: " ++ Text.quote (String.ofList first))
    else collectFields (lines.length + 1) lines []
  | [] => .error "unexpected EOF"

/-- The values of the fields filed under a name, in order. -/
def fieldValues (fields : List Field) (name : String) : List String :=
  (fields.filter (·.name == name)).map (·.value)

end Http

end MissionControl
