import MissionControl.Toml.Value
import MissionControl.Text.Quoted

/-!
# Lexical pieces of TOML

Each piece is a step parser: it reads a prefix of the input and hands back the rest, or stops
with a fault that says why and where. Only space and tab are blanks; a line break is a line
feed or a carriage return (the document reader deals with control characters and with a
carriage return that does not come before a line feed).

## Where a fault is

A fault names a place, from which the reader tells its line:

* most faults sit just before the unread input, after the character that was refused, so a
  refused line feed is reported on the line it starts;
* a fault found by running into the end of the input sits on the last line, not counting a
  line feed that ends the document;
* a line break inside a one-line string, and a bad escape at the very end of the input, are
  reported on the line before.

## Strings

* a basic string `"..."` takes the escapes `\b \t \n \f \r \e \" \\`, `\xHH`, and `\uXXXX` and
  `\UXXXXXXXX` naming a Unicode scalar value, and no line break;
* a multi-line basic string `"""..."""` takes the same escapes and also drops a backslash that
  ends a line, with every blank and line break after it;
* a literal string `'...'` is taken as written, without a line break;
* a multi-line literal string `'''...'''` is taken as written.

Both multi-line forms drop a line break right after the opening delimiter, and may end with one
or two quotes of their own just before the closing three; six quotes in a row are refused.

A string is checked in two passes, as it is read and then as it is decoded. Reading refuses an
unknown escape letter, too few hexadecimal digits, a line break in a one-line string and a
missing closing delimiter, at the place it finds them. Decoding refuses a backslash before a
blank that does not end a line, and a `\u` or `\U` code that names no scalar value; it runs
only on a string that read well, and reports the first such escape at the string's end.

## Keys

A key is one or more parts joined by dots, blanks allowed around each dot; a part is a bare
name (a run of bare key characters, which reading lets be empty and the next check then
refuses), a basic string or a literal string. A key-value's key ends at its `=`; a table
header's name ends at its `]`, or `]]` for an array of tables.
-/

namespace MissionControl

namespace Toml

/-- Where reading stopped, to tell its line. -/
inductive Place where
  /-- Just before the unread input `rest`. -/
  | before (rest : List Char)
  /-- Past the end of the input. -/
  | pastEnd
  /-- On the line before the one on which `rest` starts. -/
  | lineBefore (rest : List Char)
  deriving Inhabited

/-- Why and where reading stopped. -/
structure Fault where
  message : String
  place : Place
  deriving Inhabited

/-- A step parser: reads a prefix of the input and hands back the rest. -/
abbrev Step (α : Type) := List Char → Except Fault (α × List Char)

/-- Stops reading with `message` at `place`. -/
def fault {α : Type} (message : String) (place : Place) : Except Fault α :=
  .error { message, place }

/-- Whether a character is a blank. -/
def isBlank (c : Char) : Bool := c == ' ' || c == '\t'

/-- Whether a character breaks a line. -/
def isLineBreak (c : Char) : Bool := c == '\n' || c == '\r'

/-- Whether a character is a hexadecimal digit. -/
def isHexDigit (c : Char) : Bool :=
  c.isDigit || ('a' ≤ c && c ≤ 'f') || ('A' ≤ c && c ≤ 'F')

/-- The value of a hexadecimal digit. -/
def hexDigitValue (c : Char) : Nat :=
  if c.isDigit then c.toNat - '0'.toNat
  else if 'a' ≤ c && c ≤ 'f' then c.toNat - 'a'.toNat + 10
  else c.toNat - 'A'.toNat + 10

/-- The input without its leading blanks. -/
def skipBlanks (cs : List Char) : List Char := cs.dropWhile isBlank

/-- The input from the line break that ends a comment (or its end). -/
def skipComment (cs : List Char) : List Char := cs.dropWhile fun c => !isLineBreak c

/-- A character in single quotes as messages show it, the end of the input as the NUL
character. -/
def quotedNext : List Char → String
  | [] => Text.quoteChar (Char.ofNat 0)
  | c :: _ => Text.quoteChar c

/-- A character as it stands in a message, the end of the input as the NUL character. -/
def shownNext : List Char → String
  | [] => "\x00"
  | c :: _ => c.toString

/-- The place of a fault about the next character `cs` holds, once it has been read. -/
def placeAfterNext : List Char → Place
  | [] => .pastEnd
  | _ :: rest => .before rest

/-- The character named by hexadecimal digits, when they name a Unicode scalar value. -/
def scalarOfHex? (ds : List Char) : Option Char :=
  if ds.all isHexDigit then
    let v := ds.foldl (fun acc c => acc * 16 + hexDigitValue c) 0
    if v < 0xD800 || (0xDFFF < v && v ≤ 0x10FFFF) then some (Char.ofNat v) else none
  else none

/-- The character a one-letter escape stands for. -/
def simpleEscape? : Char → Option Char
  | 'b' => some '\x08'
  | 't' => some '\t'
  | 'n' => some '\n'
  | 'f' => some '\x0c'
  | 'r' => some '\r'
  | 'e' => some '\x1b'
  | '"' => some '"'
  | '\\' => some '\\'
  | _ => none

/-- `count` hexadecimal digits of an escape after its letter, read onto `raw` (the string's text
so far, backwards). Another character stops reading, and the message shows the text so far with
that character; the end of the input stops it too. -/
def hexDigits (what : String) (letter : Char) : Nat → List Char → List Char →
    Except Fault (List Char × List Char × List Char)
  | 0, raw, cs => .ok ([], raw, cs)
  | n + 1, raw, cs =>
    let message (seen : List Char) : String :=
      "expected " ++ what ++ " hexadecimal digits after '\\" ++ letter.toString ++ "', but got " ++
        Text.quote (String.ofList seen.reverse) ++ " instead"
    match cs with
    | c :: rest =>
      if isHexDigit c then do
        let (ds, raw', more) ← hexDigits what letter n (c :: raw) rest
        pure (c :: ds, raw', more)
      else fault (message (c :: raw)) (.before rest)
    | [] => fault (message raw) .pastEnd

/-- A read escape: the characters it stands for, the problem decoding will find with it (if
any), the string's text so far (backwards) and the rest. -/
structure EscapeRead where
  chars : List Char
  problem : Option String
  raw : List Char
  rest : List Char

/-- A Unicode escape's code, decoded: its character, or the problem it is. -/
def codeEscape (ds : List Char) : List Char × Option String :=
  match scalarOfHex? ds with
  | some c => ([c], none)
  | none => ([], some ("Escaped character '\\u" ++ String.ofList ds ++ "' is not valid UTF-8."))

/-- The escape after a backslash in a basic string; `raw` is the text read so far, backslash
included, backwards. -/
def escapeAfter (raw : List Char) : List Char → Except Fault EscapeRead
  | [] => fault "invalid escape in string '\\\x00'" (.lineBefore [])
  | e :: rest =>
    match simpleEscape? e with
    | some d => .ok { chars := [d], problem := none, raw := e :: raw, rest }
    | none =>
      if isBlank e then
        .ok { chars := [], problem := some ("invalid escape: '\\" ++ e.toString ++ "'"),
              raw := e :: raw, rest }
      else if e == 'x' then do
        let (ds, raw', more) ← hexDigits "two" 'x' 2 (e :: raw) rest
        pure { chars := (scalarOfHex? ds).toList, problem := none, raw := raw', rest := more }
      else if e == 'u' then do
        let (ds, raw', more) ← hexDigits "four" 'u' 4 (e :: raw) rest
        let (chars, problem) := codeEscape ds
        pure { chars, problem, raw := raw', rest := more }
      else if e == 'U' then do
        let (ds, raw', more) ← hexDigits "eight" 'U' 8 (e :: raw) rest
        let (chars, problem) := codeEscape ds
        pure { chars, problem, raw := raw', rest := more }
      else fault ("invalid escape in string '\\" ++ e.toString ++ "'") (.before rest)

/-- The end of a string that read well: refused at `place` when decoding found a problem. -/
def finishString (acc : List Char) (problem : Option String) (place : Place) (rest : List Char) :
    Except Fault (String × List Char) :=
  match problem with
  | some m => fault m place
  | none => .ok (String.ofList acc.reverse, rest)

/-- The body of a basic string after its opening quote, through its closing quote; `acc` holds
the decoded characters and `raw` the text read, both backwards, and `problem` the first escape
decoding refuses. -/
def basicBody : Nat → List Char → List Char → Option String → Step String
  | 0, _, _, _, cs => fault "string too long" (.before cs)
  | _, _, _, _, [] => fault "unexpected EOF; expected '\"'" .pastEnd
  | n + 1, acc, raw, problem, c :: rest =>
    if isLineBreak c then fault "strings cannot contain newlines" (.lineBefore rest)
    else if c == '\\' then do
      let e ← escapeAfter (c :: raw) rest
      basicBody n (e.chars.reverse ++ acc) e.raw (problem <|> e.problem) e.rest
    else if c == '"' then finishString acc problem (.before rest) rest
    else basicBody n (c :: acc) (c :: raw) problem rest

/-- The body of a literal string after its opening quote, through its closing quote. -/
def literalBody : List Char → Step String
  | _, [] => fault "unexpected EOF; expected \"'\"" .pastEnd
  | acc, c :: rest =>
    if isLineBreak c then fault "strings cannot contain newlines" (.lineBefore rest)
    else if c == '\'' then .ok (String.ofList acc.reverse, rest)
    else literalBody (c :: acc) rest

/-- The end of a multi-line string whose closing three quotes `q` are behind, with `rest` after
them: up to two more quotes belong to the string, and a sixth quote in a row is refused after
the fifth. -/
def closeRun (q : Char) (acc : List Char) (problem : Option String) (rest : List Char) :
    Except Fault (String × List Char) :=
  let extra := (rest.takeWhile (· == q)).length
  if extra ≥ 3 then
    let six := String.ofList (List.replicate 6 q)
    fault ("unexpected " ++ (if q == '"' then "'" ++ six ++ "'" else "\"" ++ six ++ "\""))
      (.before (rest.drop 2))
  else
    let after := rest.drop extra
    finishString (List.replicate extra q ++ acc) problem (.before after) after

/-- The blanks and line breaks after a backslash in a multi-line basic string: the run read
(backwards, onto `raw`), whether it holds a line feed, and the rest. -/
def blankRun : List Char → List Char → Bool → List Char × Bool × List Char
  | raw, [], seen => (raw, seen, [])
  | raw, c :: rest, seen =>
    if isBlank c || isLineBreak c then blankRun (c :: raw) rest (seen || c == '\n')
    else (raw, seen, c :: rest)

/-- The body of a multi-line basic string after its opening quotes, through its closing ones. -/
def multiBasicBody : Nat → List Char → List Char → Option String → Step String
  | 0, _, _, _, cs => fault "string too long" (.before cs)
  | _, _, _, _, [] => fault "unexpected EOF; expected '\"\"\"'" .pastEnd
  | n + 1, acc, raw, problem, c :: rest =>
    if c == '"' && rest.take 2 == ['"', '"'] then closeRun '"' acc problem (rest.drop 2)
    else if c == '\\' then
      match rest with
      | d :: more =>
        if isBlank d || isLineBreak d then
          let (raw', ends, after) := blankRun (c :: raw) rest false
          if ends then multiBasicBody n acc raw' problem after
          else
            multiBasicBody n acc (d :: c :: raw)
              (problem <|> some ("invalid escape: '\\" ++ d.toString ++ "'")) more
        else do
          let e ← escapeAfter (c :: raw) rest
          multiBasicBody n (e.chars.reverse ++ acc) e.raw (problem <|> e.problem) e.rest
      | [] => fault "invalid escape in string '\\\x00'" (.lineBefore [])
    else multiBasicBody n (c :: acc) (c :: raw) problem rest

/-- The body of a multi-line literal string after its opening quotes, through its closing
ones. -/
def multiLiteralBody : List Char → Step String
  | _, [] => fault "unexpected EOF; expected \"'''\"" .pastEnd
  | acc, c :: rest =>
    if c == '\'' && rest.take 2 == ['\'', '\''] then closeRun '\'' acc none (rest.drop 2)
    else multiLiteralBody (c :: acc) rest

/-- The input without one line break at its front, and that line break. -/
def splitLineBreak : List Char → List Char × List Char
  | '\n' :: rest => (['\n'], rest)
  | '\r' :: '\n' :: rest => (['\n', '\r'], rest)
  | cs => ([], cs)

/-- A string of any of the four forms, from its opening delimiter. -/
def stringValue : Step String
  | '"' :: '"' :: '"' :: rest =>
    let (dropped, body) := splitLineBreak rest
    multiBasicBody (rest.length + 1) [] dropped none body
  | '"' :: rest => basicBody (rest.length + 1) [] [] none rest
  | '\'' :: '\'' :: '\'' :: rest => multiLiteralBody [] (splitLineBreak rest).2
  | '\'' :: rest => literalBody [] rest
  | cs => fault "expected a string" (.before cs)

/-- A key part at the front, known not to start with `=`, `.`, `]` or the end: a one-line
string, or a bare name that may be empty. -/
def namePart : Step String
  | '"' :: rest => basicBody (rest.length + 1) [] [] none rest
  | '\'' :: rest => literalBody [] rest
  | cs =>
    let name := cs.takeWhile isBareKeyChar
    .ok (String.ofList name, cs.drop name.length)

/-- One part of a key-value's key, blanks before it skipped; `first` tells whether it is the
first part. -/
def keyPart (first : Bool) (cs : List Char) : Except Fault (String × List Char) :=
  let cs := skipBlanks cs
  match cs with
  | [] | '=' :: _ =>
    fault (if first then "unexpected '=': key name appears blank" else "unexpected '='") (.before cs)
  | '.' :: _ =>
    fault (if first then "unexpected '.': keys cannot start with a '.'" else "unexpected '.'")
      (.before cs)
  | _ => namePart cs

/-- The parts of a key-value's key after those in `parts`, up to and including its `=`. -/
def keyRest : Nat → List String → List Char → Except Fault (List String × List Char)
  | 0, _, cs => fault "key too long" (.before cs)
  | n + 1, parts, cs =>
    match skipBlanks cs with
    | [] => fault "unexpected EOF; expected key separator '='" .pastEnd
    | '.' :: rest => do
      let (p, more) ← keyPart false rest
      keyRest n (parts ++ [p]) more
    | '=' :: rest => .ok (parts, rest)
    | c :: rest =>
      fault ("expected '.' or '=', but got " ++ Text.quoteChar c ++ " instead")
        (if c == '\n' then .lineBefore rest else .before rest)

/-- A key-value's key, through its `=`: its parts and the input after the `=`. -/
def keyParts (cs : List Char) : Except Fault (List String × List Char) := do
  let (p, rest) ← keyPart true cs
  keyRest (rest.length + 1) [p] rest

/-- One part of a table name, blanks before it skipped. -/
def tableNamePart (cs : List Char) : Except Fault (String × List Char) :=
  let cs := skipBlanks cs
  match cs with
  | [] | ']' :: _ => fault "unexpected end of table name (table names cannot be empty)" (.before cs)
  | '.' :: _ => fault "unexpected table separator (table names cannot be empty)" (.before cs)
  | _ => namePart cs

/-- The parts of a table name after those in `parts`, through its closing bracket(s);
`array` tells whether it names an array of tables. -/
def tableNameRest (array : Bool) : Nat → List String → List Char →
    Except Fault (List String × List Char)
  | 0, _, cs => fault "table name too long" (.before cs)
  | n + 1, parts, cs =>
    match skipBlanks cs with
    | '.' :: rest => do
      let (p, more) ← tableNamePart rest
      tableNameRest array n (parts ++ [p]) more
    | ']' :: rest =>
      if !array then .ok (parts, rest)
      else
        match rest with
        | ']' :: more => .ok (parts, more)
        | _ =>
          fault ("expected end of table array name delimiter ']', but got " ++ quotedNext rest ++
            " instead") (placeAfterNext rest)
    | rest =>
      fault ("expected '.' or ']' to end table name, but got " ++ quotedNext rest ++ " instead")
        (placeAfterNext rest)

/-- A table header's name after its opening bracket(s), through its closing one(s). -/
def tableName (array : Bool) (cs : List Char) : Except Fault (List String × List Char) := do
  let (p, rest) ← tableNamePart cs
  tableNameRest array (rest.length + 1) [p] rest

end Toml

end MissionControl
