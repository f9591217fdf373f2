import MissionControl.Toml.Scalar

/-!
# Reading a TOML document

The reader keeps the document's table, the current table (the context: set by a `[table]` or
`[[array]]` header, and extended while a dotted key or an inline table is read), the keys that
were made implicitly, the keys whose value is a static array, and every key path in the order it
appears (tables and arrays of tables by their header, every key-value by its full path; the
tables a dotted key passes through are not listed).

Definitions follow these rules.

* A key may be defined once. A second definition is accepted only when the key was made
  implicitly; it then stops being implicit, so a third definition is refused. The table made
  implicitly is kept, unless the key now holds a static array: an inline table among the
  array's items makes its key implicitly, and the array replaces the table made for it.
* A header or a dotted key makes every missing table on its path, implicitly; on the way an
  array of tables stands for its last table, and any other value is refused.
* `[[name]]` appends a table to an array of tables, which must be one if the key is taken.
* A dotted key marks each table it passes through as implicit before defining it, so it may
  pass through a table that already exists.
* An inline table is defined in the document as it is read, then given to its key.

A value must be followed by blanks, an optional comment and a line break or the end; arrays
and inline tables may span lines, hold comments and end with a comma. A byte order mark at the
start is skipped; control characters other than tab and line breaks are refused, as is a
carriage return that is not followed by a line feed.

## Errors

An error names its line and the key being read when it was found: the current table's key
and, once a key-value's key has been read, that key's last part (a key-value at the top level
drops it again when it is done; an entry of an inline table keeps it until the next entry's key
is read). Faults of the text are reported where they are found; a definition that breaks the
rules is reported on the line of the key read last, which for an inline table value is the
last key inside it.

A control character is found where it stands, unless something before it already failed; a
NUL byte among the first six bytes is refused before anything else is read. A number, a
date-time, a boolean or a multi-line string is only complete once the character after it has
been seen, so a control character right after one is found while its key is still being read:
before the value is judged or defined.
-/

namespace MissionControl

namespace Toml

/-- Why a document does not read: the message, its line, and the key being read then (empty
for none). -/
structure ReadError where
  line : Nat
  lastKey : String
  message : String
  deriving Inhabited

/-- The text of a reading error. -/
def ReadError.text (e : ReadError) : String :=
  if e.lastKey.isEmpty then "toml: line " ++ toString e.line ++ ": " ++ e.message
  else "toml: line " ++ toString e.line ++ " (last key " ++ Text.quote e.lastKey ++ "): " ++ e.message

/-- The reader stopped: the error, and whether it was found at the end of the input. -/
structure Halt where
  error : ReadError
  atEnd : Bool
  deriving Inhabited

/-- A document read so far. -/
structure Builder where
  root : Table := []
  implicit : List String := []
  arrays : List String := []
  context : List String := []
  ordered : List (List String) := []
  /-- The number of line feeds in the whole document. -/
  breaks : Nat := 0
  /-- Whether the document ends with a line feed. -/
  endsWithFeed : Bool := false
  /-- The line of each defined key's value and of each header, by key text. -/
  positions : List (String × Nat) := []
  /-- The last part of the key-value's key being read, or empty. -/
  currentKey : String := ""
  /-- The line of the key read last. -/
  keyLine : Nat := 1
  /-- Whether the input stops at a character the document may not hold. -/
  cut : Bool := false
  deriving Inhabited

/-- Reading a document: a builder that may stop. -/
abbrev BuildM := StateT Builder (Except Halt)

/-- The key being read, as errors show it. -/
def Builder.lastKey (b : Builder) : String :=
  if b.currentKey.isEmpty then keyText b.context
  else if b.context.isEmpty then b.currentKey
  else keyText b.context ++ "." ++ b.currentKey

/-- The line, counted from 1, at which the input `rest` starts, in a document with `breaks`
line feeds. -/
def lineAt (breaks : Nat) (rest : List Char) : Nat := breaks - rest.count '\n' + 1

/-- The line of a place in the document. -/
def Builder.lineOf (b : Builder) : Place → Nat
  | .before rest => lineAt b.breaks rest
  | .pastEnd => if b.endsWithFeed then b.breaks else b.breaks + 1
  | .lineBefore rest => lineAt b.breaks rest - 1

/-- Whether a place is at the end of the input. -/
def Place.isEnd : Place → Bool
  | .before [] | .pastEnd | .lineBefore [] => true
  | _ => false

/-- Stops at a fault of the text. -/
def failAt {α : Type} (message : String) (place : Place) : BuildM α := do
  let b ← get
  throw { error := { line := b.lineOf place, lastKey := b.lastKey, message }, atEnd := place.isEnd }

/-- The result of a step on the text. -/
def read {α : Type} : Except Fault α → BuildM α
  | .ok a => pure a
  | .error f => failAt f.message f.place

/-- Stops at a definition that breaks the rules. -/
def refuse {α : Type} (message : String) : BuildM α := do
  let b ← get
  throw { error := { line := b.keyLine, lastKey := b.lastKey, message }, atEnd := false }

/-- Why a table cannot be reached or changed: a value that is not a table at some depth of the
path, or the change itself refused. -/
inductive Blocked where
  | notTable (depth : Nat)
  | refused (message : String)

/-- Runs `f` on the table at `path` below `t`. An array of tables on the way stands for its last
table; missing tables are made when `create` holds, and the depths at which they were made are
reported. -/
def atTable {β : Type} (create : Bool) (f : Table → Except Blocked (Table × β)) :
    Nat → List String → Table → Except Blocked (Table × β × List Nat)
  | _, [], t => do
    let (t', b) ← f t
    pure (t', b, [])
  | d, k :: rest, t =>
    match t.lookup k with
    | none =>
      if create then do
        let (sub, b, made) ← atTable create f (d + 1) rest []
        pure (t ++ [(k, .table sub)], b, d :: made)
      else .error (.notTable d)
    | some (.table sub) => do
      let (sub', b, made) ← atTable create f (d + 1) rest sub
      pure (t.put k (.table sub'), b, made)
    | some (.tables items) =>
      match items.getLast? with
      | some last => do
        let (last', b, made) ← atTable create f (d + 1) rest last
        pure (t.put k (.tables (items.dropLast ++ [last'])), b, made)
      | none => .error (.notTable d)
    | some _ => .error (.notTable d)

/-- The refusal of a second definition of the key `text`. -/
def definedTwice (text : String) : String := "Key '" ++ text ++ "' has already been defined."

/-- Defines `key` (whose full text is `text`) in a table. A present key may be defined again
only when it was made implicitly: it is kept, or replaced when the key holds a static array.
The flag says whether its implicit mark goes. -/
def setIn (text key : String) (v : Value) (isArray isImplicit : Bool) (t : Table) :
    Except Blocked (Table × Bool) :=
  match t.lookup key with
  | some _ =>
    if isImplicit then .ok (if isArray then t.put key v else t, true)
    else .error (.refused (definedTwice text))
  | none => .ok (t ++ [(key, v)], false)

/-- Marks a key as made implicitly. -/
def markImplicit (text : String) : BuildM Unit :=
  modify fun b => if b.implicit.contains text then b else { b with implicit := b.implicit ++ [text] }

/-- Drops the implicit mark of a key. -/
def unmarkImplicit (text : String) : BuildM Unit :=
  modify fun b => { b with implicit := b.implicit.filter (· != text) }

/-- Defines `key` in the current table. A value on the way that is not a table counts as the
key defined twice. -/
def setValue (key : String) (v : Value) : BuildM Unit := do
  let b ← get
  let text := keyText (b.context ++ [key])
  match atTable false (setIn text key v (b.arrays.contains text) (b.implicit.contains text)) 0
      b.context b.root with
  | .ok (root, drop, _) =>
    set { b with root }
    if drop then unmarkImplicit text
  | .error (.notTable d) => refuse (definedTwice (keyText (b.context.take (d + 1))))
  | .error (.refused m) => refuse m

/-- Records whether the key `key` of the current table (the current table itself for `none`)
holds a static array. -/
def setType (key : Option String) (isArray : Bool) : BuildM Unit :=
  modify fun b =>
    let path := match key with
      | some k => b.context ++ [k]
      | none => b.context
    let text := keyText (if path.isEmpty then [""] else path)
    let rest := b.arrays.filter (· != text)
    { b with arrays := if isArray then rest ++ [text] else rest }

/-- Makes `key` the current table: a table (defined now) or a new table of an array of tables.
A value on the way that is not a table is refused while the context is still the old one; a
refused definition of the key itself is reported from the key's parent table. -/
def addContext (key : List String) (array : Bool) : BuildM Unit := do
  let b ← get
  let parents := key.dropLast
  let last := key.getLastD ""
  let text := keyText key
  let step : Table → Except Blocked (Table × Bool) := fun t =>
    if array then
      match t.lookup last with
      | none => .ok (t ++ [(last, .tables [[]])], false)
      | some (.tables items) => .ok (t.put last (.tables (items ++ [[]])), false)
      | some _ =>
        .error (.refused ("Key '" ++ text ++ "' was already created and cannot be used as an array."))
    else setIn text last (.table []) (b.arrays.contains text) (b.implicit.contains text) t
  match atTable true step 0 parents b.root with
  | .ok (root, drop, made) =>
    set { b with root, context := key }
    for d in made do markImplicit (keyText (parents.take (d + 1)))
    if drop then unmarkImplicit text
  | .error (.notTable d) =>
    refuse ("Key '" ++ keyText (parents.take (d + 1)) ++ "' was already created as a hash.")
  | .error (.refused m) =>
    modify fun b => { b with context := parents }
    refuse m

/-- Passes through the table `key` of a dotted key: marked implicit, then made current. -/
def addImplicitContext (key : List String) : BuildM Unit := do
  markImplicit (keyText key)
  addContext key false

/-- Lists a key path. -/
def recordKey (path : List String) : BuildM Unit :=
  modify fun b => { b with ordered := b.ordered ++ [path] }

/-- Notes the line at which the definition of a key path starts. -/
def notePosition (path : List String) (rest : List Char) : BuildM Unit :=
  modify fun b =>
    let text := keyText (if path.isEmpty then [""] else path)
    { b with positions := (text, lineAt b.breaks rest) :: b.positions.filter (·.1 != text) }

/-- Sets a key path in a local table, making tables on the way; `none` when a value on the way
is not a table. -/
def insertPath (t : Table) : List String → String → Value → Option Table
  | [], k, v => some (t.put k v)
  | p :: ps, k, v =>
    match t.lookup p with
    | none => do
      let sub ← insertPath [] ps k v
      pure (t.put p (.table sub))
    | some (.table sub) => do
      let sub' ← insertPath sub ps k v
      pure (t.put p (.table sub'))
    | some _ => none

/-- The input after blanks, line breaks and comments, as allowed between array items. -/
def skipFill : Nat → List Char → List Char
  | 0, cs => cs
  | n + 1, c :: rest =>
    if isBlank c || isLineBreak c then skipFill n rest
    else if c == '#' then skipFill n (skipComment rest)
    else c :: rest
  | _, [] => []

/-- Whether a value starting with these characters is complete only once the character after it
has been seen: a number, a date-time, a boolean or a multi-line string, but not the words `inf`
and `nan` (signed or not) nor a single-line string. -/
def endsOnLookahead : List Char → Bool
  | '"' :: '"' :: '"' :: _ | '\'' :: '\'' :: '\'' :: _ => true
  | '"' :: _ | '\'' :: _ | 'i' :: _ | 'n' :: _ => false
  | s :: 'i' :: _ | s :: 'n' :: _ => !(s == '+' || s == '-')
  | _ => true

/-- The next character as a message names it: in single quotes, or the end of the file. -/
def charOrEnd : List Char → String
  | [] => "end of file"
  | c :: _ => "'" ++ c.toString ++ "'"

mutual

/-- A value after blanks, for the key `current`; `inArray` tells whether it is an array item. -/
def value : Nat → String → Bool → List Char → BuildM (Value × List Char)
  | 0, _, _, cs => failAt "document too deeply nested" (.before cs)
  | n + 1, current, inArray, cs =>
    match skipBlanks cs with
    | '[' :: rest => do
      setType (some current) true
      arrayItems n current rest []
    | '{' :: rest => inlineTable n current inArray rest
    | start => do
      let (v, rest) ← read (scalar start)
      if (← get).cut && rest.isEmpty && endsOnLookahead start then
        failAt "unexpected end of input" (.before [])
      pure (v, rest)

/-- The items of an array after its opening bracket or a comma; `acc` holds those read. -/
def arrayItems : Nat → String → List Char → List Value → BuildM (Value × List Char)
  | 0, _, cs, _ => failAt "document too deeply nested" (.before cs)
  | n + 1, current, cs, acc =>
    match skipFill cs.length cs with
    | ']' :: rest => pure (.array acc.reverse, rest)
    | ',' :: rest => failAt "unexpected comma" (.before rest)
    | start => do
      let (v, rest) ← value n current true start
      match skipFill rest.length rest with
      | ',' :: more => arrayItems n current more (v :: acc)
      | ']' :: more => pure (.array (v :: acc).reverse, more)
      | other =>
        failAt ("expected a comma (',') or array terminator (']'), but got " ++ charOrEnd other)
          (placeAfterNext other)

/-- An inline table after its opening brace, for the key `current`. -/
def inlineTable : Nat → String → Bool → List Char → BuildM (Value × List Char)
  | 0, _, _, cs => failAt "document too deeply nested" (.before cs)
  | n + 1, current, inArray, cs => do
    let b ← get
    let outer := b.context
    let outerKey := b.currentKey
    let ctx := outer ++ [current]
    set { b with context := ctx, currentKey := "" }
    markImplicit (keyText ctx)
    addContext ctx inArray
    let (entries, rest) ← inlineEntries n ctx cs []
    modify fun b => { b with context := outer, currentKey := outerKey }
    pure (.table entries, rest)

/-- The entries of an inline table whose context is `ctx`; `acc` holds those read. -/
def inlineEntries : Nat → List String → List Char → Table → BuildM (Table × List Char)
  | 0, _, cs, _ => failAt "document too deeply nested" (.before cs)
  | n + 1, ctx, cs, acc =>
    match skipFill cs.length cs with
    | '}' :: rest => pure (acc, rest)
    | ',' :: rest => failAt "unexpected comma" (.before rest)
    | start => do
      let ((prefixes, last, v), rest) ← assign n start
      let some acc' := insertPath acc prefixes last v
        | refuse (Text.quote (keyText (← get).context) ++ " is not a table")
      modify fun b => { b with context := ctx }
      match skipFill rest.length rest with
      | ',' :: more => inlineEntries n ctx more acc'
      | '}' :: more => pure (acc', more)
      | other =>
        failAt ("expected a comma or an inline table terminator '\x7d', but got " ++ charOrEnd other ++
          " instead") (placeAfterNext other)

/-- A key-value pair at the front: the key's tables are passed through, the key listed, the
value read and defined. The context is left extended by the key's tables. -/
def assign : Nat → List Char → BuildM ((List String × String × Value) × List Char)
  | 0, cs => failAt "document too deeply nested" (.before cs)
  | n + 1, cs => do
    let (parts, rest) ← read (keyParts cs)
    let prefixes := parts.dropLast
    let last := parts.getLastD ""
    modify fun b => { b with keyLine := b.lineOf (.before (skipBlanks cs)), currentKey := last }
    for p in prefixes do
      addImplicitContext ((← get).context ++ [p])
    recordKey ((← get).context ++ [last])
    let (v, after) ← value n last false rest
    notePosition ((← get).context ++ [last]) (if v.isArray || v.isTable then skipBlanks rest else after)
    setValue last v
    setType (some last) v.isArray
    pure ((prefixes, last, v), after)

end

/-- The input after the end of a line: blanks, an optional comment, then a line break or the
end of the input. -/
def endLine (cs : List Char) : BuildM (List Char) :=
  match skipBlanks cs with
  | '#' :: rest => pure (skipComment rest)
  | [] => pure []
  | c :: rest =>
    if isLineBreak c then pure rest
    else
      failAt ("expected a top-level item to end with a newline, comment, or EOF, but got " ++
        Text.quoteChar c ++ " instead") (.before rest)

/-- The lines of a document. -/
def lines : Nat → List Char → BuildM Unit
  | 0, cs => failAt "document too long" (.before cs)
  | n + 1, cs =>
    match cs.dropWhile fun c => isBlank c || isLineBreak c with
    | [] => pure ()
    | '#' :: rest => lines n (skipComment rest)
    | '[' :: rest => do
      let array := rest.head? == some '['
      let (key, more) ← read (tableName array (if array then rest.drop 1 else rest))
      modify fun b => { b with keyLine := b.lineOf (.before ('[' :: rest)) }
      addContext key array
      setType none false
      notePosition key ('[' :: rest)
      recordKey key
      lines n (← endLine more)
    | start => do
      let outer := (← get).context
      let (_, rest) ← assign n start
      modify fun b => { b with context := outer, currentKey := "" }
      lines n (← endLine rest)

/-- Whether a character may not appear in a document: a control character other than tab and
line breaks. -/
def isForbidden (c : Char) : Bool :=
  (c.toNat < 0x20 && c != '\t' && c != '\n' && c != '\r') || c.toNat == 0x7f

/-- The position of the first character a document may not hold, from `i` on: a forbidden
character, or a carriage return not before a line feed. -/
def firstForbidden? (i : Nat) : List Char → Option Nat
  | [] => none
  | '\r' :: rest => if rest.head? == some '\n' then firstForbidden? (i + 1) rest else some i
  | c :: rest => if isForbidden c then some i else firstForbidden? (i + 1) rest

/-- Whether a NUL byte stands among the first six bytes, `offset` bytes having been passed. -/
def nulNearStart (offset : Nat) : List Char → Bool
  | [] => false
  | c :: rest => offset < 6 && (c == '\x00' || nulNearStart (offset + c.utf8Size) rest)

/-- A read document: its table and its key paths in order, as key texts. -/
structure Document where
  root : Table
  keys : List String
  /-- The line at which each key's definition starts, by key text. -/
  positions : List (String × Nat) := []

/-- Reads the characters of a document into a builder. -/
def readAll (cut : Bool) (cs : List Char) : Except Halt Builder :=
  ((lines (2 * cs.length + 8) cs).run
    { breaks := cs.count '\n', endsWithFeed := cs.getLast? == some '\n', cut }).map (·.2)

/-- Reads a document. -/
def parse (text : String) : Except ReadError Document :=
  let cs := match text.toList with
    | '﻿' :: rest => rest
    | cs => cs
  let finish (b : Builder) : Document :=
    { root := b.root, keys := b.ordered.map keyText, positions := b.positions }
  if nulNearStart 0 cs then
    .error { line := 1, lastKey := "",
             message := "files cannot contain NULL bytes; probably using UTF-16; TOML files must be UTF-8" }
  else
    match firstForbidden? 0 cs with
    | none =>
      match readAll false cs with
      | .ok b => .ok (finish b)
      | .error h => .error h.error
    | some i =>
      let head := cs.take i
      let control (key : String) : ReadError :=
        { line := head.count '\n' + 1, lastKey := key,
          message := "TOML files cannot contain control characters: '0x" ++
            Text.hexPadded 2 (cs.getD i ' ').toNat ++ "'" }
      match readAll true head with
      | .ok b => .error (control b.lastKey)
      | .error h => .error (if h.atEnd then control h.error.lastKey else h.error)

end Toml

end MissionControl
