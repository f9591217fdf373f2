import MissionControl.Text.Quoted

/-!
# Command-line flags

A command accepts named flags, each a text or a switch, some with a one-letter short form.
The arguments are read from the left:

* `--` ends the flags; the remaining arguments are positional;
* an argument that does not start with `-`, or is `-` alone, is positional, and reading goes on;
* `--name=value` sets a flag; `--name` sets a switch to true or takes the next argument as a
  text's value (failing when there is none); a name that is empty or starts with `-` or `=` is
  bad syntax; an unknown name fails, except `help`, which asks for help;
* `-abc` reads short forms one after another: `-a=value` and `-avalue` give a text flag its value
  from the same argument (which ends it), a switch is set to true, and a text flag with nothing
  after it in the argument takes the next argument. An unknown letter fails, except `h`, which
  asks for help.

A switch's value must read as a truth value (`1 t T TRUE true True`, `0 f F FALSE false False`).
-/

namespace MissionControl

namespace Cli

/-- A flag a command accepts. -/
structure FlagSpec where
  name : String
  short : Option Char := none
  /-- Whether the flag takes a text; otherwise it is a switch. -/
  takesText : Bool
  usage : String
  /-- The default as written in the usage; empty (or `false` for a switch) is not shown. -/
  default : String := ""
  deriving Inhabited

/-- Why reading the command line stopped. -/
inductive FlagStop where
  | help
  | failure (message : String)
  deriving Inhabited

/-- What the command line sets: flags by name in the order set, and positional arguments. -/
structure Parsed where
  values : List (String × String) := []
  args : List String := []
  deriving Inhabited

/-- The value last given to a flag. -/
def Parsed.get? (p : Parsed) (name : String) : Option String :=
  (p.values.filter (·.1 == name)).getLast?.map (·.2)

/-- Whether a flag was set. -/
def Parsed.changed (p : Parsed) (name : String) : Bool := p.values.any (·.1 == name)

/-- A truth value as a switch reads it. -/
def parseTruth? (s : String) : Option Bool :=
  if ["1", "t", "T", "TRUE", "true", "True"].contains s then some true
  else if ["0", "f", "F", "FALSE", "false", "False"].contains s then some false
  else none

/-- How a flag is named in an error about its value. -/
def FlagSpec.label (f : FlagSpec) : String :=
  match f.short with
  | some c => "-" ++ c.toString ++ ", --" ++ f.name
  | none => "--" ++ f.name

/-- The flags with `f` given `value`, or why the value is refused. -/
def setFlag (p : Parsed) (f : FlagSpec) (value : String) : Except FlagStop Parsed :=
  if f.takesText then .ok { p with values := p.values ++ [(f.name, value)] }
  else
    match parseTruth? value with
    | some b => .ok { p with values := p.values ++ [(f.name, if b then "true" else "false")] }
    | none => .error (.failure ("invalid argument " ++ Text.quote value ++ " for " ++
        Text.quote f.label ++ " flag: strconv.ParseBool: parsing " ++ Text.quote value ++
        ": invalid syntax"))

/-- The flag of a long name. -/
def longFlag? (specs : List FlagSpec) (name : String) : Option FlagSpec :=
  specs.find? (·.name == name)

/-- The flag of a short form. -/
def shortFlag? (specs : List FlagSpec) (c : Char) : Option FlagSpec :=
  specs.find? (·.short == some c)

/-- The first byte of a character's UTF-8 encoding, as the character of that code point: an
unknown short form is named by the byte it starts with. -/
def leadByte (c : Char) : Char :=
  match c.toString.toUTF8.data[0]? with
  | some b => Char.ofNat b.toNat
  | none => c

/-- Reads the short forms left in one argument; `rest` are the arguments after it. Returns the
flags and the arguments still to read. What is left from a `test.` on is skipped: it belongs
to the test runner. -/
def readShorts (specs : List FlagSpec) (rest : List String) :
    List Char → Parsed → Except FlagStop (Parsed × List String)
  | [], p => .ok (p, rest)
  | c :: more, p =>
    if "test.".toList.isPrefixOf (c :: more) then .ok (p, rest)
    else
    match shortFlag? specs c with
    | none =>
      if c == 'h' then .error .help
      else .error (.failure ("unknown shorthand flag: " ++ Text.quoteChar (leadByte c) ++ " in -" ++
        String.ofList (c :: more)))
    | some f =>
      match more with
      | '=' :: value@(_ :: _) => do
        let p ← setFlag p f (String.ofList value)
        .ok (p, rest)
      | _ =>
        if !f.takesText then do
          let p ← setFlag p f "true"
          readShorts specs rest more p
        else if !more.isEmpty then do
          let p ← setFlag p f (String.ofList more)
          .ok (p, rest)
        else
          match rest with
          | value :: after => do
            let p ← setFlag p f value
            .ok (p, after)
          | [] => .error (.failure ("flag needs an argument: " ++ Text.quoteChar c ++ " in -" ++
              c.toString))

/-- Reads a long flag `--body`; `rest` are the arguments after it. -/
def readLong (specs : List FlagSpec) (arg : String) (body : List Char) (rest : List String)
    (p : Parsed) : Except FlagStop (Parsed × List String) :=
  match body with
  | [] | '-' :: _ | '=' :: _ => .error (.failure ("bad flag syntax: " ++ arg))
  | _ =>
    let name := String.ofList (body.takeWhile (· != '='))
    let value? := match body.dropWhile (· != '=') with
      | '=' :: v => some (String.ofList v)
      | _ => none
    match longFlag? specs name with
    | none =>
      if name == "help" then .error .help
      else .error (.failure ("unknown flag: --" ++ name))
    | some f =>
      match value? with
      | some v => do
        let p ← setFlag p f v
        .ok (p, rest)
      | none =>
        if !f.takesText then do
          let p ← setFlag p f "true"
          .ok (p, rest)
        else
          match rest with
          | v :: after => do
            let p ← setFlag p f v
            .ok (p, after)
          | [] => .error (.failure ("flag needs an argument: " ++ arg))

/-- Reads the arguments. -/
def readArgs (specs : List FlagSpec) : Nat → List String → Parsed → Except FlagStop Parsed
  | 0, _, p => .ok p
  | _, [], p => .ok p
  | n + 1, arg :: rest, p =>
    match arg.toList with
    | '-' :: '-' :: [] => .ok { p with args := p.args ++ rest }
    | '-' :: '-' :: body => do
      let (p, more) ← readLong specs arg body rest p
      readArgs specs n more p
    | '-' :: c :: shorts => do
      let (p, more) ← readShorts specs rest (c :: shorts) p
      readArgs specs n more p
    | _ => readArgs specs n rest { p with args := p.args ++ [arg] }

/-- Reads a command line. -/
def parseFlags (specs : List FlagSpec) (args : List String) : Except FlagStop Parsed :=
  readArgs specs (args.length + 1) args {}

/-- The left column of a flag's usage line. -/
def FlagSpec.usageHead (f : FlagSpec) : String :=
  (match f.short with
    | some c => "  -" ++ c.toString ++ ", --" ++ f.name
    | none => "      --" ++ f.name) ++ (if f.takesText then " string" else "")

/-- The text of a flag's usage line after the column. -/
def FlagSpec.usageText (f : FlagSpec) : String :=
  if f.default.isEmpty || (!f.takesText && f.default == "false") then f.usage
  else if f.takesText then f.usage ++ " (default " ++ Text.quote f.default ++ ")"
  else f.usage ++ " (default " ++ f.default ++ ")"

/-- The usage lines of the flags, sorted by name, their texts aligned one column past the
longest left column. -/
def flagUsages (specs : List FlagSpec) : String :=
  let sorted := specs.mergeSort fun a b => a.name ≤ b.name
  let width := sorted.foldl (fun m f => max m (f.usageHead.length + 1)) 0
  String.join (sorted.map fun f =>
    f.usageHead ++ " " ++ String.ofList (List.replicate (width - f.usageHead.length) ' ') ++ " " ++
      f.usageText ++ "\n")

end Cli

end MissionControl
