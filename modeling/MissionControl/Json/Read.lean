import MissionControl.Json.Basic

/-!
# Reading JSON documents

`Json.parse` reads one document from a line of text. The grammar is the standard one: blanks
are space, tab, line feed and carriage return; a number is an optional minus, an integer part
without leading zeros, an optional fraction and an optional exponent, and is kept as written;
a string may not hold a raw control character. An escaped UTF-16 surrogate pair stands for
one character, and a surrogate that is not part of a pair reads as U+FFFD, the replacement
character.

Nesting is read by recursion on a fuel argument that the entry point computes from the length
of the text: every step of the reader consumes at least one character, so the fuel never runs
out on a document that can be read.
-/

namespace MissionControl

namespace Json

/-- The blanks allowed between the tokens of a document. -/
def isBlank (c : Char) : Bool := c = ' ' || c = '\t' || c = '\n' || c = '\r'

/-- The text after the leading blanks. -/
def skipBlank : List Char → List Char
  | c :: cs => if isBlank c then skipBlank cs else c :: cs
  | [] => []

/-- The value of a hexadecimal digit. -/
def hexValue? (c : Char) : Option Nat :=
  if '0' ≤ c && c ≤ '9' then some (c.toNat - '0'.toNat)
  else if 'a' ≤ c && c ≤ 'f' then some (c.toNat - 'a'.toNat + 10)
  else if 'A' ≤ c && c ≤ 'F' then some (c.toNat - 'A'.toNat + 10)
  else none

/-- The code unit written by four hexadecimal digits. -/
def unit? (a b c d : Char) : Option Nat := do
  let a ← hexValue? a
  let b ← hexValue? b
  let c ← hexValue? c
  let d ← hexValue? d
  pure (((a * 16 + b) * 16 + c) * 16 + d)

/-- A code unit that is half of a surrogate pair. -/
def isSurrogate (u : Nat) : Bool := 0xD800 ≤ u && u < 0xE000

/-- The character of a single code unit; half of a surrogate pair on its own reads as the
replacement character U+FFFD. -/
def charOfUnit (u : Nat) : Char :=
  if isSurrogate u then Char.ofNat 0xFFFD else Char.ofNat u

/-- The characters of a string up to its closing quote, and the text after it. `acc` holds
the characters read so far, last first. -/
def scanString (acc : List Char) : List Char → Option (String × List Char)
  | [] => none
  | '"' :: rest => some (String.ofList acc.reverse, rest)
  | '\\' :: '"' :: rest => scanString ('"' :: acc) rest
  | '\\' :: '\\' :: rest => scanString ('\\' :: acc) rest
  | '\\' :: '/' :: rest => scanString ('/' :: acc) rest
  | '\\' :: 'b' :: rest => scanString ('\x08' :: acc) rest
  | '\\' :: 'f' :: rest => scanString ('\x0c' :: acc) rest
  | '\\' :: 'n' :: rest => scanString ('\n' :: acc) rest
  | '\\' :: 'r' :: rest => scanString ('\r' :: acc) rest
  | '\\' :: 't' :: rest => scanString ('\t' :: acc) rest
  | '\\' :: 'u' :: a :: b :: c :: d :: tail@('\\' :: 'u' :: e :: f :: g :: h :: rest) =>
    match unit? a b c d, unit? e f g h with
    | some hi, some lo =>
      if 0xD800 ≤ hi && hi < 0xDC00 && 0xDC00 ≤ lo && lo < 0xE000 then
        scanString (Char.ofNat (0x10000 + (hi - 0xD800) * 0x400 + (lo - 0xDC00)) :: acc) rest
      else scanString (charOfUnit hi :: acc) tail
    | some hi, none => scanString (charOfUnit hi :: acc) tail
    | none, _ => none
  | '\\' :: 'u' :: a :: b :: c :: d :: rest =>
    match unit? a b c d with
    | some u => scanString (charOfUnit u :: acc) rest
    | none => none
  | '\\' :: _ => none
  | c :: rest => if c.val < 0x20 then none else scanString (c :: acc) rest

/-- The leading decimal digits and the text after them. -/
def spanDigits (cs : List Char) : List Char × List Char :=
  (cs.takeWhile Char.isDigit, cs.dropWhile Char.isDigit)

/-- A number literal at the front of the text, and the text after it. -/
def scanNumber (cs : List Char) : Option (String × List Char) := do
  let (sign, cs) := match cs with
    | '-' :: rest => (['-'], rest)
    | _ => ([], cs)
  let (whole, cs) ← match cs with
    | '0' :: rest => some (['0'], rest)
    | c :: _ =>
      if c.isDigit then some (spanDigits cs) else none
    | [] => none
  let (frac, cs) ← match cs with
    | '.' :: rest =>
      let (ds, rest) := spanDigits rest
      if ds.isEmpty then none else some ('.' :: ds, rest)
    | _ => some ([], cs)
  let (expo, cs) ← match cs with
    | e :: rest =>
      if e = 'e' || e = 'E' then
        let (sgn, rest) := match rest with
          | '+' :: r => (['+'], r)
          | '-' :: r => (['-'], r)
          | _ => ([], rest)
        let (ds, rest) := spanDigits rest
        if ds.isEmpty then none else some (e :: sgn ++ ds, rest)
      else some ([], cs)
    | [] => some ([], cs)
  pure (String.ofList (sign ++ whole ++ frac ++ expo), cs)

mutual
/-- One document at the front of the text (after blanks), and the text after it. -/
def parseValue : Nat → List Char → Option (Json × List Char)
  | 0, _ => none
  | fuel + 1, cs =>
    match skipBlank cs with
    | 'n' :: 'u' :: 'l' :: 'l' :: rest => some (.null, rest)
    | 't' :: 'r' :: 'u' :: 'e' :: rest => some (.bool true, rest)
    | 'f' :: 'a' :: 'l' :: 's' :: 'e' :: rest => some (.bool false, rest)
    | '"' :: rest => (scanString [] rest).map fun r => (.str r.1, r.2)
    | '[' :: rest =>
      match skipBlank rest with
      | ']' :: after => some (.arr [], after)
      | _ => parseItems fuel [] rest
    | '{' :: rest =>
      match skipBlank rest with
      | '}' :: after => some (.obj [], after)
      | _ => parseMembers fuel [] rest
    | other => (scanNumber other).map fun r => (.num r.1, r.2)

/-- The items of an array after its opening bracket; `acc` holds those read, last first. -/
def parseItems : Nat → List Json → List Char → Option (Json × List Char)
  | 0, _, _ => none
  | fuel + 1, acc, cs =>
    match parseValue fuel cs with
    | none => none
    | some (v, rest) =>
      match skipBlank rest with
      | ',' :: more => parseItems fuel (v :: acc) more
      | ']' :: after => some (.arr (v :: acc).reverse, after)
      | _ => none

/-- The members of an object after its opening brace; `acc` holds those read, last first. -/
def parseMembers : Nat → List (String × Json) → List Char → Option (Json × List Char)
  | 0, _, _ => none
  | fuel + 1, acc, cs =>
    match skipBlank cs with
    | '"' :: rest =>
      match scanString [] rest with
      | none => none
      | some (key, rest) =>
        match skipBlank rest with
        | ':' :: rest =>
          match parseValue fuel rest with
          | none => none
          | some (v, rest) =>
            match skipBlank rest with
            | ',' :: more => parseMembers fuel ((key, v) :: acc) more
            | '}' :: after => some (.obj ((key, v) :: acc).reverse, after)
            | _ => none
        | _ => none
    | _ => none
end

/-- The document that a whole line of text holds, if it holds exactly one. -/
def parse (text : String) : Option Json :=
  let cs := text.toList
  match parseValue (2 * cs.length + 2) cs with
  | some (j, rest) => if (skipBlank rest).isEmpty then some j else none
  | none => none

end Json

end MissionControl
