import MissionControl.Text.Quoted
/-!
# Byte strings as text

Some texts are byte strings that need not be well-formed UTF-8, such as a URL with its
percent escapes decoded. They are read a character at a time: a well-formed encoding (the
shortest one, of a code point that is not a surrogate and at most U+10FFFF) is that
character, and any other byte stands alone as a malformed byte.

A malformed byte is written as the replacement character U+FFFD in plain text, and as `\xHH`
between quotes.
-/

namespace MissionControl

namespace Text

/-- Whether a byte continues a multi-byte encoding. -/
def isContinuation (b : UInt8) : Bool := 0x80 ≤ b.toNat && b.toNat ≤ 0xBF

/-- The character whose encoding starts the bytes, and the bytes after it; `none` when the
first byte does not start a well-formed encoding. The second byte's range depends on the
first, which rules out overlong forms, surrogates and code points above U+10FFFF. -/
def decodeOne : List UInt8 → Option (Char × List UInt8)
  | [] => none
  | b0 :: rest =>
    let n0 := b0.toNat
    let cont (b : UInt8) : Nat := b.toNat - 0x80
    if n0 < 0x80 then some (Char.ofNat n0, rest)
    else if 0xC2 ≤ n0 && n0 ≤ 0xDF then
      match rest with
      | b1 :: more =>
        if isContinuation b1 then some (Char.ofNat ((n0 - 0xC0) * 64 + cont b1), more) else none
      | [] => none
    else if 0xE0 ≤ n0 && n0 ≤ 0xEF then
      let lo := if n0 == 0xE0 then 0xA0 else 0x80
      let hi := if n0 == 0xED then 0x9F else 0xBF
      match rest with
      | b1 :: b2 :: more =>
        if lo ≤ b1.toNat && b1.toNat ≤ hi && isContinuation b2 then
          some (Char.ofNat ((n0 - 0xE0) * 4096 + cont b1 * 64 + cont b2), more)
        else none
      | _ => none
    else if 0xF0 ≤ n0 && n0 ≤ 0xF4 then
      let lo := if n0 == 0xF0 then 0x90 else 0x80
      let hi := if n0 == 0xF4 then 0x8F else 0xBF
      match rest with
      | b1 :: b2 :: b3 :: more =>
        if lo ≤ b1.toNat && b1.toNat ≤ hi && isContinuation b2 && isContinuation b3 then
          some (Char.ofNat ((n0 - 0xF0) * 262144 + cont b1 * 4096 + cont b2 * 64 + cont b3), more)
        else none
      | _ => none
    else none

/-- The pieces of a byte string: characters, or malformed bytes. Each piece takes at least
one byte, so more steps than bytes are enough. -/
def piecesWithin : Nat → List UInt8 → List (Sum Char UInt8)
  | 0, _ => []
  | _ + 1, [] => []
  | n + 1, b :: rest =>
    match decodeOne (b :: rest) with
    | some (c, more) => .inl c :: piecesWithin n more
    | none => .inr b :: piecesWithin n rest

/-- The pieces of a byte string: characters, or malformed bytes. -/
def pieces (bs : List UInt8) : List (Sum Char UInt8) := piecesWithin (bs.length + 1) bs

/-- A byte string as text, each malformed byte as the replacement character. -/
def lossy (bs : List UInt8) : String :=
  String.ofList ((pieces bs).map fun
    | .inl c => c
    | .inr _ => '�')

/-- A byte string in double quotes, each malformed byte as `\xHH`. -/
def quoteBytes (bs : List UInt8) : String :=
  "\"" ++ String.join ((pieces bs).map fun
    | .inl c => escapeIn '"' c
    | .inr b => "\\x" ++ hexPadded 2 b.toNat) ++ "\""

end Text

end MissionControl
