import ApiLint.Numeric.Decimal
import ApiLint.Text.Quoted

/-!
# UTF-8

`Utf8.decode` reads bytes as text, or says which bytes spoil it and why; `Utf8.encode` writes text
as bytes. A text is spoiled by a byte that starts no character, by a character whose bytes break
off before another byte, and by one whose bytes break off at the end.
-/

namespace ApiLint.Text.Utf8

/-- Why bytes are no text. -/
inductive Reason
  | start
  | continuation
  | truncated
deriving DecidableEq

/-- Bytes that are no text: the first bad byte, its offset, how many bytes are bad, and why. -/
structure BadBytes where
  first : UInt8
  offset : Nat
  count : Nat
  reason : Reason
deriving DecidableEq

/-- What the first byte of a character of several bytes says: its part of the code point, how many
bytes follow, and between which bounds the next one lies. -/
structure Lead where
  bits : Nat
  owed : Nat
  least : Nat
  greatest : Nat

/-- What a first byte says, if it starts a character of several bytes. The bounds keep out code
points that are too large, surrogates, and longer forms than necessary. -/
def lead? (b : Nat) : Option Lead :=
  if 0xc2 ≤ b ∧ b ≤ 0xdf then some ⟨b - 0xc0, 1, 0x80, 0xbf⟩
  else if b = 0xe0 then some ⟨0, 2, 0xa0, 0xbf⟩
  else if b = 0xed then some ⟨0xd, 2, 0x80, 0x9f⟩
  else if 0xe1 ≤ b ∧ b ≤ 0xef then some ⟨b - 0xe0, 2, 0x80, 0xbf⟩
  else if b = 0xf0 then some ⟨0, 3, 0x90, 0xbf⟩
  else if 0xf1 ≤ b ∧ b ≤ 0xf3 then some ⟨b - 0xf0, 3, 0x80, 0xbf⟩
  else if b = 0xf4 then some ⟨4, 3, 0x80, 0x8f⟩
  else none

/-- The bytes of a character after its first one: its code point and the rest, or how many of them
were good and whether the text ended there. -/
def continuation (code owed least greatest good : Nat) :
    List UInt8 → Except (Nat × Reason) (Nat × List UInt8)
  | rest =>
    match owed, rest with
    | 0, rest => .ok (code, rest)
    | _ + 1, [] => .error (good, .truncated)
    | owed + 1, b :: rest =>
      if least ≤ b.toNat ∧ b.toNat ≤ greatest then
        continuation (code * 64 + b.toNat % 64) owed 0x80 0xbf (good + 1) rest
      else .error (good, .continuation)

/-- The text of bytes that start at an offset. -/
def decodeFrom : (fuel : Nat) → (offset : Nat) → List UInt8 → Except BadBytes (List Char)
  | _, _, [] => .ok []
  | 0, _, _ => .ok []
  | fuel + 1, offset, b :: rest =>
    if b.toNat < 0x80 then do
      return Char.ofNat b.toNat :: (← decodeFrom fuel (offset + 1) rest)
    else match lead? b.toNat with
      | none => .error ⟨b, offset, 1, .start⟩
      | some lead =>
        match continuation lead.bits lead.owed lead.least lead.greatest 0 rest with
        | .error (good, reason) => .error ⟨b, offset, 1 + good, reason⟩
        | .ok (code, rest) => do
          return Char.ofNat code :: (← decodeFrom fuel (offset + 1 + lead.owed) rest)

/-- The text of bytes. -/
def decode (bytes : List UInt8) : Except BadBytes (List Char) := decodeFrom bytes.length 0 bytes

/-- The bytes of a character. -/
def encodeChar (c : Char) : List UInt8 :=
  let n := c.toNat
  let tail (k : Nat) : UInt8 := (0x80 + (n >>> (6 * k)) % 64).toUInt8
  if n < 0x80 then [n.toUInt8]
  else if n < 0x800 then [(0xc0 + n / 64).toUInt8, tail 0]
  else if n < 0x10000 then [(0xe0 + n / 4096).toUInt8, tail 1, tail 0]
  else [(0xf0 + n / 262144).toUInt8, tail 2, tail 1, tail 0]

/-- The bytes of a text. -/
def encode (text : List Char) : List UInt8 := text.flatMap encodeChar

namespace Reason

/-- The wording of a reason. -/
def text : Reason → String
  | .start => "invalid start byte"
  | .continuation => "invalid continuation byte"
  | .truncated => "unexpected end of data"

end Reason

namespace BadBytes

/-- What a report says about bytes that are no text. -/
def message (b : BadBytes) : String :=
  let place := if b.count = 1
    then "byte 0x" ++ String.ofList (hex 2 b.first.toNat) ++ " in position " ++
      Decimal.ofNat b.offset
    else "bytes in position " ++ Decimal.ofNat b.offset ++ "-" ++
      Decimal.ofNat (b.offset + b.count - 1)
  "'utf-8' codec can't decode " ++ place ++ ": " ++ b.reason.text

end BadBytes

end ApiLint.Text.Utf8
