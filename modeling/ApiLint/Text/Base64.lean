/-!
# Base 64

Bytes written as characters that carry six bits each. `Base64.decode` reads them leniently: other
characters are skipped, and padding that completes a group of four ends the text.
-/

namespace ApiLint.Text.Base64

/-- The six bits of a character. -/
def bits? (c : Char) : Option Nat :=
  if 'A' ≤ c ∧ c ≤ 'Z' then some (c.toNat - 'A'.toNat)
  else if 'a' ≤ c ∧ c ≤ 'z' then some (c.toNat - 'a'.toNat + 26)
  else if '0' ≤ c ∧ c ≤ '9' then some (c.toNat - '0'.toNat + 52)
  else if c = '+' then some 62
  else if c = '/' then some 63
  else none

/-- The bytes of a group: one for two characters, two for three and three for four. -/
def groupBytes : List Nat → List UInt8
  | [a, b] => [(a * 4 + b / 16).toUInt8]
  | [a, b, c] => [(a * 4 + b / 16).toUInt8, (b % 16 * 16 + c / 4).toUInt8]
  | [a, b, c, d] =>
    [(a * 4 + b / 16).toUInt8, (b % 16 * 16 + c / 4).toUInt8, (c % 4 * 64 + d).toUInt8]
  | _ => []

/-- Reads on from within a group, given the bits of its characters so far and the padding seen after
the last of them. A group that is begun has to be completed. -/
def decodeFrom (group : List Nat) (padding : Nat) : List Char → Option (List UInt8)
  | [] => if group.isEmpty then some [] else none
  | '=' :: rest =>
    if group.length < 2 then decodeFrom group padding rest
    else if 4 ≤ group.length + padding + 1 then some (groupBytes group)
    else decodeFrom group (padding + 1) rest
  | c :: rest =>
    match bits? c with
    | none => decodeFrom group padding rest
    | some b =>
      if group.length = 3 then (groupBytes (group ++ [b]) ++ ·) <$> decodeFrom [] 0 rest
      else decodeFrom (group ++ [b]) 0 rest

/-- The bytes that characters spell. -/
def decode (text : List Char) : Option (List UInt8) := decodeFrom [] 0 text

end ApiLint.Text.Base64
