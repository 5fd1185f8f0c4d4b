import ApiLint.Text.Printable

/-!
# Quoted texts

A text or byte string inside a larger text is written between quotes: single ones, unless the text
holds a single quote and no double one. Backslash, the quote in use, line feed, carriage return and
tab have short escapes; what is not printable is written by its code point.
-/

namespace ApiLint.Text

/-- A digit of base sixteen, in lower case. -/
def hexDigit (n : Nat) : Char :=
  if n < 10 then Char.ofNat ('0'.toNat + n) else Char.ofNat ('a'.toNat + (n - 10))

/-- The lowest `width` digits of a number in base sixteen. -/
def hex : (width : Nat) → Nat → List Char
  | 0, _ => []
  | width + 1, n => hex width (n / 16) ++ [hexDigit (n % 16)]

/-- The quote that surrounds these characters. -/
def quoteFor (cs : List Char) : Char :=
  if cs.contains '\'' && !cs.contains '"' then '"' else '\''

/-- One character between quotes. -/
def quoteChar (quote c : Char) : List Char :=
  if c = '\\' || c = quote then ['\\', c]
  else if c = '\n' then ['\\', 'n']
  else if c = '\r' then ['\\', 'r']
  else if c = '\t' then ['\\', 't']
  else if isPrintable c then [c]
  else if c.toNat < 0x100 then '\\' :: 'x' :: hex 2 c.toNat
  else if c.toNat < 0x10000 then '\\' :: 'u' :: hex 4 c.toNat
  else '\\' :: 'U' :: hex 8 c.toNat

/-- A text between quotes. -/
def quoted (s : String) : String :=
  let cs := s.toList
  let quote := quoteFor cs
  String.ofList (quote :: (cs.flatMap (quoteChar quote) ++ [quote]))

/-- A byte string between quotes, marked by a leading `b`; bytes outside ASCII are escaped. -/
def quotedBytes (bs : List UInt8) : String :=
  let cs := bs.map fun b => Char.ofNat b.toNat
  let quote := quoteFor cs
  let write (c : Char) : List Char :=
    if c.toNat < 0x80 then quoteChar quote c else '\\' :: 'x' :: hex 2 c.toNat
  String.ofList ('b' :: quote :: (cs.flatMap write ++ [quote]))

end ApiLint.Text
