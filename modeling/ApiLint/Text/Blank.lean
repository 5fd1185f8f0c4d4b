/-!
# Blank characters

Which characters count as white space when a text is tested for content. The set is larger than
ASCII white space and smaller than "invisible": the zero-width space U+200B and the byte order mark
U+FEFF are content.
-/

namespace ApiLint.Text

/-- White space. -/
def isBlank (c : Char) : Bool :=
  let n := c.toNat
  (0x9 ≤ n && n ≤ 0xd) || (0x1c ≤ n && n ≤ 0x20) || n == 0x85 || n == 0xa0 || n == 0x1680 ||
    (0x2000 ≤ n && n ≤ 0x200a) || n == 0x2028 || n == 0x2029 || n == 0x202f || n == 0x205f ||
    n == 0x3000

/-- Whether a text has no character other than white space. -/
def allBlank (s : String) : Bool := s.toList.all isBlank

end ApiLint.Text
