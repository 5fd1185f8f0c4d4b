/-!
# Code points

A text file can spell strings that are no texts: an escape may name half of a surrogate pair where
the other half is missing. Such a string is a list of code points.

* `CodePoint.isText` says whether a list of code points is a text;
* `CodePoint.text` is a text for one, with a private character of its own in the place of every
  half. Documents are read by it, so their texts are texts of characters alone and different strings
  stay different, as long as they do not use these characters themselves.
-/

namespace ApiLint.Text

/-- A character, or half of a surrogate pair that stands alone. -/
inductive CodePoint
  | char (c : Char)
  /-- One of the halves from U+D800 on, by its number among them. -/
  | half (n : Fin 0x800)
deriving DecidableEq

namespace CodePoint

/-- The code point with a number. -/
def ofNat (n : Nat) : CodePoint :=
  if h : 0xd800 ≤ n ∧ n < 0xe000 then .half ⟨n - 0xd800, by omega⟩ else .char (Char.ofNat n)

/-- The character for a code point. The halves have the last private ones, from U+10F800 on. -/
def shown : CodePoint → Char
  | .char c => c
  | .half n => Char.ofNat (0x10f800 + n)

/-- Whether a code point is a character. -/
def isChar : CodePoint → Bool
  | .char _ => true
  | .half _ => false

/-- Whether code points are those of a text. -/
def isText (ps : List CodePoint) : Bool := ps.all isChar

/-- The text for code points. -/
def text (ps : List CodePoint) : String := String.ofList (ps.map shown)

@[simp] theorem isText_map_char (cs : List Char) : isText (cs.map .char) = true := by
  simp [isText, isChar]

@[simp] theorem text_map_char (cs : List Char) : text (cs.map .char) = String.ofList cs := by
  simp [text, shown, Function.comp_def]

end CodePoint

end ApiLint.Text
