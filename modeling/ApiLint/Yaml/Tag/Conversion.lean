import ApiLint.Numeric.Numeral
import ApiLint.Text.Base64
import ApiLint.Text.Lowercase
import ApiLint.Yaml.Cursor
import ApiLint.Yaml.Tag

/-!
# Scalars of texts

`Tag.toScalar` converts the text of a node to the scalar that its tag announces. A text that took
its tag from its own form always has one; under a written tag any text may stand, and then the
conversion can fail.
-/

namespace ApiLint.Yaml.Tag

/-- A numeral without underscores. -/
def withoutMarks (text : List Char) : List Char := text.filter (· != '_')

/-- The parts of a number that is written to the base of sixty. -/
def sixties (text : List Char) : List String := (String.ofList text).splitOn ":"

/-- The truth value of a word, in capitals or not. -/
def boolOf (text : List Char) : Except Fault Bool :=
  let word := Text.lower (String.ofList text)
  if ["yes", "true", "on"].contains word then .ok true
  else if ["no", "false", "off"].contains word then .ok false
  else .error (.notTruth word)

/-- The integer of a numeral without sign. -/
def natural (text : List Char) : Except Fault Int :=
  let whole := String.ofList text
  match text with
  | [] => .error .emptyNumber
  | ['0'] => .ok 0
  | '0' :: 'b' :: rest => Numeral.integer 2 (String.ofList rest)
  | '0' :: 'x' :: rest => Numeral.integer 16 (String.ofList rest)
  | '0' :: _ => Numeral.integer 8 whole
  | _ =>
    if text.contains ':' then do
      let places ← (sixties text).mapM (Numeral.integer 10)
      return places.foldl (fun n place => n * 60 + place) 0
    else Numeral.integer 10 whole

/-- The integer of a numeral. -/
def intOf (text : List Char) : Except Fault Int :=
  match withoutMarks text with
  | [] => .error .emptyNumber
  | '-' :: rest => (- ·) <$> natural rest
  | '+' :: rest => natural rest
  | rest => natural rest

/-- The sum of places to the base of sixty, the last one first. The weight of each is a double, too;
there is none for a weight that no double can hold. -/
def sumSixties (sum : Binary64) : (weight : Nat) → List Binary64 → Except Fault Binary64
  | _, [] => .ok sum
  | weight, place :: places =>
    match Binary64.ofInt weight with
    | .finite s m e => sumSixties (sum.add (place.mul (.finite s m e))) (weight * 60) places
    | _ => .error .beyondDouble

/-- The double of a numeral without sign. -/
def magnitude (text : List Char) : Except Fault Binary64 :=
  let word := String.ofList text
  if word = ".inf" then .ok (.infinity false)
  else if word = ".nan" then .ok .nan
  else if text.contains ':' then do
    let places ← (sixties text).mapM Numeral.double
    sumSixties (.zero false) 1 places.reverse
  else Numeral.double word

/-- The double of a numeral. -/
def floatOf (text : List Char) : Except Fault Binary64 :=
  match (Text.lower (String.ofList (withoutMarks text))).toList with
  | [] => .error .emptyNumber
  | '-' :: rest => Binary64.neg <$> magnitude rest
  | '+' :: rest => magnitude rest
  | rest => magnitude rest

/-- The bytes that a text spells in base 64. -/
def bytesOf (text : List Char) : Except ReadError (List UInt8) :=
  if !text.all (·.toNat < 0x80) then .error .malformed
  else match Text.Base64.decode text with
    | some bs => .ok bs
    | none => .error .malformed

/-- The date or time of a text. A line break at its very end does not count. -/
def timestampOf (text : List Char) : Except Fault Scalar :=
  let text := if text.getLast? = some '\n' then text.dropLast else text
  match Timestamp.parse? text with
  | none => .error .notDate
  | some t => match t.toScalar with
    | .ok s => .ok s
    | .error fault => .error (.calendar fault)

/-- A conversion as a step of reading. -/
def converted {α : Type} (result : Except Fault α) : Except ReadError α :=
  match result with
  | .ok a => .ok a
  | .error fault => .error (.conversion fault)

/-- The scalar of a text under a tag. -/
def toScalar (tag : Tag) (text : List Char) : Except ReadError Scalar :=
  match tag with
  | .null => .ok .null
  | .bool => .bool <$> converted (boolOf text)
  | .int => .int <$> converted (intOf text)
  | .float => .float <$> converted (floatOf text)
  | .binary => .bytes <$> bytesOf text
  | .timestamp => converted (timestampOf text)
  | .str => .ok (.str (String.ofList text))
  | _ => .error .malformed

end ApiLint.Yaml.Tag
