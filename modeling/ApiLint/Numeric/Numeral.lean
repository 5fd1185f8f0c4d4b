import ApiLint.Fault
import ApiLint.Text.Blank
import ApiLint.Text.Digit

/-!
# Numerals

Texts that are converted to numbers because a document announces a number there.

* `Numeral.integer` reads an integer in a base, with an optional sign and an optional mark of the
  base;
* `Numeral.double` reads a decimal number, an infinity or the word for "not a number".

White space around a numeral is skipped and the digits of every script count.
-/

namespace ApiLint.Numeral

/-- The blanks that may surround a numeral of ASCII characters. -/
def isAsciiBlank (c : Char) : Bool := (0x9 ≤ c.toNat && c.toNat ≤ 0xd) || c == ' '

/-- A numeral in ASCII: digits of other scripts by their value and other white space as blanks. -/
def toAscii (cs : List Char) : List Char :=
  if cs.all fun c => c.toNat < 0x80 then cs
  else cs.map fun c =>
    if Text.isBlank c then ' ' else if c.toNat < 0x80 then c else (Text.asciiDigit? c).getD '?'

/-- The characters of a numeral without the blanks around it. -/
def body (text : String) : List Char :=
  let cs := toAscii text.toList
  ((cs.dropWhile isAsciiBlank).reverse.dropWhile isAsciiBlank).reverse

/-- Whether a numeral is marked as negative, and what follows its sign. -/
def splitSign : List Char → Bool × List Char
  | '-' :: rest => (true, rest)
  | '+' :: rest => (false, rest)
  | rest => (false, rest)

/-- The value of a character as a digit in bases up to sixteen. -/
def digitValue? (c : Char) : Option Nat :=
  if '0' ≤ c ∧ c ≤ '9' then some (c.toNat - '0'.toNat)
  else if 'a' ≤ c ∧ c ≤ 'f' then some (c.toNat - 'a'.toNat + 10)
  else if 'A' ≤ c ∧ c ≤ 'F' then some (c.toNat - 'A'.toNat + 10)
  else none

/-- Whether a character is a digit of a base. -/
def isDigitOf (base : Nat) (c : Char) : Bool :=
  match digitValue? c with
  | some d => d < base
  | none => false

/-- The letters that mark a base after a leading zero. -/
def baseMarks (base : Nat) : List Char :=
  match base with
  | 2 => ['b', 'B']
  | 8 => ['o', 'O']
  | 16 => ['x', 'X']
  | _ => []

/-- What follows the mark of a base, if there is one. -/
def dropMark (base : Nat) : List Char → List Char
  | '0' :: c :: rest => if (baseMarks base).contains c then rest else '0' :: c :: rest
  | rest => rest

/-- An integer in a base. In base ten the number of digits is limited. -/
def integer (base : Nat) (text : String) : Except Fault Int :=
  let (negative, rest) := splitSign (body text)
  let rest := dropMark base rest
  let digits := rest.takeWhile (isDigitOf base)
  if base = 10 ∧ Fault.digitLimit < digits.length then .error (.numeralTooLong digits.length)
  else if digits.isEmpty ∨ digits.length < rest.length then .error (.notInteger base text)
  else
    let n : Int := digits.foldl (fun n c => base * n + (digitValue? c).getD 0) (0 : Nat)
    .ok (if negative then -n else n)

/-- A run of digits and the rest. -/
def digitRun (s : List Char) : List Char × List Char := s.span Decimal.isDigit

/-- The exponent that makes up the whole of these characters. -/
def exponent? : List Char → Option Int
  | [] => some 0
  | c :: rest =>
    if c = 'e' ∨ c = 'E' then
      match splitSign rest with
      | (negative, digits) =>
        if digits.isEmpty || !digits.all Decimal.isDigit then none
        else
          let n : Int := Decimal.value digits
          some (if negative then -n else n)
    else none

/-- A decimal number without sign. -/
def decimal? (negative : Bool) (cs : List Char) : Option Binary64 := do
  let (whole, rest) := digitRun cs
  let (fraction, rest) := match rest with
    | '.' :: rest => digitRun rest
    | rest => ([], rest)
  if whole.isEmpty && fraction.isEmpty then none
  let power ← exponent? rest
  some (Binary64.ofDecimal negative (Decimal.value (whole ++ fraction)) (power - fraction.length))

/-- A decimal number, an infinity, or the word for "not a number". Words may be capitalised. -/
def double (text : String) : Except Fault Binary64 :=
  let (negative, rest) := splitSign (body text)
  let word := String.ofList (rest.map Char.toLower)
  if word = "inf" ∨ word = "infinity" then .ok (.infinity negative)
  else if word = "nan" then .ok .nan
  else match decimal? negative rest with
    | some x => .ok x
    | none => .error (.notNumber text)

end ApiLint.Numeral
