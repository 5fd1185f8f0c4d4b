import ApiLint.Calendar
import ApiLint.Text.Quoted

/-!
# Conversion faults

Converting a text to a number or a number to a text can fail. Such a fault is not a finding about a
document and not a syntax error: whoever meets one passes it on unchanged.

* `Fault` is the cause, `Fault.message` its wording;
* `Fault.digitLimit` is the number of digits up to which integers are converted.
-/

namespace ApiLint

/-- Why a conversion between texts and values failed. -/
inductive Fault
  /-- A decimal numeral with more digits than are read. -/
  | numeralTooLong (digits : Nat)
  /-- An integer whose decimal text would be longer than is written. -/
  | integerTooLong
  /-- A text that is no integer in a base. -/
  | notInteger (base : Nat) (text : String)
  /-- A text that is no decimal number. -/
  | notNumber (text : String)
  /-- A word that names no truth value. -/
  | notTruth (word : String)
  /-- An empty text where a number was announced. -/
  | emptyNumber
  /-- A text that is no date where one was announced. -/
  | notDate
  /-- Numbers that name no point of the calendar. -/
  | calendar (fault : CalendarFault)
  /-- An integer beyond the range of doubles. -/
  | beyondDouble
  /-- A number that is no code point. -/
  | notCodePoint
  /-- A key that cannot name a member of a JSON object. -/
  | notMemberName (kind : String)
deriving DecidableEq

namespace Fault

/-- The largest number of decimal digits that is converted to or from an integer. -/
def digitLimit : Nat := 4300

/-- The number of characters of a quoted text after which a message about integers breaks off. -/
def quoteLimit : Nat := 200

/-- What a report says about a fault. -/
def message : Fault → String
  | .numeralTooLong digits =>
    "Exceeds the limit (" ++ Decimal.ofNat digitLimit ++
      " digits) for integer string conversion: value has " ++ Decimal.ofNat digits ++
      " digits; use sys.set_int_max_str_digits() to increase the limit"
  | .integerTooLong =>
    "Exceeds the limit (" ++ Decimal.ofNat digitLimit ++
      " digits) for integer string conversion; use sys.set_int_max_str_digits() to increase " ++
      "the limit"
  | .notInteger base text =>
    "invalid literal for int() with base " ++ Decimal.ofNat base ++ ": " ++
      ((Text.quoted text).take quoteLimit).toString
  | .notNumber text => "could not convert string to float: " ++ Text.quoted text
  | .notTruth word => Text.quoted word
  | .emptyNumber => "string index out of range"
  | .notDate => "'NoneType' object has no attribute 'groupdict'"
  | .calendar fault => fault.message
  | .beyondDouble => "int too large to convert to float"
  | .notCodePoint => "chr() arg not in range(0x110000)"
  | .notMemberName kind => "keys must be str, int, float, bool or None, not " ++ kind

end Fault

namespace Decimal

/-- The decimal text of an integer, if it has no more digits than are converted. -/
def integerText (n : Int) : Except Fault String :=
  if n.natAbs < Nat.pow 10 Fault.digitLimit then .ok (ofInt n) else .error .integerTooLong

/-- The number that digits spell, if they are no more than are converted. -/
def numeral (ds : List Char) : Except Fault Nat :=
  if ds.length ≤ Fault.digitLimit then .ok (value ds) else .error (.numeralTooLong ds.length)

end Decimal

end ApiLint
