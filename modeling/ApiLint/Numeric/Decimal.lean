import ApiLint.Numeric.Binary64

/-!
# Decimal texts of numbers

* `Decimal.ofNat` is the text of a whole number;
* `Binary64.shortest` finds the fewest digits that read back as the same double, and among those
  the digits nearest to it;
* `Binary64.text` writes these digits in the one layout that documents and reports use.
-/

namespace ApiLint

namespace Decimal

/-- The decimal digits of a number, without leading zeros. -/
def digits (n : Nat) : List Char := Nat.toDigits 10 n

/-- The decimal text of a number. -/
def ofNat (n : Nat) : String := String.ofList (digits n)

/-- The decimal text of an integer. -/
def ofInt (n : Int) : String :=
  if n < 0 then "-" ++ ofNat n.natAbs else ofNat n.natAbs

/-- The decimal text of a number with zeros in front, at least `width` digits wide. -/
def padded (width n : Nat) : String :=
  let ds := digits n
  String.ofList (List.replicate (width - ds.length) '0' ++ ds)

/-- The number that a list of digit characters spells, read from the left. -/
def value (ds : List Char) : Nat :=
  ds.foldl (fun n c => 10 * n + (c.toNat - '0'.toNat)) 0

/-- A decimal digit of ASCII. -/
def isDigit (c : Char) : Bool := '0' ≤ c && c ≤ '9'

end Decimal

/-- Where the decimal texts of doubles change from positional to exponent notation, and how an
exponent is written. -/
structure DecimalLayout where
  /-- The least exponent of a leading digit that is written positionally. -/
  positionalFrom : Int
  /-- The first exponent of a leading digit that is not. -/
  positionalBelow : Int
  /-- The least number of digits of an exponent. -/
  exponentWidth : Nat

namespace DecimalLayout

/-- Positional from `0.0001` and below `1e+16`; exponents have a sign and two digits. -/
def standard : DecimalLayout := ⟨-4, 16, 2⟩

end DecimalLayout

namespace Binary64

/-- The exponent of the leading decimal digit of `num / den`. -/
def leadingExponent (num den : Nat) : Int :=
  let p : Int := ((Decimal.digits num).length : Int) - (Decimal.digits den).length
  let reached :=
    if 0 ≤ p then den * Nat.pow 10 p.toNat ≤ num else den ≤ num * Nat.pow 10 (-p).toNat
  if reached then p else p - 1

/-- The reals that round to `mantissa · 2 ^ exponent` lie between these two numbers, in units of
`2 ^ (exponent - 2)`; the ends belong to them when the mantissa is even. -/
def roundingInterval (mantissa : Nat) (exponent : Int) : Nat × Nat :=
  let below := if mantissa = Nat.pow 2 52 ∧ minExponent < exponent then 1 else 2
  (4 * mantissa - below, 4 * mantissa + 2)

/-- The decimal of `count` digits nearest to `m · 2 ^ e`, or else its neighbour on the other side of
the number, if it reads back as the double: the whole coefficient and the power of ten it is
multiplied by. A tie goes to the even coefficient. -/
def decimalOf (m : Nat) (e leading : Int) (count : Nat) : Option (Nat × Int) :=
  let power := leading + 1 - count
  -- `k` steps of the interval's unit are `c` steps of the decimal grid when `k * unit = c * grid`
  let (unit, grid) := scale 1 1 (2 - e)
  let unit := if 0 ≤ power then unit else unit * Nat.pow 10 (-power).toNat
  let grid := if 0 ≤ power then grid * Nat.pow 10 power.toNat else grid
  let (low, high) := roundingInterval m e
  let readsBack (c : Nat) : Bool :=
    if m % 2 = 0 then low * unit ≤ c * grid && c * grid ≤ high * unit
    else low * unit < c * grid && c * grid < high * unit
  let floor := 4 * m * unit / grid
  let nearer := roundHalfEven (4 * m * unit) grid
  let farther := if nearer = floor then floor + 1 else floor
  if readsBack nearer then some (nearer, power)
  else if readsBack farther then some (farther, power)
  else none

/-- The fewest digits that read back as `m · 2 ^ e`, with the exponent of the first digit. Seventeen
digits always suffice. -/
def shortest (m : Nat) (e : Int) : List Char × Int :=
  let (num, den) := scale m 1 (-e)
  let leading := leadingExponent num den
  let (coefficient, power) :=
    ((List.range' 1 17).findSome? (decimalOf m e leading)).getD (0, 0)
  let ds := Decimal.digits coefficient
  ((ds.reverse.dropWhile (· == '0')).reverse, power + ds.length - 1)

/-- Digits and the exponent of the first one, written in a layout. -/
def layOut (layout : DecimalLayout) (ds : List Char) (leading : Int) : List Char :=
  if layout.positionalFrom ≤ leading ∧ leading < layout.positionalBelow then
    if leading < 0 then
      '0' :: '.' :: (List.replicate (-leading - 1).toNat '0' ++ ds)
    else
      let whole := leading.toNat + 1
      if ds.length ≤ whole then
        ds ++ List.replicate (whole - ds.length) '0' ++ ['.', '0']
      else ds.take whole ++ '.' :: ds.drop whole
  else
    let mantissa := match ds with
      | d :: [] => [d]
      | d :: rest => d :: '.' :: rest
      | [] => []
    let sign := if leading < 0 then '-' else '+'
    let exponent := (Decimal.padded layout.exponentWidth leading.natAbs).toList
    mantissa ++ 'e' :: sign :: exponent

/-- The text of a double: the fewest digits that read back, always with a point or an exponent. -/
def text : Binary64 → String
  | .nan => "nan"
  | .infinity s => if s then "-inf" else "inf"
  | .finite s m e =>
    let body :=
      if m = 0 then ['0', '.', '0']
      else
        let (ds, leading) := shortest m e
        layOut .standard ds leading
    String.ofList (if s then '-' :: body else body)

end Binary64

end ApiLint
