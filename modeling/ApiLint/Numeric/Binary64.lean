/-!
# Double-precision numbers

A finite double is a sign, a whole mantissa and a power of two; every result is the exact value
rounded to the nearest such number, a half going to the even mantissa. All of it is whole-number
arithmetic, so equality and rounding can be reasoned about and evaluated.

* `Binary64.ofRatio` rounds a quotient, `Binary64.ofDecimal` a decimal, `Binary64.ofInt` an integer;
* `Binary64.add` and `Binary64.mul` round the exact sum and product;
* `Binary64.toInt?` is the integer that a double equals, if there is one.
-/

namespace ApiLint

/-- A double: not a number, an infinity, or `± mantissa · 2 ^ exponent`. -/
inductive Binary64
  | nan
  | infinity (negative : Bool)
  | finite (negative : Bool) (mantissa : Nat) (exponent : Int)
deriving DecidableEq, Inhabited

namespace Binary64

/-- The exponent of the smallest positive double. -/
def minExponent : Int := -1074

/-- The exponent of the largest finite doubles. -/
def maxExponent : Int := 971

/-- Zero, with its sign. -/
def zero (negative : Bool) : Binary64 := .finite negative 0 minExponent

/-- `num / den` rounded to a whole number, a half going to the even one. -/
def roundHalfEven (num den : Nat) : Nat :=
  let q := num / den
  let r := num % den
  if 2 * r < den then q
  else if den < 2 * r then q + 1
  else q + q % 2

/-- `num / den` divided by `2 ^ e`, again as a quotient. -/
def scale (num den : Nat) (e : Int) : Nat × Nat :=
  if 0 ≤ e then (num, den * Nat.pow 2 e.toNat) else (num * Nat.pow 2 (-e).toNat, den)

/-- The exponent at which `num / den` has a mantissa of 53 bits, or the least exponent. -/
def targetExponent (num den : Nat) : Int :=
  let top : Int := (Nat.log2 num : Int) - Nat.log2 den
  let (n, d) := scale num den top
  max (if d ≤ n then top - 52 else top - 53) minExponent

/-- The double nearest to `± num / den`; beyond the largest one it is an infinity. -/
def ofRatio (negative : Bool) (num den : Nat) : Binary64 :=
  if num = 0 then zero negative
  else
    let e := targetExponent num den
    let (n, d) := scale num den e
    let m := roundHalfEven n d
    let (m, e) := if m = Nat.pow 2 53 then (Nat.pow 2 52, e + 1) else (m, e)
    if maxExponent < e then .infinity negative else .finite negative m e

/-- The double nearest to `± coefficient · 10 ^ exponent`. Decimals far outside the range are
decided by their size alone. -/
def ofDecimal (negative : Bool) (coefficient : Nat) (exponent : Int) : Binary64 :=
  if coefficient = 0 then zero negative
  else if 400 < exponent then .infinity negative
  else if 0 ≤ exponent then ofRatio negative (coefficient * Nat.pow 10 exponent.toNat) 1
  else if (Nat.log2 coefficient : Int) + 1 + 3 * exponent ≤ -1100 then zero negative
  else ofRatio negative coefficient (Nat.pow 10 (-exponent).toNat)

/-- The double nearest to `± mantissa · 2 ^ exponent`. -/
def ofDyadic (negative : Bool) (mantissa : Nat) (exponent : Int) : Binary64 :=
  if 0 ≤ exponent then ofRatio negative (mantissa * Nat.pow 2 exponent.toNat) 1
  else ofRatio negative mantissa (Nat.pow 2 (-exponent).toNat)

/-- The double nearest to an integer. -/
def ofInt (n : Int) : Binary64 := ofRatio (decide (n < 0)) n.natAbs 1

/-- The opposite number. -/
def neg : Binary64 → Binary64
  | .nan => .nan
  | .infinity s => .infinity (!s)
  | .finite s m e => .finite (!s) m e

/-- The integer that a finite double equals. -/
def toInt? : Binary64 → Option Int
  | .finite s m e =>
    if 0 ≤ e then
      let n : Int := (m * Nat.pow 2 e.toNat : Nat)
      some (if s then -n else n)
    else
      let d := Nat.pow 2 (-e).toNat
      if m % d = 0 then
        let n : Int := (m / d : Nat)
        some (if s then -n else n)
      else none
  | _ => none

/-- The rounded product. -/
def mul : Binary64 → Binary64 → Binary64
  | .nan, _ => .nan
  | _, .nan => .nan
  | .infinity a, .infinity b => .infinity (a != b)
  | .infinity a, .finite b m _ => if m = 0 then .nan else .infinity (a != b)
  | .finite a m _, .infinity b => if m = 0 then .nan else .infinity (a != b)
  | .finite a m e, .finite b n f => ofDyadic (a != b) (m * n) (e + f)

/-- The rounded sum; an exact zero is negative only if both terms are. -/
def add : Binary64 → Binary64 → Binary64
  | .nan, _ => .nan
  | _, .nan => .nan
  | .infinity a, .infinity b => if a = b then .infinity a else .nan
  | .infinity a, .finite .. => .infinity a
  | .finite .., .infinity b => .infinity b
  | .finite a m e, .finite b n f =>
    let low := min e f
    let x : Int := (m * Nat.pow 2 (e - low).toNat : Nat)
    let y : Int := (n * Nat.pow 2 (f - low).toNat : Nat)
    let sum := (if a then -x else x) + (if b then -y else y)
    if sum = 0 then zero (a && b)
    else ofDyadic (decide (sum < 0)) sum.natAbs low

end Binary64

end ApiLint
