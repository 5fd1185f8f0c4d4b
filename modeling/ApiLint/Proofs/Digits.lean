import ApiLint.Value.Text
import Mathlib.Data.Nat.Digits.Defs

/-!
# Decimal texts

What the decimal text of a number consists of, and which integers have one.

* `Decimal.ofNat_injective` — different numbers have different texts;
* `Decimal.integerText_natCast` — a number has a text exactly if it has no more digits than are
  converted, and this is it.
-/

namespace ApiLint.Decimal

theorem isDigit_of_mem_digits {n : Nat} {c : Char} (h : c ∈ digits n) : isDigit c = true :=
  Nat.isDigit_of_mem_toDigits (by decide) (by decide) h

theorem digits_ne_nil (n : Nat) : digits n ≠ [] := Nat.toDigits_ne_nil

theorem value_digits (n : Nat) : value (digits n) = n :=
  Nat.ofDigitChars_toDigits (by decide) (by decide)

theorem toList_ofNat (n : Nat) : (ofNat n).toList = digits n :=
  String.toList_ofList

theorem ofNat_injective : Function.Injective ofNat := by
  intro m n h
  rw [← value_digits m, ← value_digits n, ← toList_ofNat m, ← toList_ofNat n, h]

theorem ofInt_natCast (n : Nat) : ofInt n = ofNat n := by
  rw [ofInt, if_neg (by omega), Int.natAbs_natCast]

theorem length_digits_le_iff {n : Nat} :
    (digits n).length ≤ Fault.digitLimit ↔ n < Nat.pow 10 Fault.digitLimit := by
  rw [Nat.pow_eq, digits, Nat.length_toDigits_le_iff (by decide) (by decide)]

theorem integerText_natCast {n : Nat} (h : (digits n).length ≤ Fault.digitLimit) :
    integerText n = .ok (ofNat n) := by
  rw [integerText, Int.natAbs_natCast, if_pos (length_digits_le_iff.mp h), ofInt_natCast]

end ApiLint.Decimal
