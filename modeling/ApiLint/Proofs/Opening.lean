import ApiLint.Operation
import ApiLint.Proofs.Digits
import ApiLint.Proofs.Outcome
import ApiLint.Text.Blank

/-!
# How texts begin

The text of a value that is no string begins with a digit, a sign, a bracket or one of a few
letters. So it is never blank, and it is never the name of a method.

* `Key.opens`, `Value.opens` — the text of a key or value that is no string has such an opening;
* `Text.Opens.not_allBlank` — a text with such an opening is not blank;
* `Operation.eq_str_of_text` — only a string has the name of a method as its text.
-/

namespace ApiLint

open Outcome

-- ---------------------------------------------------------------------------
-- Openings
-- ---------------------------------------------------------------------------

namespace Text

/-- The characters that texts of values other than strings begin with. -/
def isOpening (c : Char) : Bool := Decimal.isDigit c || "-NTFinebs([\x7b".toList.contains c

/-- Whether a text begins with such a character. -/
def Opens (s : String) : Prop := ∃ c cs, s.toList = c :: cs ∧ isOpening c = true

theorem isOpening_of_isDigit {c : Char} (h : Decimal.isDigit c = true) : isOpening c = true := by
  rw [isOpening, h, Bool.true_or]

theorem isBlank_of_isDigit {c : Char} (h : Decimal.isDigit c = true) : isBlank c = false := by
  simp only [Decimal.isDigit, Bool.and_eq_true, decide_eq_true_eq, Char.le_def,
    UInt32.le_iff_toNat_le] at h
  have hLow : 48 ≤ c.toNat := h.1
  have hHigh : c.toNat ≤ 57 := h.2
  unfold isBlank
  simp only [Bool.or_eq_false_iff, Bool.and_eq_false_iff, decide_eq_false_iff_not,
    beq_eq_false_iff_ne]
  omega

theorem isBlank_of_isOpening {c : Char} (h : isOpening c = true) : isBlank c = false := by
  have hMarks : ("-NTFinebs([\x7b".toList.all fun c => !isBlank c) = true := by
    decide
  rcases Bool.or_eq_true_iff.mp h with h | h
  · exact isBlank_of_isDigit h
  · rw [← Bool.not_eq_true']
    exact List.all_eq_true.mp hMarks c (List.contains_iff_mem.mp h)

namespace Opens

theorem ofList {c : Char} (h : isOpening c = true) (cs : List Char) :
    Opens (String.ofList (c :: cs)) :=
  ⟨c, cs, String.toList_ofList, h⟩

theorem append {s : String} (h : Opens s) (t : String) : Opens (s ++ t) := by
  obtain ⟨c, cs, hs, hc⟩ := h
  refine ⟨c, cs ++ t.toList, ?_, hc⟩
  rw [String.toList_append, hs, List.cons_append]

theorem not_allBlank {s : String} (h : Opens s) : allBlank s = false := by
  obtain ⟨c, cs, hs, hc⟩ := h
  rw [allBlank, hs, List.all_cons, isBlank_of_isOpening hc, Bool.false_and]

end Opens

end Text

open Text

-- ---------------------------------------------------------------------------
-- Numbers
-- ---------------------------------------------------------------------------

namespace Decimal

theorem opens_ofNat (n : Nat) : Opens (ofNat n) := by
  obtain ⟨c, cs, hDigits⟩ := List.exists_cons_of_ne_nil (digits_ne_nil n)
  rw [ofNat, hDigits]
  apply Opens.ofList
  apply isOpening_of_isDigit
  apply isDigit_of_mem_digits (n := n)
  rw [hDigits]
  exact List.mem_cons_self

theorem opens_ofInt (n : Int) : Opens (ofInt n) := by
  unfold ofInt
  split
  · exact Opens.append ⟨'-', [], rfl, by decide⟩ _
  · exact opens_ofNat _

theorem opens_padded (width n : Nat) : Opens (padded width n) := by
  unfold padded
  dsimp only
  cases width - (digits n).length with
  | zero => exact opens_ofNat n
  | succ k =>
    rw [List.replicate_succ, List.cons_append]
    exact Opens.ofList (by decide) _

end Decimal

namespace Binary64

theorem isDigit_of_mem_shortest {m : Nat} {e : Int} {c : Char} (h : c ∈ (shortest m e).1) :
    Decimal.isDigit c = true := by
  have hTrim : ∀ n, c ∈ ((Decimal.digits n).reverse.dropWhile (· == '0')).reverse →
      Decimal.isDigit c = true := by
    intro n hc
    have hReverse := (List.dropWhile_sublist _).subset (List.mem_reverse.mp hc)
    exact Decimal.isDigit_of_mem_digits (List.mem_reverse.mp hReverse)
  exact hTrim _ h

/-- Whatever the digits are, even none, their layout begins with a digit or the mark of the
exponent. -/
theorem opens_layOut {ds : List Char} (h : ∀ c ∈ ds, Decimal.isDigit c = true)
    (layout : DecimalLayout) (leading : Int) :
    Opens (String.ofList (layOut layout ds leading)) := by
  have hZero : isOpening '0' = true := by
    decide
  unfold layOut
  dsimp only
  split
  · split
    · exact Opens.ofList hZero _
    · cases ds with
      | nil =>
        rw [List.length_nil, if_pos (Nat.zero_le _), List.nil_append, Nat.sub_zero,
          List.replicate_succ]
        exact Opens.ofList hZero _
      | cons d rest =>
        have hd := isOpening_of_isDigit (h d List.mem_cons_self)
        split
        · exact Opens.ofList hd _
        · exact Opens.ofList hd _
  · match ds, h with
    | [], _ => exact Opens.ofList (by decide) _
    | [d], h => exact Opens.ofList (isOpening_of_isDigit (h d List.mem_cons_self)) _
    | d :: d' :: rest, h => exact Opens.ofList (isOpening_of_isDigit (h d List.mem_cons_self)) _

theorem opens_text (x : Binary64) : Opens x.text := by
  cases x with
  | nan => exact ⟨'n', ['a', 'n'], rfl, by decide⟩
  | infinity s =>
    cases s with
    | true => exact ⟨'-', ['i', 'n', 'f'], rfl, by decide⟩
    | false => exact ⟨'i', ['n', 'f'], rfl, by decide⟩
  | finite s m e =>
    cases s with
    | true => exact Opens.ofList (by decide) _
    | false =>
      unfold text
      dsimp only
      rw [if_neg Bool.false_ne_true]
      split
      · exact Opens.ofList (by decide) _
      · exact opens_layOut (fun c hc => isDigit_of_mem_shortest hc) _ _

end Binary64

-- ---------------------------------------------------------------------------
-- Keys and values
-- ---------------------------------------------------------------------------

theorem Date.opens_text (d : Date) : Opens d.text := by
  simp only [Date.text, String.append_assoc]
  exact (Decimal.opens_padded 4 d.year).append _

theorem DateTime.opens_text (t : DateTime) : Opens t.text := by
  simp only [DateTime.text, DateTime.textWith, String.append_assoc]
  exact t.date.opens_text.append _

theorem Scalar.opens {s : Scalar} {t : String} (h : s.text = .ok t) (hs : ∀ x, s ≠ .str x) :
    Opens t := by
  cases s with
  | null =>
    cases h
    exact ⟨'N', ['o', 'n', 'e'], rfl, by decide⟩
  | bool b =>
    cases h
    cases b with
    | true => exact ⟨'T', ['r', 'u', 'e'], rfl, by decide⟩
    | false => exact ⟨'F', ['a', 'l', 's', 'e'], rfl, by decide⟩
  | int n =>
    have hText : Decimal.integerText n = .ok t := h
    unfold Decimal.integerText at hText
    split at hText
    · cases hText
      exact Decimal.opens_ofInt n
    · cases hText
  | float x =>
    have hText : x.text = t := Except.ok.inj h
    rw [← hText]
    exact x.opens_text
  | str x => exact absurd rfl (hs x)
  | bytes bs =>
    cases h
    exact Opens.ofList (by decide) _
  | date d =>
    have hText : d.text = t := Except.ok.inj h
    rw [← hText]
    exact d.opens_text
  | time moment =>
    have hText : moment.text = t := Except.ok.inj h
    rw [← hText]
    exact moment.opens_text

theorem opens_tupleText (items : List String) : Opens (tupleText items) := by
  have hOpen : Opens "(" := ⟨'(', [], rfl, by decide⟩
  unfold tupleText
  split
  · exact (hOpen.append _).append _
  · exact (hOpen.append _).append _

theorem Key.opens {k : Key} {t : String} (h : k.text = .ok t) (hk : ∀ s, k ≠ .str s) : Opens t := by
  cases k with
  | scalar s => exact Scalar.opens h fun x hx => hk x (congrArg Key.scalar hx)
  | tuple items =>
    obtain ⟨texts, -, hText⟩ := bind_eq_ok.mp h
    cases hText
    exact opens_tupleText texts

theorem Value.opens {v : Value} {t : String} (h : v.text = .ok t) (hv : ∀ s, v ≠ .str s) :
    Opens t := by
  cases v with
  | scalar s => exact Scalar.opens h fun x hx => hv x (congrArg Value.scalar hx)
  | list items =>
    obtain ⟨texts, -, hText⟩ := bind_eq_ok.mp h
    cases hText
    exact Opens.append (Opens.append ⟨'[', [], rfl, by decide⟩ _) _
  | tuple items =>
    obtain ⟨texts, -, hText⟩ := bind_eq_ok.mp h
    cases hText
    exact opens_tupleText texts
  | set items =>
    cases items with
    | nil =>
      cases h
      exact ⟨'s', ['e', 't', '(', ')'], rfl, by decide⟩
    | cons k ks =>
      obtain ⟨texts, -, hText⟩ := bind_eq_ok.mp h
      cases hText
      exact Opens.append (Opens.append ⟨'\x7b', [], rfl, by decide⟩ _) _
  | map entries =>
    obtain ⟨texts, -, hText⟩ := bind_eq_ok.mp h
    cases hText
    exact Opens.append (Opens.append ⟨'\x7b', [], rfl, by decide⟩ _) _

-- ---------------------------------------------------------------------------
-- Methods
-- ---------------------------------------------------------------------------

/-- Only a string has the name of a method as its text. -/
theorem Operation.eq_str_of_text {k : Key} {method : String} (h : k.text = .ok method)
    (hMethod : methods.contains method = true) : k = .str method := by
  have hFirst : ∀ m ∈ methods, m.toList.head?.all (fun c => !isOpening c) = true := by
    decide
  by_cases hk : ∃ s, k = .str s
  · obtain ⟨s, rfl⟩ := hk
    cases h
    rfl
  · obtain ⟨c, cs, hText, hc⟩ := Key.opens h (not_exists.mp hk)
    have hNot := hFirst method (List.contains_iff_mem.mp hMethod)
    rw [hText, List.head?_cons, Option.all_some, hc] at hNot
    cases hNot

end ApiLint
