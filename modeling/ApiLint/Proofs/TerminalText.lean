import ApiLint.Terminal
import Mathlib.Data.String.Basic

/-!
# Texts on a terminal

What a terminal does not show of a text can be taken away again: an emphasis is written in escape
sequences, which go from an escape to the next `m`, and a text without escapes has none.

* `Text.splitOn_of_not_mem` — a text without a separator is one piece;
* `Terminal.dropControls_of_all` — a text without control characters stays as it is;
* `Terminal.Emphasis.dropEscapes_apply` — an emphasis goes away with its escape sequences;
* `Terminal.Emphasis.mem_of_mem_apply` — what an emphasis adds.
-/

namespace ApiLint

-- ---------------------------------------------------------------------------
-- Texts that are one piece
-- ---------------------------------------------------------------------------

namespace Text

theorem splitOnAux_of_not_mem {c : Char} (before : List Char) {rest : List Char} (h : c ∉ rest) :
    (String.ofList (before ++ rest)).splitOnAux (String.singleton c) 0
        ⟨String.utf8Len before⟩ 0 [] =
      [String.ofList (before ++ rest)] := by
  induction rest generalizing before with
  | nil =>
    have hEnd := (String.atEnd_of_valid before []).mpr rfl
    have hAll := String.extract_of_valid [] before []
    rw [String.splitOnAux, if_pos hEnd]
    simpa using hAll
  | cons d rest ih =>
    obtain ⟨hOther, hRest⟩ := not_or.mp (List.mem_cons.not.mp h)
    have hEnd := (String.atEnd_of_valid before (d :: rest)).not.mpr (List.cons_ne_nil d rest)
    have hGet := String.get_of_valid before (d :: rest)
    have hNext := String.next_of_valid before d rest
    have hSeparator : String.Pos.Raw.get (String.singleton c) 0 = c := String.get_of_valid [] [c]
    have hDiffers : ¬ (d == c) = true := by simpa using Ne.symm hOther
    have hStart : (⟨String.utf8Len before⟩ : String.Pos.Raw).unoffsetBy 0 =
        ⟨String.utf8Len before⟩ := rfl
    have ih := ih (before ++ [d]) hRest
    rw [List.append_assoc, List.singleton_append] at ih
    rw [String.splitOnAux, if_neg hEnd, hGet, hSeparator, List.headD_cons, if_neg hDiffers, hStart,
      hNext]
    simpa using ih

/-- A text without a separator is one piece. -/
theorem splitOn_of_not_mem {c : Char} {text : String} (h : c ∉ text.toList) :
    text.splitOn (String.singleton c) = [text] := by
  have hSplit := splitOnAux_of_not_mem [] h
  rw [List.nil_append, String.ofList_toList] at hSplit
  rw [String.splitOn, if_neg (by simp)]
  exact hSplit

end Text

-- ---------------------------------------------------------------------------
-- Emphasis
-- ---------------------------------------------------------------------------

namespace Terminal

/-- Characters without their escape sequences, each of which goes from an escape to the next `m`.
The characters may begin inside one. -/
def dropEscapes : (inside : Bool) → List Char → List Char
  | _, [] => []
  | true, c :: cs => dropEscapes (c ≠ 'm') cs
  | false, c :: cs => if c = '\x1b' then dropEscapes true cs else c :: dropEscapes false cs

theorem dropEscapes_append {cs : List Char} (h : '\x1b' ∉ cs) (rest : List Char) :
    dropEscapes false (cs ++ rest) = cs ++ dropEscapes false rest := by
  induction cs with
  | nil => rfl
  | cons c cs ih =>
    obtain ⟨hc, hcs⟩ := not_or.mp (List.mem_cons.not.mp h)
    rw [List.cons_append, dropEscapes, if_neg (Ne.symm hc), ih hcs, List.cons_append]

theorem dropEscapes_sequence {code : List Char} (h : 'm' ∉ code) (rest : List Char) :
    dropEscapes true (code ++ 'm' :: rest) = dropEscapes false rest := by
  induction code with
  | nil => rfl
  | cons c code ih =>
    obtain ⟨hc, hCode⟩ := not_or.mp (List.mem_cons.not.mp h)
    have hInside : decide (c ≠ 'm') = true := decide_eq_true (Ne.symm hc)
    rw [List.cons_append, dropEscapes, hInside, ih hCode]

theorem dropControls_of_all {text : String} (h : ∀ c ∈ text.toList, isControl c = false) :
    dropControls text = text := by
  have hAll : text.toList.filter (fun c => !isControl c) = text.toList := by
    rw [List.filter_eq_self]
    intro c hc
    rw [h c hc]
    rfl
  rw [dropControls, hAll, String.ofList_toList]

namespace Emphasis

/-- The characters of the numbers in an escape sequence. -/
def codeChars : List Char := [';', '0', '1', '2', '3', '6']

/-- All characters that an emphasis may add. -/
def signs : List Char := '\x1b' :: '[' :: 'm' :: codeChars

/-- Whether an emphasis adds numbers alone to a text. -/
def Numeric (e : Emphasis) : Prop :=
  (e.colour.toList ++ e.monochrome.toList).all fun c => codeChars.contains c

instance (e : Emphasis) : Decidable e.Numeric := inferInstanceAs (Decidable (_ = true))

/-- The numbers that an emphasis adds. -/
def code (e : Emphasis) : Styling → String
  | .off => ""
  | .monochrome => e.monochrome
  | .colour => e.colour

theorem apply_eq (e : Emphasis) (styling : Styling) (text : String) :
    e.apply styling text = if e.code styling = "" ∨ text = "" then text
      else "\x1b[" ++ e.code styling ++ "m" ++ text ++ "\x1b[0m" := by
  cases styling <;> rfl

variable {e : Emphasis}

theorem Numeric.mem_codeChars (h : e.Numeric) {styling : Styling} {c : Char}
    (hc : c ∈ (e.code styling).toList) : c ∈ codeChars := by
  have hAll : ∀ c ∈ e.colour.toList ++ e.monochrome.toList, c ∈ codeChars :=
    fun c hc => List.contains_iff_mem.mp (List.all_eq_true.mp h c hc)
  cases styling with
  | off => cases hc
  | monochrome => exact hAll c (List.mem_append_right _ hc)
  | colour => exact hAll c (List.mem_append_left _ hc)

theorem mem_of_mem_apply (h : e.Numeric) {styling : Styling} {text : String} {c : Char}
    (hSign : c ∉ signs) (hc : c ∈ (e.apply styling text).toList) : c ∈ text.toList := by
  rw [apply_eq] at hc
  split at hc
  · exact hc
  · obtain ⟨hEscape, hBracket, hEnd, hOther⟩ :
        c ≠ '\x1b' ∧ c ≠ '[' ∧ c ≠ 'm' ∧ c ∉ codeChars := by
      simpa [signs] using hSign
    have hCode : c ∉ (e.code styling).toList := fun hc => hOther (h.mem_codeChars hc)
    have hZero : c ≠ '0' := by
      rintro rfl
      exact hOther (by decide)
    simpa [hEscape, hBracket, hEnd, hCode, hZero] using hc

/-- An emphasis goes away with its escape sequences. -/
theorem dropEscapes_apply (h : e.Numeric) (styling : Styling) {text : String}
    (hText : '\x1b' ∉ text.toList) (rest : List Char) :
    dropEscapes false ((e.apply styling text).toList ++ rest) =
      text.toList ++ dropEscapes false rest := by
  rw [apply_eq]
  split
  · exact dropEscapes_append hText rest
  · have hNoEnd : 'm' ∉ '[' :: (e.code styling).toList := by
      rw [List.mem_cons, not_or]
      exact ⟨by decide, fun hm => absurd (h.mem_codeChars hm) (by decide)⟩
    have hChars : ("\x1b[" ++ e.code styling ++ "m" ++ text ++ "\x1b[0m").toList ++ rest =
        '\x1b' :: (('[' :: (e.code styling).toList) ++ 'm' :: (text.toList ++
          '\x1b' :: (['[', '0'] ++ 'm' :: rest))) := by
      simp
    rw [hChars, dropEscapes, if_pos rfl, dropEscapes_sequence hNoEnd, dropEscapes_append hText,
      dropEscapes, if_pos rfl, dropEscapes_sequence (by decide)]

end Emphasis

end Terminal

end ApiLint
