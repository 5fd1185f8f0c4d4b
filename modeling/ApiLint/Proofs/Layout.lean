import ApiLint.Table.Boxed
import Mathlib.Data.List.SplitBy

/-!
# Room for texts

A line that has room is not wrapped, a line that is wrapped keeps its characters up to blanks at the
ends of its parts, and columns that have room are not narrowed. Narrowing always comes to an end:
the columns fit when it is over.

* `Text.flatten_fill`, `Text.mem_of_mem_wrap` — what becomes of the characters of a line;
* `Text.wrap_of_fits` — a line with room;
* `Table.total_trim_lt`, `Table.total_narrow_le` — a step makes columns narrower, and all of them
  make them fit;
* `Table.widths_of_fits`, `Table.span_widths_le` — the columns of a table.
-/

namespace ApiLint

-- ---------------------------------------------------------------------------
-- Lines
-- ---------------------------------------------------------------------------

namespace Text

variable {columns : Nat}

theorem flatten_words (line : List Char) : (words line).flatten = line := by
  have hLine : line.takeWhile isBlank ++ line.dropWhile isBlank = line :=
    List.takeWhile_append_dropWhile
  have hRest := List.flatten_splitBy (fun c d => !isBlank c || isBlank d) (line.dropWhile isBlank)
  unfold words
  cases hWords : (line.dropWhile isBlank).splitBy fun c d => !isBlank c || isBlank d with
  | nil =>
    rw [hWords] at hRest
    rw [← hRest] at hLine
    simpa using hLine
  | cons first rest =>
    rw [hWords] at hRest
    rw [← hRest] at hLine
    simpa using hLine

theorem wordWidth_le (word : List Char) : wordWidth word ≤ word.length := by
  have h := (List.dropWhile_sublist isBlank (l := word.reverse)).length_le
  rwa [List.length_reverse] at h

theorem flatten_chunks (piece cs : List Char) :
    (chunks columns piece cs).flatten = piece ++ cs := by
  induction cs generalizing piece with
  | nil => simp [chunks]
  | cons c cs ih =>
    rw [chunks]
    split
    · rw [ih, List.append_assoc, List.singleton_append]
    · rw [List.flatten_cons, ih, List.singleton_append]

theorem flatten_dropLast_getLast? (parts : List (List Char)) :
    parts.dropLast.flatten ++ parts.getLast?.getD [] = parts.flatten := by
  cases parts using List.reverseRecOn with
  | nil => rfl
  | append_singleton parts last _ => simp

/-- **Filling lines with words loses nothing.** -/
theorem flatten_fill (line : List Char) (ws : List (List Char)) :
    (fill columns line ws).flatten = line ++ ws.flatten := by
  induction ws generalizing line with
  | nil => simp [fill]
  | cons word rest ih =>
    rw [fill, List.flatten_cons]
    split
    · rw [ih, List.append_assoc]
    · have hClosed : (if line = [] then [] else [line]).flatten = line := by
        split <;> simp [*]
      have hParts : (if columns < wordWidth word then chunks columns [] word else [word]).flatten =
          word := by
        split
        · rw [flatten_chunks, List.nil_append]
        · exact List.flatten_singleton
      rw [List.flatten_append, List.flatten_append, hClosed, ih, ← List.append_assoc,
        List.append_assoc line, flatten_dropLast_getLast?, hParts, List.append_assoc]

/-- No part of a line has a character that the line does not have. -/
theorem mem_of_mem_wrap {line part : String} {c : Char} (hPart : part ∈ wrap columns line)
    (hc : c ∈ part.toList) : c ∈ line.toList := by
  obtain ⟨cs, hcs, rfl⟩ := List.mem_map.mp hPart
  rw [String.toList_ofList] at hc
  have hMem : c ∈ (fill columns [] (words line.toList)).flatten :=
    List.mem_flatten.mpr ⟨cs, hcs, List.mem_of_mem_take hc⟩
  rwa [flatten_fill, List.nil_append, flatten_words] at hMem

theorem length_le_of_mem_wrap {line part : String} (hPart : part ∈ wrap columns line) :
    part.length ≤ columns := by
  obtain ⟨cs, -, rfl⟩ := List.mem_map.mp hPart
  rw [String.length_ofList]
  exact List.length_take_le _ _

/-- Words that have room stay in one line. -/
theorem fill_of_fits {line : List Char} {ws : List (List Char)}
    (h : line.length + ws.flatten.length ≤ columns) :
    fill columns line ws = [line ++ ws.flatten] := by
  induction ws generalizing line with
  | nil => simp [fill]
  | cons word rest ih =>
    rw [List.flatten_cons, List.length_append] at h
    have hWidth := wordWidth_le word
    have hRest : (line ++ word).length + rest.flatten.length ≤ columns := by
      rw [List.length_append]
      omega
    rw [fill, if_pos (by omega), ih hRest, List.append_assoc, List.flatten_cons]

/-- **A line that has room is not wrapped.** -/
theorem wrap_of_fits {line : String} (h : line.length ≤ columns) : wrap columns line = [line] := by
  rw [← String.length_toList] at h
  have hFits : ([] : List Char).length + (words line.toList).flatten.length ≤ columns := by
    rw [flatten_words]
    simpa using h
  rw [wrap, fill_of_fits hFits, List.nil_append, flatten_words, List.map_singleton,
    List.take_of_length_le h, String.ofList_toList]

end Text

-- ---------------------------------------------------------------------------
-- Columns
-- ---------------------------------------------------------------------------

namespace Table

theorem le_foldl_max (ws : List Nat) (m : Nat) :
    m ≤ ws.foldl max m ∧ ∀ w ∈ ws, w ≤ ws.foldl max m := by
  induction ws generalizing m with
  | nil => simp
  | cons w ws ih =>
    obtain ⟨hStart, hAll⟩ := ih (max m w)
    rw [List.foldl_cons, List.forall_mem_cons]
    exact ⟨by omega, by omega, hAll⟩

theorem foldl_max_mem (ws : List Nat) (m : Nat) : ws.foldl max m = m ∨ ws.foldl max m ∈ ws := by
  induction ws generalizing m with
  | nil => exact .inl rfl
  | cons w ws ih =>
    rw [List.foldl_cons, List.mem_cons]
    rcases ih (max m w) with h | h
    · omega
    · exact .inr (.inr h)

theorem foldl_max_lt {ws : List Nat} {bound : Nat} (hBound : 0 < bound) (h : ∀ w ∈ ws, w < bound) :
    ws.foldl max 0 < bound := by
  rcases foldl_max_mem ws 0 with hMax | hMax
  · omega
  · exact h _ hMax

theorem foldl_max_eq {ws : List Nat} {n : Nat} (hMember : n ∈ ws) (hAll : ∀ w ∈ ws, w ≤ n) :
    ws.foldl max 0 = n := by
  refine Nat.le_antisymm ?_ ((le_foldl_max ws 0).2 n hMember)
  rcases foldl_max_mem ws 0 with hMax | hMax
  · omega
  · exact hAll _ hMax

theorem le_total_of_mem {ws : List Nat} {w : Nat} (hw : w ∈ ws) : w ≤ total ws := by
  induction ws with
  | nil => cases hw
  | cons w' ws ih =>
    rw [total]
    rcases List.mem_cons.mp hw with rfl | hw
    · exact Nat.le_add_right _ _
    · exact Nat.le_add_left_of_le (ih hw)

theorem total_eq_zero {ws : List Nat} (h : ∀ w ∈ ws, w = 0) : total ws = 0 := by
  induction ws with
  | nil => rfl
  | cons w ws ih =>
    obtain ⟨hw, hws⟩ := List.forall_mem_cons.mp h
    rw [total, hw, ih hws]

@[simp] theorem length_trim (widest limit excess count : Nat) (ws : List Nat) :
    (trim widest limit excess count ws).length = ws.length := by
  induction ws generalizing excess count with
  | nil => rfl
  | cons w ws ih =>
    rw [trim]
    split <;> simp [ih]

theorem total_trim_le (widest limit excess count : Nat) (ws : List Nat) :
    total (trim widest limit excess count ws) ≤ total ws := by
  induction ws generalizing excess count with
  | nil => exact Nat.le_refl _
  | cons w ws ih =>
    rw [trim]
    split
    · have := ih (excess - min limit (Binary64.roundHalfEven excess count)) (count - 1)
      simp only [total]
      omega
    · have := ih excess count
      simp only [total]
      omega

/-- The last column to give way takes all that is left. -/
theorem roundHalfEven_one (n : Nat) : Binary64.roundHalfEven n 1 = n := by
  simp [Binary64.roundHalfEven, Nat.mod_one]

/-- **A step makes the columns narrower**, since one of the widest columns gets a share. -/
theorem total_trim_lt (limit : Nat) {widest excess count : Nat} {ws : List Nat} (hWidest : 0 < widest)
    (hLimit : 0 < limit) (hExcess : 0 < excess) (hCount : ws.count widest = count)
    (hSome : 0 < count) : total (trim widest limit excess count ws) < total ws := by
  induction ws generalizing excess count with
  | nil =>
    rw [List.count_nil] at hCount
    omega
  | cons w ws ih =>
    rw [trim]
    split
    · next hw =>
      subst hw
      rw [List.count_cons_self] at hCount
      by_cases hShare : Binary64.roundHalfEven excess count = 0
      · -- the others have to take what this column does not
        have hMore : count ≠ 1 := by
          rintro rfl
          rw [roundHalfEven_one] at hShare
          omega
        have := ih hExcess (show ws.count w = count - 1 by omega) (by omega)
        simp only [hShare, Nat.min_zero, Nat.sub_zero, total]
        omega
      · have := total_trim_le w limit (excess - min limit (Binary64.roundHalfEven excess count))
          (count - 1) ws
        simp only [total]
        omega
    · next hw =>
      rw [List.count_cons_of_ne hw] at hCount
      have := ih hExcess hCount hSome
      simp only [total]
      omega

@[simp] theorem length_narrow (room steps : Nat) (ws : List Nat) :
    (narrow room steps ws).length = ws.length := by
  induction steps generalizing ws with
  | zero => rfl
  | succ steps ih =>
    rw [narrow]
    split
    · rfl
    · simp [ih]

theorem narrow_of_fits {room steps : Nat} {ws : List Nat} (h : total ws ≤ room) :
    narrow room steps ws = ws := by
  cases steps with
  | zero => rfl
  | succ steps => rw [narrow, if_pos h]

/-- **Columns fit when they have been narrowed**, if there are enough steps for the worst case. -/
theorem total_narrow_le {room steps : Nat} {ws : List Nat} (h : total ws ≤ room + steps) :
    total (narrow room steps ws) ≤ room := by
  induction steps generalizing ws with
  | zero => exact h
  | succ steps ih =>
    rw [narrow]
    split
    · next hFits => exact hFits
    · next hTooWide =>
      obtain ⟨-, hAll⟩ := le_foldl_max ws 0
      have hPositive : 0 < ws.foldl max 0 := by
        by_contra hZero
        have hTotal : total ws = 0 := total_eq_zero fun w hw => by
          have := hAll w hw
          omega
        omega
      have hMember : ws.foldl max 0 ∈ ws := by
        rcases foldl_max_mem ws 0 with hMax | hMax
        · omega
        · exact hMax
      have hNext : (ws.filter (· ≠ ws.foldl max 0)).foldl max 0 < ws.foldl max 0 := by
        refine foldl_max_lt hPositive fun w hw => ?_
        obtain ⟨hw, hDiffers⟩ := List.mem_filter.mp hw
        exact Nat.lt_of_le_of_ne (hAll w hw) (of_decide_eq_true hDiffers)
      have hLess := total_trim_lt (min (total ws - room)
        (ws.foldl max 0 - (ws.filter (· ≠ ws.foldl max 0)).foldl max 0)) hPositive (by omega)
        (by omega : 0 < total ws - room) rfl (List.count_pos_iff.mpr hMember)
      exact ih (by omega)

section Widths

variable {t : Table} {columns : Nat}

theorem length_naturalWidths (t : Table) : t.naturalWidths.length = t.columnCount := by
  simp [naturalWidths]

theorem length_widths (t : Table) (columns : Nat) : (t.widths columns).length = t.columnCount := by
  simp [widths, length_naturalWidths]

/-- **Columns that have room are not narrowed.** -/
theorem widths_of_fits (h : span t.naturalWidths ≤ columns) :
    t.widths columns = t.naturalWidths := by
  have hRoom : total t.naturalWidths ≤ columns - bars t.columnCount := by
    rw [span, length_naturalWidths] at h
    omega
  have hMap : t.naturalWidths.map (min (columns - bars t.columnCount)) = t.naturalWidths := by
    conv_rhs => rw [← List.map_id t.naturalWidths]
    apply List.map_congr_left
    intro w hw
    have := le_total_of_mem hw
    simp only [id_eq]
    omega
  rw [widths, hMap, narrow_of_fits hRoom]

/-- **A table is no wider than the terminal**, if there is room for its bars. -/
theorem span_widths_le (h : bars t.columnCount ≤ columns) : span (t.widths columns) ≤ columns := by
  have hTotal : total (t.widths columns) ≤ columns - bars t.columnCount :=
    total_narrow_le (Nat.le_add_left _ _)
  rw [span, length_widths]
  omega

end Widths

end Table

end ApiLint
