import ApiLint.Proofs.Escaping
import Mathlib.Data.Set.Function

/-!
# Texts of pointers

Segments are written as a text in which every tilde begins an escape, and every such text is the one
that some segments are written as. So reading and writing are inverse to each other: a well-formed
pointer and its segments determine each other.

* `Pointer.Escaped` — every tilde begins an escape, as a grammar; `Escaped.followed` and
  `escaped_of_followed` say the same by positions;
* `Pointer.wellFormed_iff` — the well-formed pointers are those that are written;
* `Pointer.segments_bijective` — reading and writing as inverse to each other.
-/

namespace ApiLint.Pointer

-- ---------------------------------------------------------------------------
-- Escaped texts
-- ---------------------------------------------------------------------------

/-- Characters among which every tilde begins the escape of a tilde or of a slash. -/
inductive Escaped : List Char → Prop
  | nil : Escaped []
  | tilde {cs : List Char} (h : Escaped cs) : Escaped ('~' :: '0' :: cs)
  | slash {cs : List Char} (h : Escaped cs) : Escaped ('~' :: '1' :: cs)
  | plain {c : Char} {cs : List Char} (hPlain : c ≠ '~') (h : Escaped cs) : Escaped (c :: cs)

namespace Escaped

variable {as bs cs : List Char}

theorem append (ha : Escaped as) (hb : Escaped bs) : Escaped (as ++ bs) := by
  induction ha with
  | nil => exact hb
  | tilde _ ih => exact .tilde ih
  | slash _ ih => exact .slash ih
  | plain hPlain _ ih => exact .plain hPlain ih

/-- Every tilde is directly followed by a zero or a one. -/
theorem followed (h : Escaped cs) {i : Nat} (hTilde : cs[i]? = some '~') :
    cs[i + 1]? = some '0' ∨ cs[i + 1]? = some '1' := by
  induction h generalizing i with
  | nil => cases hTilde
  | tilde _ ih =>
    rcases i with - | - | i
    · exact .inl rfl
    · cases hTilde
    · exact ih hTilde
  | slash _ ih =>
    rcases i with - | - | i
    · exact .inr rfl
    · cases hTilde
    · exact ih hTilde
  | plain hPlain _ ih =>
    rcases i with - | i
    · exact absurd (Option.some.inj hTilde) hPlain
    · exact ih hTilde

end Escaped

theorem escaped_of_followed : ∀ {cs : List Char},
    (∀ i, cs[i]? = some '~' → cs[i + 1]? = some '0' ∨ cs[i + 1]? = some '1') → Escaped cs
  | [], _ => .nil
  | [c], h => by
    refine .plain ?_ .nil
    rintro rfl
    rcases h 0 rfl with h | h <;> cases h
  | c :: d :: cs, h => by
    by_cases hTilde : c = '~'
    · subst hTilde
      -- what follows the code begins two characters later
      have hRest : Escaped cs := escaped_of_followed fun i hi => h (i + 2) hi
      rcases h 0 rfl with hCode | hCode
      · cases hCode
        exact .tilde hRest
      · cases hCode
        exact .slash hRest
    · exact .plain hTilde (escaped_of_followed fun i hi => h (i + 1) hi)

-- ---------------------------------------------------------------------------
-- What is written
-- ---------------------------------------------------------------------------

theorem escaped_encodeSegment (cs : List Char) : Escaped (encodeSegment cs) := by
  induction cs with
  | nil => exact .nil
  | cons c cs ih =>
    rw [encodeSegment_cons]
    split
    · exact .tilde ih
    · next hTilde =>
      split
      · exact .slash ih
      · exact .plain hTilde ih

theorem escaped_intercalate {parts : List (List Char)} (h : ∀ part ∈ parts, Escaped part) :
    Escaped (['/'].intercalate parts) := by
  induction parts with
  | nil => exact .nil
  | cons part parts ih =>
    obtain ⟨hPart, hParts⟩ := List.forall_mem_cons.mp h
    cases parts with
    | nil => simpa using hPart
    | cons next parts =>
      rw [List.intercalate_cons_cons, List.append_assoc]
      exact hPart.append (.plain (by decide) (ih hParts))

/-- What begins the first part begins the whole. -/
theorem intercalate_append_head (front part : List Char) (parts : List (List Char)) :
    ['/'].intercalate ((front ++ part) :: parts) = front ++ ['/'].intercalate (part :: parts) := by
  cases parts with
  | nil => simp
  | cons next parts => simp [List.intercalate_cons_cons]

/-- Every escaped text is what some segments are written as. An escape or another character begins
the first of them, and a slash ends an empty one before them. -/
theorem exists_segments_of_escaped {cs : List Char} (h : Escaped cs) :
    ∃ s ss, cs = ['/'].intercalate ((s :: ss).map encodeSegment) := by
  induction h with
  | nil => exact ⟨[], [], rfl⟩
  | tilde _ ih =>
    obtain ⟨s, ss, rfl⟩ := ih
    exact ⟨'~' :: s, ss, (intercalate_append_head ['~', '0'] (encodeSegment s) _).symm⟩
  | slash _ ih =>
    obtain ⟨s, ss, rfl⟩ := ih
    exact ⟨'/' :: s, ss, (intercalate_append_head ['~', '1'] (encodeSegment s) _).symm⟩
  | @plain c _ hPlain _ ih =>
    obtain ⟨s, ss, rfl⟩ := ih
    by_cases hSlash : c = '/'
    · subst hSlash
      refine ⟨[], s :: ss, ?_⟩
      show _ = ['/'].intercalate ([] :: encodeSegment s :: ss.map encodeSegment)
      rw [List.intercalate_cons_cons]
      rfl
    · have hEncode : encodeSegment (c :: s) = [c] ++ encodeSegment s := by
        rw [encodeSegment_cons, if_neg hPlain, if_neg hSlash]
      refine ⟨c :: s, ss, ?_⟩
      rw [List.map_cons, List.map_cons, hEncode, intercalate_append_head]
      rfl

-- ---------------------------------------------------------------------------
-- Pointers
-- ---------------------------------------------------------------------------

/-- Whether a text is a well-formed local pointer: it starts with the marker, and every tilde in it
is directly followed by a zero or a one. -/
structure WellFormed (text : String) : Prop where
  marked : text.startsWith "#/" = true
  followed : ∀ i, text.toList[i]? = some '~' →
    text.toList[i + 1]? = some '0' ∨ text.toList[i + 1]? = some '1'

/-- **The well-formed pointers are those that are written.** -/
theorem wellFormed_iff {text : String} :
    WellFormed text ↔ ∃ segments, segments ≠ [] ∧ write segments = text := by
  constructor
  · rintro ⟨hMarked, hFollowed⟩
    obtain ⟨cs, hText⟩ := String.startsWith_string_iff.mp hMarked
    -- the marker has no tilde, so the condition is one on what follows it
    have hEscaped : Escaped cs := by
      refine escaped_of_followed fun i hi => ?_
      have := hFollowed (i + 2)
      rw [← hText] at this
      exact this hi
    obtain ⟨s, ss, rfl⟩ := exists_segments_of_escaped hEscaped
    refine ⟨(s :: ss).map String.ofList, List.cons_ne_nil _ _, ?_⟩
    have hChars : (fun s : String => encodeSegment s.toList) ∘ String.ofList = encodeSegment :=
      funext fun cs => congrArg encodeSegment String.toList_ofList
    rw [← String.toList_inj, toList_write, List.map_map, hChars, ← hText]
    rfl
  · rintro ⟨segments, -, rfl⟩
    refine ⟨startsWith_write segments, fun i => ?_⟩
    have hParts : Escaped (['/'].intercalate (segments.map fun s => encodeSegment s.toList)) := by
      refine escaped_intercalate fun part hPart => ?_
      obtain ⟨s, -, rfl⟩ := List.mem_map.mp hPart
      exact escaped_encodeSegment _
    rw [toList_write]
    exact (Escaped.plain (by decide) (.plain (by decide) hParts)).followed

/-- A well-formed pointer is what its segments are written as. -/
theorem write_segments {text : String} (h : WellFormed text) :
    write (Pointer.segments text) = text := by
  obtain ⟨segments, hSegments, rfl⟩ := wellFormed_iff.mp h
  rw [segments_write hSegments]

theorem write_eq_escape (segments : List String) :
    write segments = "#/" ++ "/".intercalate (segments.map fun s =>
      String.ofList (escape '/' '1' (escape '~' '0' s.toList))) := by
  simp only [write, encodeSegment_eq_escape]
  rfl

/-- **Reading and writing pointers are inverse to each other.** A pointer is written by replacing
all tildes and then all slashes in every segment, and is well-formed. Its segments are the ones it
was written with, if there are any, and a well-formed pointer is what its segments are written as.
So the well-formed pointers correspond to the lists of segments that are not empty, one to one. -/
theorem segments_bijective :
    (∀ segments : List String, write segments = "#/" ++ "/".intercalate (segments.map fun s =>
        String.ofList (escape '/' '1' (escape '~' '0' s.toList)))) ∧
      (∀ segments, segments ≠ [] →
        WellFormed (write segments) ∧ Pointer.segments (write segments) = segments) ∧
      (∀ text, WellFormed text →
        Pointer.segments text ≠ [] ∧ write (Pointer.segments text) = text) ∧
      Set.BijOn Pointer.segments {text | WellFormed text} {segments | segments ≠ []} := by
  have hRead : ∀ segments, segments ≠ [] →
      WellFormed (write segments) ∧ Pointer.segments (write segments) = segments :=
    fun segments h => ⟨wellFormed_iff.mpr ⟨segments, h, rfl⟩, segments_write h⟩
  have hInverse : Set.InvOn write Pointer.segments {text | WellFormed text}
      {segments | segments ≠ []} :=
    ⟨fun _ => write_segments, fun segments h => (hRead segments h).2⟩
  refine ⟨write_eq_escape, hRead, fun text h => ⟨segments_ne_nil text, write_segments h⟩, ?_⟩
  exact hInverse.bijOn (fun text _ => segments_ne_nil text) fun segments h => (hRead segments h).1

/-- A pointer with two empty segments and with codes after codes in the others. -/
def codedPointer : String := "#//~01/~001~10/~0~1~1/"

theorem segments_bijective_coded :
    WellFormed codedPointer ∧
      Pointer.segments codedPointer = ["", "~1", "~01/0", "~//", ""] ∧
      write ["", "~1", "~01/0", "~//", ""] = codedPointer := by
  obtain ⟨-, hRead, hWrite, -⟩ := segments_bijective
  have hWritten : write ["", "~1", "~01/0", "~//", ""] = codedPointer := by
    decide +kernel
  obtain ⟨hWellFormed, hSegments⟩ := hRead ["", "~1", "~01/0", "~//", ""] (List.cons_ne_nil _ _)
  rw [hWritten] at hWellFormed hSegments
  obtain ⟨-, hBack⟩ := hWrite codedPointer hWellFormed
  rw [hSegments] at hBack
  exact ⟨hWellFormed, hSegments, hBack⟩

end ApiLint.Pointer
