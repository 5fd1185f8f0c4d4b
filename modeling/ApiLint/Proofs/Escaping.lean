import ApiLint.Pointer

/-!
# Written pointers

Writing a pointer escapes tildes and slashes in every segment and joins the segments by slashes;
reading one splits at slashes and undoes the escapes, slashes first.

* `encodeSegment_eq_escape` — writing a segment replaces all tildes and then all slashes;
* `decodeSegment_encodeSegment` — a segment is read as it was written;
* `segments_write` — the segments of a written pointer are the ones it was written with.
-/

namespace ApiLint.Pointer

-- ---------------------------------------------------------------------------
-- Escapes
-- ---------------------------------------------------------------------------

/-- Replaces every `plain` by a tilde and `code`. -/
def escape (plain code : Char) (cs : List Char) : List Char :=
  cs.flatMap fun c => if c = plain then ['~', code] else [c]

theorem escape_cons_self (plain code : Char) (cs : List Char) :
    escape plain code (plain :: cs) = '~' :: code :: escape plain code cs := by
  rw [escape, List.flatMap_cons, if_pos rfl]
  rfl

theorem escape_cons_of_ne {plain c : Char} (h : c ≠ plain) (code : Char) (cs : List Char) :
    escape plain code (c :: cs) = c :: escape plain code cs := by
  rw [escape, List.flatMap_cons, if_neg h]
  rfl

theorem unescape_tilde_code (code plain : Char) (cs : List Char) :
    unescape code plain ('~' :: code :: cs) = plain :: unescape code plain cs := by
  rw [unescape, if_pos rfl]

theorem unescape_tilde_of_ne {code c : Char} (h : c ≠ code) (plain : Char) (cs : List Char) :
    unescape code plain ('~' :: c :: cs) = '~' :: unescape code plain (c :: cs) := by
  rw [unescape, if_neg h]

theorem unescape_cons_of_ne {c : Char} (h : c ≠ '~') (code plain : Char) (cs : List Char) :
    unescape code plain (c :: cs) = c :: unescape code plain cs := by
  rw [unescape]
  intro d rest hTilde
  exact absurd hTilde h

theorem encodeSegment_cons (c : Char) (cs : List Char) :
    encodeSegment (c :: cs) =
      (if c = '~' then ['~', '0'] else if c = '/' then ['~', '1'] else [c]) ++ encodeSegment cs :=
  List.flatMap_cons

/-- Writing a segment replaces all tildes first and all slashes after that. -/
theorem encodeSegment_eq_escape (cs : List Char) :
    encodeSegment cs = escape '/' '1' (escape '~' '0' cs) := by
  induction cs with
  | nil => rfl
  | cons c cs ih =>
    rw [encodeSegment_cons, ih]
    by_cases hTilde : c = '~'
    · subst hTilde
      rw [escape_cons_self, escape_cons_of_ne (by decide), escape_cons_of_ne (by decide),
        if_pos rfl]
      rfl
    · rw [escape_cons_of_ne hTilde, if_neg hTilde]
      by_cases hSlash : c = '/'
      · subst hSlash
        rw [escape_cons_self, if_pos rfl]
        rfl
      · rw [escape_cons_of_ne hSlash, if_neg hSlash]
        rfl

/-- Undoing the escapes of slashes leaves those of tildes, because what follows a tilde of a written
segment is never taken for the code of a slash by mistake. -/
theorem unescape_encodeSegment (cs : List Char) :
    unescape '1' '/' (encodeSegment cs) = escape '~' '0' cs := by
  induction cs with
  | nil => rfl
  | cons c cs ih =>
    rw [encodeSegment_cons]
    by_cases hTilde : c = '~'
    · subst hTilde
      rw [if_pos rfl, escape_cons_self, ← ih]
      show unescape '1' '/' ('~' :: '0' :: encodeSegment cs) = _
      rw [unescape_tilde_of_ne (by decide), unescape_cons_of_ne (by decide)]
    · rw [if_neg hTilde, escape_cons_of_ne hTilde, ← ih]
      by_cases hSlash : c = '/'
      · subst hSlash
        rw [if_pos rfl]
        exact unescape_tilde_code '1' '/' _
      · rw [if_neg hSlash]
        exact unescape_cons_of_ne hTilde '1' '/' _

theorem unescape_escape (code : Char) (cs : List Char) :
    unescape code '~' (escape '~' code cs) = cs := by
  induction cs with
  | nil => rfl
  | cons c cs ih =>
    by_cases hTilde : c = '~'
    · subst hTilde
      rw [escape_cons_self, unescape_tilde_code, ih]
    · rw [escape_cons_of_ne hTilde, unescape_cons_of_ne hTilde, ih]

/-- A segment is read as it was written. -/
theorem decodeSegment_encodeSegment (cs : List Char) : decodeSegment (encodeSegment cs) = cs := by
  rw [decodeSegment, unescape_encodeSegment, unescape_escape]

theorem slash_not_mem_encodeSegment (cs : List Char) : '/' ∉ encodeSegment cs := by
  induction cs with
  | nil => exact List.not_mem_nil
  | cons c cs ih =>
    rw [encodeSegment_cons, List.mem_append]
    rintro (h | h)
    · split at h
      · revert h
        decide
      · next hTilde =>
        split at h
        · revert h
          decide
        · next hSlash => exact hSlash (List.mem_singleton.mp h).symm
    · exact ih h

-- ---------------------------------------------------------------------------
-- Segments
-- ---------------------------------------------------------------------------

/-- Splitting at slashes is what the standard library's split does. -/
theorem splitSlashes_eq_splitOn (cs : List Char) : splitSlashes cs = cs.splitOn '/' := by
  induction cs with
  | nil => rfl
  | cons c cs ih =>
    rw [splitSlashes, List.splitOn_cons_eq_if_modifyHead, ih]
    by_cases hSlash : c = '/'
    · rw [if_pos hSlash, if_pos (beq_iff_eq.mpr hSlash)]
    · rw [if_neg hSlash, if_neg (mt beq_iff_eq.mp hSlash)]
      cases hParts : cs.splitOn '/' with
      | nil => exact absurd hParts (List.splitOn_ne_nil '/' cs)
      | cons part parts => rfl

theorem segments_ne_nil (pointer : String) : segments pointer ≠ [] := by
  rw [segments, splitSlashes_eq_splitOn, ne_eq, List.map_eq_nil_iff]
  exact List.splitOn_ne_nil '/' _

theorem toList_write (segments : List String) :
    (write segments).toList =
      '#' :: '/' :: ['/'].intercalate (segments.map fun s => encodeSegment s.toList) := by
  have hParts : String.toList ∘ (fun s : String => String.ofList (encodeSegment s.toList)) =
      fun s => encodeSegment s.toList := funext fun _ => String.toList_ofList
  rw [write, String.toList_append, String.toList_intercalate, List.map_map, hParts]
  rfl

/-- A written pointer is local. -/
theorem startsWith_write (segments : List String) : (write segments).startsWith marker = true := by
  rw [String.startsWith_string_iff, toList_write]
  exact ⟨_, rfl⟩

/-- The segments of a written pointer are the ones it was written with. -/
theorem segments_write {segments : List String} (h : segments ≠ []) :
    Pointer.segments (write segments) = segments := by
  have hParts : (segments.map fun s => encodeSegment s.toList) ≠ [] := by
    rw [ne_eq, List.map_eq_nil_iff]
    exact h
  have hSlash : ∀ part ∈ segments.map (fun s => encodeSegment s.toList), '/' ∉ part := by
    intro part hPart
    obtain ⟨s, -, rfl⟩ := List.mem_map.mp hPart
    exact slash_not_mem_encodeSegment s.toList
  have hDecode : (fun cs => String.ofList (decodeSegment cs)) ∘
      (fun s : String => encodeSegment s.toList) = id := by
    funext s
    show String.ofList (decodeSegment (encodeSegment s.toList)) = s
    rw [decodeSegment_encodeSegment, String.ofList_toList]
  rw [Pointer.segments, toList_write, List.drop_succ_cons, List.drop_succ_cons, List.drop_zero,
    splitSlashes_eq_splitOn, List.splitOn_intercalate '/' hSlash hParts, List.map_map, hDecode,
    List.map_id]

end ApiLint.Pointer
