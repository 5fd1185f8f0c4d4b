import ApiLint.Document
import ApiLint.Proofs.Outcome
import ApiLint.Proofs.WellFormed
import Mathlib.Data.List.TakeWhile

/-!
# What reading JSON can come to

A text that is not JSON is refused, and one conversion can fail besides: that of an integer. So a
text in which no run of digits is longer than what is converted is either read or refused.

* `Json.Reads` — what every step of the reader keeps: it goes on in the text, and nothing but a run
  of too many digits in the text makes a conversion fail;
* `Json.reads_parts` — the steps joined over the whole reader, by induction on its fuel;
* `Json.spoiled_of_read` — so it is with whole texts;
* `Json.texts_of_read` — the keys of an object are texts.
-/

namespace ApiLint

namespace Json

open Outcome

/-- A run of digits in a text that is too long to be converted, and the fault that this is. -/
def SpoiledBy (s : List Char) (fault : Fault) : Prop :=
  ∃ ds, ds <:+: s ∧ (∀ c ∈ ds, Decimal.isDigit c = true) ∧ Fault.digitLimit < ds.length ∧
    fault = .numeralTooLong ds.length

theorem SpoiledBy.within {s s' : List Char} {fault : Fault} (h : SpoiledBy s fault)
    (hInfix : s <:+: s') : SpoiledBy s' fault := by
  obtain ⟨ds, hDs, hRest⟩ := h
  exact ⟨ds, hDs.trans hInfix, hRest⟩

-- ---------------------------------------------------------------------------
-- Steps
-- ---------------------------------------------------------------------------

/-- A step of reading a text goes on in that text, and a conversion in it fails only at a run of too
many digits. -/
structure Reads {α : Type} (s : List Char) (step : Except ReadError (α × List Char)) : Prop where
  rest : ∀ a rest, step = .ok (a, rest) → rest <:+ s
  fault : ∀ fault, step = .error (.conversion fault) → SpoiledBy s fault

namespace Reads

variable {α β : Type} {s s' rest : List Char}

theorem ok (a : α) (h : rest <:+ s) : Reads s (.ok (a, rest)) := by
  constructor
  · intro a' rest' hOk
    cases hOk
    exact h
  · intro fault hError
    cases hError

theorem malformed (problem : Problem) (rest : List Char) :
    Reads (α := α) s (.error (.malformed problem rest)) := by
  constructor
  · intro a rest' hOk
    cases hOk
  · intro fault hError
    cases hError

/-- A step at a later place of a text is a step in the whole text. -/
theorem later {step : Except ReadError (α × List Char)} (h : Reads s step) (hSuffix : s <:+ s') :
    Reads s' step :=
  ⟨fun a rest hOk => (h.rest a rest hOk).trans hSuffix,
    fun fault hError => (h.fault fault hError).within hSuffix.isInfix⟩

/-- One step after another. -/
theorem andThen {step : Except ReadError (α × List Char)}
    {next : α × List Char → Except ReadError (β × List Char)} (h : Reads s step)
    (hNext : ∀ a rest, rest <:+ s → Reads rest (next (a, rest))) : Reads s (step >>= next) := by
  cases step with
  | error e =>
    constructor
    · intro b rest hOk
      cases hOk
    · intro fault hError
      cases hError
      exact h.fault fault rfl
  | ok found =>
    obtain ⟨a, rest⟩ := found
    have hRest := h.rest a rest rfl
    exact (hNext a rest hRest).later hRest

end Reads

-- ---------------------------------------------------------------------------
-- Strings
-- ---------------------------------------------------------------------------

theorem skipSpace_suffix (s : List Char) : skipSpace s <:+ s := List.dropWhile_suffix _

theorem reads_unicodeEscape (s : List Char) : Reads s (unicodeEscape s) := by
  unfold unicodeEscape
  dsimp only
  split
  · exact .malformed _ _
  · split
    · split
      · exact .malformed _ _
      · split
        · refine .ok _ ?_
          rw [List.drop_drop, List.drop_drop]
          exact List.drop_suffix _ _
        · refine .ok _ ?_
          rw [List.drop_drop]
          exact List.drop_suffix _ _
    · refine .ok _ ?_
      rw [List.drop_drop]
      exact List.drop_suffix _ _

theorem reads_stringTail (opening : List Char) (fuel : Nat) (s : List Char) :
    Reads s (stringTail opening fuel s) := by
  fun_induction stringTail opening fuel s with
  | case1 => exact .malformed _ _
  | case2 => exact .malformed _ _
  | case3 _ rest => exact .ok _ (List.suffix_cons _ rest)
  | case4 => exact .malformed _ _
  | case5 fuel rest ih =>
    refine .later (.andThen (reads_unicodeEscape _) ?_) (List.suffix_cons _ _)
    intro c rest _
    exact (ih rest).andThen fun cs rest' _ => .ok _ (List.suffix_refl rest')
  | case6 => exact .malformed _ _
  | case7 fuel e rest _ c _ ih =>
    refine .later (ih.andThen fun cs rest' _ => .ok _ (List.suffix_refl rest')) ?_
    exact (List.suffix_cons _ rest).trans (List.suffix_cons _ _)
  | case8 => exact .malformed _ _
  | case9 fuel c rest _ _ _ _ _ ih =>
    refine .later (ih.andThen fun cs rest' _ => .ok _ (List.suffix_refl rest')) ?_
    exact List.suffix_cons _ rest

theorem reads_string (rest : List Char) : Reads rest (string rest) :=
  reads_stringTail _ _ rest

-- ---------------------------------------------------------------------------
-- Numbers and words
-- ---------------------------------------------------------------------------

theorem digitRun_suffix (s : List Char) : (digitRun s).2 <:+ s := List.dropWhile_suffix _

/-- A whole part is a run of digits at the start. -/
theorem wholePart_append (s : List Char) : (wholePart s).1 ++ (wholePart s).2 = s := by
  unfold wholePart
  split
  · rfl
  · exact List.takeWhile_append_dropWhile

theorem isDigit_of_mem_wholePart {s : List Char} {c : Char} (h : c ∈ (wholePart s).1) :
    Decimal.isDigit c = true := by
  unfold wholePart at h
  split at h
  · rw [List.mem_singleton.mp h]
    decide
  · exact List.mem_takeWhile_imp h

theorem fractionPart_suffix (s : List Char) : (fractionPart s).2 <:+ s := by
  unfold fractionPart
  split
  · next rest =>
    split
    · exact List.suffix_refl _
    · next h =>
      exact (congrArg Prod.snd h ▸ digitRun_suffix rest).trans (List.suffix_cons _ _)
  · exact List.suffix_refl s

theorem exponentPart_suffix (s : List Char) : (exponentPart s).2 <:+ s := by
  unfold exponentPart
  extract_lets signed afterMark
  -- the digits of an exponent end later in the text than they begin
  have hSigned : ∀ negative rest, rest <:+ s → (signed negative rest).2 <:+ s := by
    intro negative rest hRest
    unfold signed
    split
    · exact List.suffix_refl s
    · next h => exact (congrArg Prod.snd h ▸ digitRun_suffix rest).trans hRest
  have hMark : ∀ rest, rest <:+ s → (afterMark rest).2 <:+ s := by
    intro rest hRest
    unfold afterMark
    split
    · exact hSigned true _ ((List.suffix_cons _ _).trans hRest)
    · exact hSigned false _ ((List.suffix_cons _ _).trans hRest)
    · exact hSigned false _ hRest
  split
  · exact hMark _ (List.suffix_cons _ _)
  · exact hMark _ (List.suffix_cons _ _)
  · exact List.suffix_refl s

theorem reads_number (s : List Char) : Reads s (number s) := by
  unfold number
  split
  next negative body hSign =>
  have hBody : body <:+ s := by
    split at hSign
    · cases hSign
      exact List.suffix_cons _ _
    · cases hSign
      exact List.suffix_refl s
  have hAppend := wholePart_append body
  split
  · exact .malformed _ _
  · next whole rest _ hWhole =>
    have hDigits : ∀ c ∈ whole, Decimal.isDigit c = true := by
      intro c hc
      apply isDigit_of_mem_wholePart
      rw [hWhole]
      exact hc
    rw [hWhole] at hAppend
    have hRest : rest <:+ s := by
      refine .trans ?_ hBody
      rw [← hAppend]
      exact List.suffix_append whole rest
    dsimp only
    have hAfter : (exponentPart (fractionPart rest).2).2 <:+ s :=
      (exponentPart_suffix _).trans ((fractionPart_suffix rest).trans hRest)
    split
    · split
      · next fault hNumeral =>
        constructor
        · intro a rest' hOk
          cases hOk
        · intro fault' hError
          cases hError
          unfold Decimal.numeral at hNumeral
          split at hNumeral
          · cases hNumeral
          · next hLong =>
            cases hNumeral
            refine ⟨whole, ?_, hDigits, Nat.lt_of_not_le hLong, rfl⟩
            refine .trans ?_ hBody.isInfix
            rw [← hAppend]
            exact (List.prefix_append whole rest).isInfix
      · exact .ok _ hAfter
    · exact .ok _ hAfter

theorem reads_wordOrNumber (s : List Char) : Reads s (wordOrNumber s) := by
  unfold wordOrNumber
  split
  · exact .ok _ (List.drop_suffix _ s)
  · exact reads_number s

-- ---------------------------------------------------------------------------
-- Values
-- ---------------------------------------------------------------------------

/-- Readers of values, items and members that keep to their texts. -/
structure KeepTo (fuel : Nat) : Prop where
  value : ∀ s, Reads s (value fuel s)
  items : ∀ s, Reads s (items fuel s)
  members : ∀ s, Reads s (members fuel s)

theorem reads_value_succ {fuel : Nat} (ih : KeepTo fuel) (s : List Char) :
    Reads s (value (fuel + 1) s) := by
  unfold value
  split
  · exact .malformed _ _
  · next rest =>
    refine .later ((reads_string rest).andThen ?_) (List.suffix_cons _ rest)
    exact fun text rest' _ => .ok _ (List.suffix_refl rest')
  · next rest =>
    refine .later (s := skipSpace rest) ?_ ((skipSpace_suffix rest).trans (List.suffix_cons _ rest))
    generalize skipSpace rest = t
    split
    · exact .ok _ (List.suffix_cons _ _)
    · exact (ih.items t).andThen fun items rest' _ => .ok _ (List.suffix_refl rest')
  · next rest =>
    refine .later (s := skipSpace rest) ?_ ((skipSpace_suffix rest).trans (List.suffix_cons _ rest))
    generalize skipSpace rest = t
    split
    · exact .ok _ (List.suffix_cons _ _)
    · exact (ih.members t).andThen fun pairs rest' _ => .ok _ (List.suffix_refl rest')
  · exact reads_wordOrNumber s

theorem reads_items_succ {fuel : Nat} (ih : KeepTo fuel) (s : List Char) :
    Reads s (items (fuel + 1) s) := by
  unfold items
  refine (ih.value s).andThen ?_
  intro v rest _
  refine .later (s := skipSpace rest) ?_ (skipSpace_suffix rest)
  dsimp only
  generalize skipSpace rest = t
  split
  · exact .ok _ (List.suffix_cons _ _)
  · next rest' =>
    refine .later ((ih.items _).andThen fun vs rest _ => .ok _ (List.suffix_refl rest)) ?_
    exact (skipSpace_suffix rest').trans (List.suffix_cons _ rest')
  · exact .malformed _ _

theorem reads_members_succ {fuel : Nat} (ih : KeepTo fuel) (s : List Char) :
    Reads s (members (fuel + 1) s) := by
  unfold members
  split
  · next rest =>
    refine .later (s := rest) ((reads_string rest).andThen ?_) (List.suffix_cons _ rest)
    intro name rest' _
    refine .later (s := skipSpace rest') ?_ (skipSpace_suffix rest')
    dsimp only
    generalize skipSpace rest' = t
    split
    · next rest =>
      refine .later (s := skipSpace rest) ((ih.value _).andThen ?_)
        ((skipSpace_suffix rest).trans (List.suffix_cons _ rest))
      intro v rest' _
      refine .later (s := skipSpace rest') ?_ (skipSpace_suffix rest')
      dsimp only
      generalize skipSpace rest' = t
      split
      · exact .ok _ (List.suffix_cons _ _)
      · next rest =>
        refine .later ((ih.members _).andThen fun es rest _ => .ok _ (List.suffix_refl rest)) ?_
        exact (skipSpace_suffix rest).trans (List.suffix_cons _ rest)
      · exact .malformed _ _
    · exact .malformed _ _
  · exact .malformed _ _

theorem reads_parts (fuel : Nat) : KeepTo fuel := by
  induction fuel with
  | zero =>
    exact ⟨fun s => .malformed _ s, fun s => .malformed _ s, fun s => .malformed _ s⟩
  | succ fuel ih => exact ⟨reads_value_succ ih, reads_items_succ ih, reads_members_succ ih⟩

theorem spoiled_of_readChars {s : List Char} {fault : Fault}
    (h : readChars s = .error (.conversion fault)) : SpoiledBy s fault := by
  unfold readChars at h
  dsimp only at h
  split at h
  · cases h
  · have hReads := (reads_parts (2 * (s.length + 1))).value (skipSpace s)
    rcases bind_eq_error.mp h with hValue | ⟨⟨v, rest⟩, -, h⟩
    · exact (hReads.fault fault hValue).within (skipSpace_suffix s).isInfix
    · dsimp only at h
      split at h
      · cases h
      · cases h

/-- **A conversion fails in the reading of a text only at a run of too many digits in it.** -/
theorem spoiled_of_read {text : String} {fault : Fault}
    (h : read text = .error (.conversion fault)) : SpoiledBy text.toList fault :=
  spoiled_of_readChars h

-- ---------------------------------------------------------------------------
-- Keys
-- ---------------------------------------------------------------------------

theorem texts_object (members : List (List Text.CodePoint × Value)) : (object members).Texts :=
  Entries.texts_ofPairs (List.forall_mem_map.mpr fun _ _ => ⟨_, rfl⟩)

theorem number_ne_map {s rest : List Char} {es : Entries} :
    number s ≠ .ok (.map es, rest) := by
  intro h
  unfold number at h
  dsimp only at h
  split at h
  · cases h
  · split at h
    · split at h
      · cases h
      · cases h
    · cases h

theorem wordOrNumber_ne_map {s rest : List Char} {es : Entries} :
    wordOrNumber s ≠ .ok (.map es, rest) := by
  intro h
  unfold wordOrNumber at h
  split at h
  · next word v hFind =>
    have hMem := List.mem_of_find?_eq_some hFind
    cases h
    simp [words] at hMem
  · exact number_ne_map h

theorem texts_of_value {fuel : Nat} {s rest : List Char} {es : Entries}
    (h : value fuel s = .ok (.map es, rest)) : es.Texts := by
  cases fuel with
  | zero => cases h
  | succ fuel =>
    unfold value at h
    split at h
    · cases h
    · obtain ⟨_, -, h⟩ := bind_eq_ok.mp h
      cases h
    · split at h
      · cases h
      · obtain ⟨_, -, h⟩ := bind_eq_ok.mp h
        cases h
    · split at h
      · cases h
        exact Entries.texts_nil
      · obtain ⟨⟨pairs, after⟩, -, h⟩ := bind_eq_ok.mp h
        cases h
        exact texts_object pairs
    · exact absurd h wordOrNumber_ne_map

/-- The keys of an object are texts. -/
theorem texts_of_read {text : String} {es : Entries} (h : read text = .ok (.map es)) :
    es.Texts := by
  unfold read readChars at h
  dsimp only at h
  split at h
  · cases h
  · obtain ⟨⟨v, rest⟩, hValue, h⟩ := bind_eq_ok.mp h
    dsimp only at h
    split at h
    · cases h
      exact texts_of_value hValue
    · cases h

end Json

-- ---------------------------------------------------------------------------
-- The reader of documents
-- ---------------------------------------------------------------------------

namespace Formats

theorem readJson_eq_conversion {text : String} {fault : Fault} :
    readJson text = .error (.conversion fault) ↔ Json.read text = .error (.conversion fault) := by
  unfold readJson
  split
  · next h => simp [h]
  · next h => simp [h]
  · next h => simp [h]

theorem readJson_eq_ok {text : String} {v : Value} :
    readJson text = .ok v ↔ Json.read text = .ok v := by
  unfold readJson
  split
  · next h => simp [h]
  · next h => simp [h]
  · next h => simp [h]

end Formats

end ApiLint
