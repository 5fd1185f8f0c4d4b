import ApiLint.Proofs.Outcome
import ApiLint.Text.Utf8
import Mathlib.Tactic.SplitIfs

/-!
# UTF-8 both ways

Writing a text as bytes and reading it back gives the text, and bytes that can be read are those of
the text that was read.

* `Text.Utf8.decode_encode` — what is written is read;
* `Text.Utf8.decode_eq_ok_iff` — nothing else is.
-/

namespace ApiLint.Text.Utf8

open Outcome

-- ---------------------------------------------------------------------------
-- Characters and bytes
-- ---------------------------------------------------------------------------

theorem toNat_ofNat {n : Nat} (h : n.isValidChar) : (Char.ofNat n).toNat = n := by
  rw [Char.ofNat, dif_pos h]
  rfl

theorem toNat_toUInt8 {n : Nat} (h : n < 0x100) : n.toUInt8.toNat = n := UInt8.toNat_ofNat_of_lt' h

/-- The bytes of a character, with divisions in place of shifts. -/
theorem encodeChar_eq (c : Char) :
    encodeChar c =
      if c.toNat < 0x80 then [c.toNat.toUInt8]
      else if c.toNat < 0x800 then
        [(0xc0 + c.toNat / 64).toUInt8, (0x80 + c.toNat % 64).toUInt8]
      else if c.toNat < 0x10000 then
        [(0xe0 + c.toNat / 4096).toUInt8, (0x80 + c.toNat / 64 % 64).toUInt8,
          (0x80 + c.toNat % 64).toUInt8]
      else
        [(0xf0 + c.toNat / 262144).toUInt8, (0x80 + c.toNat / 4096 % 64).toUInt8,
          (0x80 + c.toNat / 64 % 64).toUInt8, (0x80 + c.toNat % 64).toUInt8] := by
  simp [encodeChar, Nat.shiftRight_eq_div_pow]

-- ---------------------------------------------------------------------------
-- Continuations
-- ---------------------------------------------------------------------------

theorem continuation_zero (code least greatest good : Nat) (rest : List UInt8) :
    continuation code 0 least greatest good rest = .ok (code, rest) := by
  rw [continuation]

/-- A continuation that is read takes the next byte, which lies between its bounds. -/
theorem continuation_succ_eq_ok {code owed least greatest good : Nat} {bytes : List UInt8}
    {found : Nat × List UInt8} :
    continuation code (owed + 1) least greatest good bytes = .ok found ↔
      ∃ b rest, bytes = b :: rest ∧ least ≤ b.toNat ∧ b.toNat ≤ greatest ∧
        continuation (code * 64 + b.toNat % 64) owed 0x80 0xbf (good + 1) rest = .ok found := by
  cases bytes with
  | nil =>
    rw [continuation]
    simp
  | cons b rest =>
    rw [continuation]
    by_cases h : least ≤ b.toNat ∧ b.toNat ≤ greatest
    · rw [if_pos h]
      constructor
      · intro hFound
        exact ⟨b, rest, rfl, h.1, h.2, hFound⟩
      · rintro ⟨b', rest', hBytes, -, -, hFound⟩
        cases hBytes
        exact hFound
    · rw [if_neg h]
      constructor
      · intro hFound
        cases hFound
      · rintro ⟨b', rest', hBytes, hLeast, hGreatest, -⟩
        cases hBytes
        exact absurd ⟨hLeast, hGreatest⟩ h

-- ---------------------------------------------------------------------------
-- What is written is read
-- ---------------------------------------------------------------------------

theorem lead?_two {n : Nat} (hLow : 0x80 ≤ n) (hHigh : n < 0x800) :
    lead? (0xc0 + n / 64) = some ⟨n / 64, 1, 0x80, 0xbf⟩ := by
  unfold lead?
  rw [if_pos (by omega)]
  simp

theorem lead?_three {n : Nat} (hLow : 0x800 ≤ n) (hHigh : n < 0x10000) (hValid : n.isValidChar) :
    ∃ lead, lead? (0xe0 + n / 4096) = some lead ∧ lead.bits = n / 4096 ∧ lead.owed = 2 ∧
      lead.least ≤ 0x80 + n / 64 % 64 ∧ 0x80 + n / 64 % 64 ≤ lead.greatest := by
  -- numbers that would be a shorter form or a surrogate are ruled out by `hLow` and `hValid`
  unfold Nat.isValidChar at hValid
  unfold lead?
  split_ifs
  all_goals first
    | omega
    | exact ⟨_, rfl, by dsimp only; omega, rfl, by dsimp only; omega, by dsimp only; omega⟩

theorem lead?_four {n : Nat} (hLow : 0x10000 ≤ n) (hValid : n.isValidChar) :
    ∃ lead, lead? (0xf0 + n / 262144) = some lead ∧ lead.bits = n / 262144 ∧ lead.owed = 3 ∧
      lead.least ≤ 0x80 + n / 4096 % 64 ∧ 0x80 + n / 4096 % 64 ≤ lead.greatest := by
  unfold Nat.isValidChar at hValid
  unfold lead?
  split_ifs
  all_goals first
    | omega
    | exact ⟨_, rfl, by dsimp only; omega, rfl, by dsimp only; omega, by dsimp only; omega⟩

theorem continuation_cons {code owed least greatest good n : Nat} (hLeast : least ≤ n)
    (hGreatest : n ≤ greatest) (hByte : n < 0x100) (rest : List UInt8) :
    continuation code (owed + 1) least greatest good (n.toUInt8 :: rest) =
      continuation (code * 64 + n % 64) owed 0x80 0xbf (good + 1) rest := by
  rw [continuation, toNat_toUInt8 hByte, if_pos ⟨hLeast, hGreatest⟩]

theorem decodeFrom_ascii {n : Nat} (h : n < 0x80) (fuel offset : Nat) (rest : List UInt8) :
    decodeFrom (fuel + 1) offset (n.toUInt8 :: rest) =
      (Char.ofNat n :: ·) <$> decodeFrom fuel (offset + 1) rest := by
  rw [decodeFrom, toNat_toUInt8 (by omega), if_pos h]
  exact bind_pure_comp _ _

theorem decodeFrom_lead {n code : Nat} {lead : Lead} {rest rest' : List UInt8}
    (hHigh : 0x80 ≤ n) (hByte : n < 0x100) (hLead : lead? n = some lead)
    (hRest : continuation lead.bits lead.owed lead.least lead.greatest 0 rest = .ok (code, rest'))
    (fuel offset : Nat) :
    decodeFrom (fuel + 1) offset (n.toUInt8 :: rest) =
      (Char.ofNat code :: ·) <$> decodeFrom fuel (offset + 1 + lead.owed) rest' := by
  rw [decodeFrom, toNat_toUInt8 hByte, if_neg (by omega), hLead]
  dsimp only
  rw [hRest]
  exact bind_pure_comp _ _

/-- A character that is written is read, and then what follows it. -/
theorem decodeFrom_encodeChar (c : Char) (fuel offset : Nat) (rest : List UInt8) :
    ∃ offset', decodeFrom (fuel + 1) offset (encodeChar c ++ rest) =
      (c :: ·) <$> decodeFrom fuel offset' rest := by
  have hValid : c.toNat.isValidChar := c.valid
  have hChar : Char.ofNat c.toNat = c := Char.ofNat_toNat c
  rw [encodeChar_eq]
  split_ifs with hOne hTwo hThree
  · refine ⟨offset + 1, ?_⟩
    rw [List.singleton_append, decodeFrom_ascii hOne, hChar]
  · have hRest : continuation (c.toNat / 64) 1 0x80 0xbf 0
        ((0x80 + c.toNat % 64).toUInt8 :: rest) = .ok (c.toNat, rest) := by
      rw [continuation_cons (by omega) (by omega) (by omega), continuation_zero]
      congr 2
      omega
    have hLead := lead?_two (Nat.le_of_not_lt hOne) hTwo
    refine ⟨offset + 1 + 1, ?_⟩
    rw [List.cons_append, List.singleton_append,
      decodeFrom_lead (by omega) (by omega) hLead hRest, hChar]
  · obtain ⟨lead, hLead, hBits, hOwed, hLeast, hGreatest⟩ :=
      lead?_three (Nat.le_of_not_lt hTwo) hThree hValid
    have hRest : continuation lead.bits lead.owed lead.least lead.greatest 0
        ((0x80 + c.toNat / 64 % 64).toUInt8 :: (0x80 + c.toNat % 64).toUInt8 :: rest) =
          .ok (c.toNat, rest) := by
      rw [hBits, hOwed, continuation_cons hLeast hGreatest (by omega),
        continuation_cons (by omega) (by omega) (by omega), continuation_zero]
      congr 2
      omega
    refine ⟨offset + 1 + lead.owed, ?_⟩
    rw [List.cons_append, List.cons_append, List.singleton_append,
      decodeFrom_lead (by omega) (by omega) hLead hRest, hChar]
  · obtain ⟨lead, hLead, hBits, hOwed, hLeast, hGreatest⟩ :=
      lead?_four (Nat.le_of_not_lt hThree) hValid
    have hRest : continuation lead.bits lead.owed lead.least lead.greatest 0
        ((0x80 + c.toNat / 4096 % 64).toUInt8 :: (0x80 + c.toNat / 64 % 64).toUInt8 ::
          (0x80 + c.toNat % 64).toUInt8 :: rest) = .ok (c.toNat, rest) := by
      rw [hBits, hOwed, continuation_cons hLeast hGreatest (by omega),
        continuation_cons (by omega) (by omega) (by omega),
        continuation_cons (by omega) (by omega) (by omega), continuation_zero]
      congr 2
      omega
    refine ⟨offset + 1 + lead.owed, ?_⟩
    have hByte : 0xf0 + c.toNat / 262144 < 0x100 := by
      unfold Nat.isValidChar at hValid
      omega
    rw [List.cons_append, List.cons_append, List.cons_append, List.singleton_append,
      decodeFrom_lead (by omega) hByte hLead hRest, hChar]

theorem encodeChar_ne_nil (c : Char) : encodeChar c ≠ [] := by
  rw [encodeChar_eq]
  split_ifs
  all_goals exact List.cons_ne_nil _ _

theorem decodeFrom_encode {fuel : Nat} {chars : List Char} (h : (encode chars).length ≤ fuel)
    (offset : Nat) : decodeFrom fuel offset (encode chars) = .ok chars := by
  induction chars generalizing fuel offset with
  | nil => cases fuel <;> rfl
  | cons c cs ih =>
    have hLength := List.length_pos_of_ne_nil (encodeChar_ne_nil c)
    rw [encode, List.flatMap_cons, List.length_append] at h
    rw [encode, List.flatMap_cons]
    cases fuel with
    | zero => omega
    | succ fuel =>
      obtain ⟨offset', hFirst⟩ := decodeFrom_encodeChar c fuel offset (encode cs)
      rw [encode] at hFirst ih
      rw [hFirst, ih (by omega)]
      rfl

/-- **What is written is read.** -/
theorem decode_encode (chars : List Char) : decode (encode chars) = .ok chars :=
  decodeFrom_encode (Nat.le_refl _) 0

-- ---------------------------------------------------------------------------
-- What is read was written
-- ---------------------------------------------------------------------------

theorem toUInt8_eq {n : Nat} {b : UInt8} (h : n = b.toNat) : n.toUInt8 = b := by
  rw [h]
  apply UInt8.toNat_inj.mp
  exact toNat_toUInt8 b.toNat_lt

/-- What a first byte may say. The bounds on the next byte keep out what a shorter form, a surrogate
or too large a number would be. -/
theorem lead?_eq_some {n : Nat} {lead : Lead} (h : lead? n = some lead) :
    (lead.owed = 1 ∧ n = 0xc0 + lead.bits ∧ 2 ≤ lead.bits ∧ lead.bits < 32 ∧
        0x80 ≤ lead.least ∧ lead.greatest ≤ 0xbf) ∨
      (lead.owed = 2 ∧ n = 0xe0 + lead.bits ∧ lead.bits < 16 ∧
        0x80 ≤ lead.least ∧ lead.greatest ≤ 0xbf ∧
        (lead.bits = 0 → 0xa0 ≤ lead.least) ∧ (lead.bits = 0xd → lead.greatest ≤ 0x9f)) ∨
      (lead.owed = 3 ∧ n = 0xf0 + lead.bits ∧ lead.bits ≤ 4 ∧
        0x80 ≤ lead.least ∧ lead.greatest ≤ 0xbf ∧
        (lead.bits = 0 → 0x90 ≤ lead.least) ∧ (lead.bits = 4 → lead.greatest ≤ 0x8f)) := by
  unfold lead? at h
  split_ifs at h
  all_goals
    obtain rfl := Option.some.inj h
    dsimp only
    omega

/-- The character that some bytes spell is written as those bytes. -/
theorem encodeChar_of_continuation {b : UInt8} {lead : Lead} {code : Nat} {bytes rest : List UInt8}
    (hLead : lead? b.toNat = some lead)
    (h : continuation lead.bits lead.owed lead.least lead.greatest 0 bytes = .ok (code, rest)) :
    encodeChar (Char.ofNat code) ++ rest = b :: bytes := by
  -- one case for each number of bytes; the bounds keep the code in the range that this many write
  rcases lead?_eq_some hLead with ⟨hOwed, hFirst, hTwo, hBits, hLeast, hGreatest⟩ |
    ⟨hOwed, hFirst, hBits, hLeast, hGreatest, hShort, hSurrogate⟩ |
    ⟨hOwed, hFirst, hBits, hLeast, hGreatest, hShort, hLarge⟩
  · rw [hOwed] at h
    obtain ⟨b₁, rest₁, rfl, hLeast₁, hGreatest₁, h⟩ := continuation_succ_eq_ok.mp h
    rw [continuation_zero] at h
    cases h
    have hValid : (lead.bits * 64 + b₁.toNat % 64).isValidChar := .inl (by omega)
    rw [encodeChar_eq, toNat_ofNat hValid, if_neg (by omega), if_pos (by omega),
      toUInt8_eq (b := b) (by omega), toUInt8_eq (b := b₁) (by omega)]
    rfl
  · rw [hOwed] at h
    obtain ⟨b₁, rest₁, rfl, hLeast₁, hGreatest₁, h⟩ := continuation_succ_eq_ok.mp h
    obtain ⟨b₂, rest₂, rfl, hLeast₂, hGreatest₂, h⟩ := continuation_succ_eq_ok.mp h
    rw [continuation_zero] at h
    cases h
    have hValid : ((lead.bits * 64 + b₁.toNat % 64) * 64 + b₂.toNat % 64).isValidChar := by
      unfold Nat.isValidChar
      omega
    rw [encodeChar_eq, toNat_ofNat hValid, if_neg (by omega), if_neg (by omega),
      if_pos (by omega), toUInt8_eq (b := b) (by omega), toUInt8_eq (b := b₁) (by omega),
      toUInt8_eq (b := b₂) (by omega)]
    rfl
  · rw [hOwed] at h
    obtain ⟨b₁, rest₁, rfl, hLeast₁, hGreatest₁, h⟩ := continuation_succ_eq_ok.mp h
    obtain ⟨b₂, rest₂, rfl, hLeast₂, hGreatest₂, h⟩ := continuation_succ_eq_ok.mp h
    obtain ⟨b₃, rest₃, rfl, hLeast₃, hGreatest₃, h⟩ := continuation_succ_eq_ok.mp h
    rw [continuation_zero] at h
    cases h
    have hValid : (((lead.bits * 64 + b₁.toNat % 64) * 64 + b₂.toNat % 64) * 64 +
        b₃.toNat % 64).isValidChar := .inr (by omega)
    rw [encodeChar_eq, toNat_ofNat hValid, if_neg (by omega), if_neg (by omega),
      if_neg (by omega), toUInt8_eq (b := b) (by omega), toUInt8_eq (b := b₁) (by omega),
      toUInt8_eq (b := b₂) (by omega), toUInt8_eq (b := b₃) (by omega)]
    rfl

theorem length_of_continuation {code owed least greatest good : Nat} {bytes rest : List UInt8}
    {code' : Nat} (h : continuation code owed least greatest good bytes = .ok (code', rest)) :
    rest.length ≤ bytes.length := by
  induction owed generalizing code least greatest good bytes with
  | zero =>
    rw [continuation_zero] at h
    cases h
    exact Nat.le_refl _
  | succ owed ih =>
    obtain ⟨b, rest', rfl, -, -, h⟩ := continuation_succ_eq_ok.mp h
    exact Nat.le_succ_of_le (ih h)

theorem encode_of_decodeFrom {fuel offset : Nat} {bytes : List UInt8} {chars : List Char}
    (hFuel : bytes.length ≤ fuel) (h : decodeFrom fuel offset bytes = .ok chars) :
    encode chars = bytes := by
  induction fuel generalizing offset bytes chars with
  | zero =>
    obtain rfl := List.length_eq_zero_iff.mp (Nat.le_zero.mp hFuel)
    cases h
    rfl
  | succ fuel ih =>
    cases bytes with
    | nil =>
      cases h
      rfl
    | cons b bytes =>
      rw [List.length_cons] at hFuel
      rw [decodeFrom] at h
      split at h
      · next hOne =>
        obtain ⟨cs, hRest, hChars⟩ := bind_eq_ok.mp h
        cases hChars
        have hValid : b.toNat.isValidChar := .inl (by omega)
        rw [encode, List.flatMap_cons, encodeChar_eq, toNat_ofNat hValid, if_pos hOne,
          toUInt8_eq rfl, ← encode, ih (by omega) hRest]
        rfl
      · split at h
        · cases h
        · next lead hLead =>
          split at h
          · cases h
          · next code rest hContinued =>
            obtain ⟨cs, hRest, hChars⟩ := bind_eq_ok.mp h
            cases hChars
            have hLength := length_of_continuation hContinued
            rw [encode, List.flatMap_cons, ← encode, ih (by omega) hRest]
            exact encodeChar_of_continuation hLead hContinued

/-- **Bytes are read exactly if they are written**, and as the text that they were written for. -/
theorem decode_eq_ok_iff {bytes : List UInt8} {chars : List Char} :
    decode bytes = .ok chars ↔ bytes = encode chars := by
  constructor
  · intro h
    exact (encode_of_decodeFrom (Nat.le_refl _) h).symm
  · rintro rfl
    exact decode_encode chars

/-- Texts of the same bytes are the same. -/
theorem encode_inj {chars chars' : List Char} : encode chars = encode chars' ↔ chars = chars' := by
  constructor
  · intro h
    have hRead := decode_encode chars
    rw [h, decode_encode] at hRead
    cases hRead
    rfl
  · rintro rfl
    rfl

end ApiLint.Text.Utf8
