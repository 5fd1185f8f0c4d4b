import ApiLint.Json.Reader
import ApiLint.Json.Writer
import ApiLint.Proofs.Entries
import ApiLint.Proofs.Outcome
import Mathlib.Data.List.TakeWhile

/-!
# Reading back what is written

A JSON document of strings, arrays and objects is read back as the value it stands for, whatever its
strings consist of: quotes, backslashes and control characters are escaped, and all other characters
stand for themselves.

Two things carry the argument. A character is written in one of three ways (`escapeChar_cases`), and
the reader takes each of them back in one step. And the reader descends one level for an array or
object and one more for its items or members, while the writer spends more than two characters on
each, so the number of characters is always enough levels; `ReadsBack` is the invariant of the
induction on these levels.

* `Json.string_stringChars` — a string is read back;
* `Json.readsBack` — so are values, items and members, with whatever follows them;
* `Json.read_render` — so is a whole document, also with blanks after it;
* `Json.isText_of_mem_names_render` — and no name in it is half of a surrogate pair.
-/

namespace ApiLint

open Outcome

namespace Json

open Text (CodePoint)

-- ---------------------------------------------------------------------------
-- Characters
-- ---------------------------------------------------------------------------

theorem hexValue?_hexDigit {n : Nat} (h : n < 16) : hexValue? (Text.hexDigit n) = some n := by
  have hAll : ∀ n < 16, hexValue? (Text.hexDigit n) = some n := by decide
  exact hAll n h

theorem hexCode?_hex {n : Nat} (h : n < 0x10000) (rest : List Char) :
    hexCode? (Text.hex 4 n ++ rest) = some n := by
  have hDigit : ∀ m, hexValue? (Text.hexDigit (m % 16)) = some (m % 16) := fun m =>
    hexValue?_hexDigit (Nat.mod_lt m (by omega))
  show (do
    let a ← hexValue? (Text.hexDigit (n / 16 / 16 / 16 % 16))
    let b ← hexValue? (Text.hexDigit (n / 16 / 16 % 16))
    let c ← hexValue? (Text.hexDigit (n / 16 % 16))
    let d ← hexValue? (Text.hexDigit (n % 16))
    return ((a * 16 + b) * 16 + c) * 16 + d) = some n
  rw [hDigit, hDigit, hDigit, hDigit]
  show some _ = some n
  congr 1
  omega

/-- A control character is read back from its code point; something has to follow it, if only the
closing quote. -/
theorem unicodeEscape_hex {c : Char} (hControl : c.toNat < 0x20) {rest : List Char}
    (hRest : rest ≠ []) :
    unicodeEscape ('u' :: Text.hex 4 c.toNat ++ rest) = .ok (.char c, rest) := by
  have hCode : hexCode? (Text.hex 4 c.toNat ++ rest) = some c.toNat :=
    hexCode?_hex (by omega) rest
  have hLength : ¬ (Text.hex 4 c.toNat ++ rest).length < 5 := by
    have : (Text.hex 4 c.toNat).length = 4 := rfl
    have := List.length_pos_iff.mpr hRest
    rw [List.length_append]
    omega
  have hHigh : isHighSurrogate c.toNat = false := by
    simp [isHighSurrogate]
    omega
  have hPoint : CodePoint.ofNat c.toNat = .char c := by
    rw [CodePoint.ofNat, dif_neg (by omega), Char.ofNat_toNat]
  unfold unicodeEscape
  simp only [List.cons_append, List.drop_succ_cons, List.drop_zero, if_neg hLength, hCode, hHigh,
    hPoint]
  rfl

/-- A character is written by a letter that stands for it, by its code point or as itself. -/
theorem escapeChar_cases (c : Char) :
    (∃ e, shortEscape? e = some c ∧ escapeChar c = ['\\', e]) ∨
      (c.toNat < 0x20 ∧ escapeChar c = '\\' :: 'u' :: Text.hex 4 c.toNat) ∨
      (c ≠ '"' ∧ c ≠ '\\' ∧ ¬ c.toNat < 0x20 ∧ escapeChar c = [c]) := by
  by_cases hShort : c ∈ ['"', '\\', '\n', '\r', '\t', '\x08', '\x0c']
  · left
    have hAll : ∀ c ∈ ['"', '\\', '\n', '\r', '\t', '\x08', '\x0c'],
        ∃ e, shortEscape? e = some c ∧ escapeChar c = ['\\', e] := by
      simp only [List.forall_mem_cons]
      exact ⟨⟨'"', rfl, rfl⟩, ⟨'\\', rfl, rfl⟩, ⟨'n', rfl, rfl⟩, ⟨'r', rfl, rfl⟩, ⟨'t', rfl, rfl⟩,
        ⟨'b', rfl, rfl⟩, ⟨'f', rfl, rfl⟩, fun _ h => absurd h List.not_mem_nil⟩
    exact hAll c hShort
  · right
    simp only [List.mem_cons, List.not_mem_nil, or_false, not_or] at hShort
    obtain ⟨hQuote, hBackslash, hOthers⟩ := hShort
    have hEscape : escapeChar c =
        if c.toNat < 0x20 then '\\' :: 'u' :: Text.hex 4 c.toNat else [c] := by
      simp [escapeChar, hQuote, hBackslash, hOthers]
    by_cases hControl : c.toNat < 0x20
    · exact .inl ⟨hControl, by rw [hEscape, if_pos hControl]⟩
    · exact .inr ⟨hQuote, hBackslash, hControl, by rw [hEscape, if_neg hControl]⟩

theorem escapeChar_ne_nil (c : Char) : escapeChar c ≠ [] := by
  rcases escapeChar_cases c with ⟨e, -, h⟩ | ⟨-, h⟩ | ⟨-, -, -, h⟩ <;> simp [h]

-- ---------------------------------------------------------------------------
-- Strings
-- ---------------------------------------------------------------------------

/-- A character of a string is read back in one step. -/
theorem stringTail_escapeChar (opening : List Char) (fuel : Nat) (c : Char) {rest : List Char}
    (hRest : rest ≠ []) :
    stringTail opening (fuel + 1) (escapeChar c ++ rest) = (do
      let (ps, rest) ← stringTail opening fuel rest
      return (.char c :: ps, rest)) := by
  rcases escapeChar_cases c with ⟨e, hLetter, h⟩ | ⟨hControl, h⟩ | ⟨hQuote, hBackslash, hControl, h⟩
  · have hNot : e ≠ 'u' := by
      rintro rfl
      cases hLetter
    rw [h]
    show stringTail opening (fuel + 1) ('\\' :: e :: rest) = _
    rw [stringTail]
    · simp only [hLetter]
    · exact hNot
  · have hCode := unicodeEscape_hex hControl hRest
    rw [List.cons_append] at hCode
    rw [h, List.cons_append, List.cons_append, stringTail, hCode]
    rfl
  · rw [h]
    show stringTail opening (fuel + 1) (c :: rest) = _
    rw [stringTail, if_neg hControl]
    · exact hQuote
    · exact fun hc _ => hBackslash hc
    · exact fun _ hc _ => hBackslash hc
    · exact fun _ _ hc _ => hBackslash hc

theorem stringTail_flatMap (opening rest : List Char) {cs : List Char} {fuel : Nat}
    (hFuel : cs.length < fuel) :
    stringTail opening fuel (cs.flatMap escapeChar ++ '"' :: rest) = .ok (cs.map .char, rest) := by
  induction cs generalizing fuel with
  | nil =>
    obtain ⟨fuel, rfl⟩ := Nat.exists_eq_succ_of_ne_zero (Nat.ne_of_gt hFuel)
    rfl
  | cons c cs ih =>
    rw [List.length_cons] at hFuel
    obtain ⟨fuel, rfl⟩ := Nat.exists_eq_succ_of_ne_zero (Nat.ne_of_gt (Nat.zero_lt_of_lt hFuel))
    have hRest : cs.flatMap escapeChar ++ '"' :: rest ≠ [] := by simp
    rw [List.flatMap_cons, List.append_assoc, stringTail_escapeChar opening fuel c hRest,
      ih (by omega)]
    rfl

theorem length_le_flatMap (cs : List Char) : cs.length ≤ (cs.flatMap escapeChar).length := by
  induction cs with
  | nil => simp
  | cons c cs ih =>
    have := List.length_pos_iff.mpr (escapeChar_ne_nil c)
    rw [List.flatMap_cons, List.length_append, List.length_cons]
    omega

/-- **A string is read back**, from the character after its opening quote on. -/
theorem string_stringChars (s : String) (rest : List Char) :
    string (s.toList.flatMap escapeChar ++ '"' :: rest) = .ok (s.toList.map .char, rest) := by
  have hLength : s.toList.length < (s.toList.flatMap escapeChar ++ '"' :: rest).length := by
    have := length_le_flatMap s.toList
    rw [List.length_append, List.length_cons]
    omega
  rw [string, stringTail_flatMap _ _ hLength]

-- ---------------------------------------------------------------------------
-- Documents and their values
-- ---------------------------------------------------------------------------

namespace Tree

/-- Documents of strings, arrays and objects alone. -/
inductive Textual : Tree → Prop
  | str (s : String) : Textual (.str s)
  | arr {items : List Tree} (h : ∀ t ∈ items, Textual t) : Textual (.arr items)
  | obj {members : List (String × Tree)} (h : ∀ m ∈ members, Textual m.2) : Textual (.obj members)

mutual

/-- The value that such a document stands for; a name that occurs again in an object keeps its first
place and its last value. -/
def toValue : Tree → Value
  | .raw _ => .null
  | .str s => .str s
  | .arr items => .list (toValues items)
  | .obj members => .map (Entries.ofPairs (toPairs members))

def toValues : List Tree → List Value
  | [] => []
  | t :: ts => t.toValue :: toValues ts

def toPairs : List (String × Tree) → List (Key × Value)
  | [] => []
  | (name, t) :: ts => (.str name, t.toValue) :: toPairs ts

end

/-- The members of an object as a reader finds them. -/
def toMembers (ts : List (String × Tree)) : List (List CodePoint × Value) :=
  ts.map fun (name, t) => (name.toList.map .char, t.toValue)

theorem object_toMembers (ts : List (String × Tree)) :
    object (toMembers ts) = .ofPairs (toPairs ts) := by
  have hPairs : (toMembers ts).map (fun m => (Key.str (CodePoint.text m.1), m.2)) =
      toPairs ts := by
    induction ts with
    | nil => rfl
    | cons m ts ih =>
      simp only [toMembers, List.map_cons, toPairs] at ih ⊢
      simp only [ih, CodePoint.text_map_char, String.ofList_toList]
  exact congrArg Entries.ofPairs hPairs

/-- A document begins with the sign of its kind. -/
theorem chars_eq_cons {t : Tree} (h : t.Textual) (depth : Nat) :
    ∃ c cs, t.chars depth = c :: cs ∧ c ∈ ['"', '[', '\x7b'] := by
  cases h with
  | str s => exact ⟨'"', _, rfl, by simp⟩
  | @arr items _ =>
    cases items with
    | nil => exact ⟨'[', _, rfl, by simp⟩
    | cons t ts => exact ⟨'[', _, rfl, by simp⟩
  | @obj members _ =>
    cases members with
    | nil => exact ⟨'\x7b', _, rfl, by simp⟩
    | cons m ms => exact ⟨'\x7b', _, rfl, by simp⟩

theorem getLast?_chars_obj (members : List (String × Tree)) (depth : Nat) :
    ((Tree.obj members).chars depth).getLast? = some '\x7d' := by
  cases members with
  | nil => rfl
  | cons m ms => rw [chars, ← List.cons_append, List.getLast?_concat]

section Shapes

variable {α : Type} {f : α → Tree}

theorem textual_arr_map (h : ∀ x, (f x).Textual) (xs : List α) :
    (Tree.arr (xs.map f)).Textual := by
  apply Textual.arr
  intro t ht
  obtain ⟨x, -, rfl⟩ := List.mem_map.mp ht
  exact h x

theorem toValue_arr_map {value : α → Value} (h : ∀ x, (f x).toValue = value x) (xs : List α) :
    (Tree.arr (xs.map f)).toValue = .list (xs.map value) := by
  have hItems : toValues (xs.map f) = xs.map value := by
    induction xs with
    | nil => rfl
    | cons x xs ih => rw [List.map_cons, List.map_cons, toValues, h, ih]
  rw [toValue, hItems]

theorem textual_obj_pair {a b : String} {t u : Tree} (ht : t.Textual) (hu : u.Textual) :
    (Tree.obj [(a, t), (b, u)]).Textual := by
  apply Textual.obj
  simp [ht, hu]

/-- Two members of different names make an object of two fields. -/
theorem toValue_obj_pair {a b : String} (h : a ≠ b) (t u : Tree) :
    (Tree.obj [(a, t), (b, u)]).toValue = .map [(.str a, t.toValue), (.str b, u.toValue)] := by
  have hInsert : Entries.insert [(.str a, t.toValue)] (.str b) u.toValue =
      [(.str a, t.toValue)] ++ [(.str b, u.toValue)] := by
    apply Entries.insert_of_field?_eq_none
    rw [Entries.field?_cons_str, if_neg h]
    rfl
  show Value.map (Entries.insert [(.str a, t.toValue)] (.str b) u.toValue) = _
  rw [hInsert]
  rfl

end Shapes

end Tree

open Json.Tree (Textual toValues toMembers moreItems moreMembers)

theorem skipSpace_of_not_space {c : Char} (h : isSpace c = false) (s : List Char) :
    skipSpace (c :: s) = c :: s := by
  rw [skipSpace, List.dropWhile_cons_of_neg (by simp [h])]

theorem skipSpace_newline (depth : Nat) (s : List Char) :
    skipSpace (newline depth ++ s) = skipSpace s := by
  have hAll : ∀ c ∈ newline depth, isSpace c = true := by
    intro c hc
    rcases List.mem_cons.mp hc with rfl | hc
    · rfl
    · rw [List.eq_of_mem_replicate hc]
      rfl
  rw [skipSpace, List.dropWhile_append_of_pos hAll]
  rfl

theorem skipSpace_chars {t : Tree} (h : t.Textual) (depth : Nat) (s : List Char) :
    skipSpace (t.chars depth ++ s) = t.chars depth ++ s := by
  obtain ⟨c, cs, hChars, hc⟩ := t.chars_eq_cons h depth
  have hSpace : ∀ c ∈ ['"', '[', '\x7b'], isSpace c = false := by simp [isSpace]
  rw [hChars, List.cons_append, skipSpace_of_not_space (hSpace c hc)]

-- ---------------------------------------------------------------------------
-- Steps of the reader
-- ---------------------------------------------------------------------------

section Steps

variable {fuel : Nat} {s rest text after tail : List Char} {name : List CodePoint} {v : Value}

theorem items_last (hValue : value fuel s = .ok (v, rest)) (hClose : skipSpace rest = ']' :: tail) :
    items (fuel + 1) s = .ok ([v], tail) := by
  simp only [items, bind, Except.bind, hValue, hClose]
  rfl

theorem items_more {vs : List Value} (hValue : value fuel s = .ok (v, rest))
    (hComma : skipSpace rest = ',' :: text) (hItems : items fuel (skipSpace text) = .ok (vs, tail)) :
    items (fuel + 1) s = .ok (v :: vs, tail) := by
  simp only [items, bind, Except.bind, hValue, hComma, hItems]
  rfl

theorem members_last (hName : string s = .ok (name, rest)) (hColon : skipSpace rest = ':' :: text)
    (hValue : value fuel (skipSpace text) = .ok (v, after))
    (hClose : skipSpace after = '\x7d' :: tail) :
    members (fuel + 1) ('"' :: s) = .ok ([(name, v)], tail) := by
  simp only [members, bind, Except.bind, hName, hColon, hValue, hClose]
  rfl

theorem members_more {more : List Char} {ms : List (List CodePoint × Value)}
    (hName : string s = .ok (name, rest)) (hColon : skipSpace rest = ':' :: text)
    (hValue : value fuel (skipSpace text) = .ok (v, after))
    (hComma : skipSpace after = ',' :: more)
    (hMembers : members fuel (skipSpace more) = .ok (ms, tail)) :
    members (fuel + 1) ('"' :: s) = .ok ((name, v) :: ms, tail) := by
  simp only [members, bind, Except.bind, hName, hColon, hValue, hComma, hMembers]
  rfl

end Steps

-- ---------------------------------------------------------------------------
-- Values
-- ---------------------------------------------------------------------------

/-- Readers that read back what is written, given at least as many levels as characters. After the
items of an array or the members of an object the closing bracket stands on a line of its own. -/
structure ReadsBack (fuel : Nat) : Prop where
  value : ∀ {t : Tree} (depth : Nat) (rest : List Char), t.Textual →
    (t.chars depth).length ≤ fuel → value fuel (t.chars depth ++ rest) = .ok (t.toValue, rest)
  items : ∀ {t : Tree} {ts : List Tree} (depth outer : Nat) (rest : List Char),
    (∀ t' ∈ t :: ts, t'.Textual) → (t.chars depth).length + (moreItems depth ts).length < fuel →
    items fuel (t.chars depth ++ (moreItems depth ts ++ (newline outer ++ ']' :: rest))) =
      .ok (toValues (t :: ts), rest)
  members : ∀ {name : String} {t : Tree} {ts : List (String × Tree)} (depth outer : Nat)
    (rest : List Char), (∀ m ∈ (name, t) :: ts, m.2.Textual) →
    (t.chars depth).length + (moreMembers depth ts).length < fuel →
    members fuel (stringChars name ++ (':' :: ' ' :: (t.chars depth ++
      (moreMembers depth ts ++ (newline outer ++ '\x7d' :: rest))))) =
        .ok (toMembers ((name, t) :: ts), rest)

variable {fuel : Nat} {t : Tree} {depth : Nat}

theorem value_array (ih : ReadsBack fuel) {ts : List Tree} (rest : List Char)
    (h : ∀ t' ∈ t :: ts, t'.Textual)
    (hFuel : ((Tree.arr (t :: ts)).chars depth).length ≤ fuel + 1) :
    value (fuel + 1) ((Tree.arr (t :: ts)).chars depth ++ rest) =
      .ok ((Tree.arr (t :: ts)).toValue, rest) := by
  have hLength : (t.chars (depth + 1)).length + (moreItems (depth + 1) ts).length < fuel := by
    simp only [Tree.chars, newline, List.length_cons, List.length_append] at hFuel
    omega
  have hText : (Tree.arr (t :: ts)).chars depth ++ rest =
      '[' :: (newline (depth + 1) ++ (t.chars (depth + 1) ++ (moreItems (depth + 1) ts ++
        (newline depth ++ ']' :: rest)))) := by
    simp [Tree.chars]
  have ht := h t List.mem_cons_self
  rw [hText, value, skipSpace_newline, skipSpace_chars ht]
  -- the array is not taken for empty, since its first item does not begin with a closing bracket
  split
  · next hClose =>
    obtain ⟨c, cs, hChars, hc⟩ := t.chars_eq_cons ht (depth + 1)
    rw [hChars] at hClose
    cases hClose
    simp at hc
  · rw [ih.items _ _ _ h hLength]
    rfl

/-- After its opening brace an object has its members. -/
theorem members_object (ih : ReadsBack fuel) {name : String} {ts : List (String × Tree)}
    (rest : List Char) (h : ∀ m ∈ (name, t) :: ts, m.2.Textual)
    (hFuel : ((Tree.obj ((name, t) :: ts)).chars depth).length ≤ fuel + 1) :
    ∃ text, (Tree.obj ((name, t) :: ts)).chars depth ++ rest = '\x7b' :: text ∧
      (∃ cs, skipSpace text = '"' :: cs) ∧
      members fuel (skipSpace text) = .ok (toMembers ((name, t) :: ts), rest) := by
  have hLength : (t.chars (depth + 1)).length + (moreMembers (depth + 1) ts).length < fuel := by
    simp only [Tree.chars, newline, List.length_cons, List.length_append] at hFuel
    omega
  have hText : (Tree.obj ((name, t) :: ts)).chars depth ++ rest =
      '\x7b' :: (newline (depth + 1) ++ (stringChars name ++ (':' :: ' ' ::
        (t.chars (depth + 1) ++ (moreMembers (depth + 1) ts ++
          (newline depth ++ '\x7d' :: rest)))))) := by
    simp [Tree.chars]
  have hName : ∀ s, skipSpace (stringChars name ++ s) = stringChars name ++ s :=
    skipSpace_chars (.str name) depth
  refine ⟨_, hText, ?_, ?_⟩
  · rw [skipSpace_newline, hName]
    exact ⟨_, rfl⟩
  · rw [skipSpace_newline, hName]
    exact ih.members _ _ _ h hLength

theorem value_object (ih : ReadsBack fuel) {name : String} {ts : List (String × Tree)}
    (rest : List Char) (h : ∀ m ∈ (name, t) :: ts, m.2.Textual)
    (hFuel : ((Tree.obj ((name, t) :: ts)).chars depth).length ≤ fuel + 1) :
    value (fuel + 1) ((Tree.obj ((name, t) :: ts)).chars depth ++ rest) =
      .ok ((Tree.obj ((name, t) :: ts)).toValue, rest) := by
  obtain ⟨text, hText, ⟨cs, hQuote⟩, hMembers⟩ := members_object ih rest h hFuel
  rw [hText, value]
  split
  · next hClose =>
    rw [hQuote] at hClose
    cases hClose
  · rw [hMembers, Tree.toValue, ← Tree.object_toMembers]
    rfl

theorem value_succ (ih : ReadsBack fuel) (rest : List Char) (h : t.Textual)
    (hFuel : (t.chars depth).length ≤ fuel + 1) :
    value (fuel + 1) (t.chars depth ++ rest) = .ok (t.toValue, rest) := by
  cases h with
  | str s =>
    show value (fuel + 1) ('"' :: (s.toList.flatMap escapeChar ++ ['"'] ++ rest)) = _
    rw [value, List.append_assoc, List.singleton_append, string_stringChars, Tree.toValue]
    show Except.ok (Value.str (CodePoint.text (s.toList.map .char)), rest) = _
    rw [CodePoint.text_map_char, String.ofList_toList]
  | @arr items h =>
    cases items with
    | nil => rfl
    | cons t ts => exact value_array ih rest h hFuel
  | @obj members h =>
    cases members with
    | nil => rfl
    | cons m ts => exact value_object ih rest h hFuel

theorem items_succ (ih : ReadsBack fuel) {ts : List Tree} (outer : Nat) (rest : List Char)
    (h : ∀ t' ∈ t :: ts, t'.Textual)
    (hFuel : (t.chars depth).length + (moreItems depth ts).length < fuel + 1) :
    items (fuel + 1) (t.chars depth ++ (moreItems depth ts ++ (newline outer ++ ']' :: rest))) =
      .ok (toValues (t :: ts), rest) := by
  obtain ⟨ht, hts⟩ := List.forall_mem_cons.mp h
  have hValue := fun rest => ih.value depth rest ht (by omega)
  cases ts with
  | nil => exact items_last (hValue _) (skipSpace_newline outer _)
  | cons t' ts =>
    have hLength : (t'.chars depth).length + (moreItems depth ts).length < fuel := by
      simp only [moreItems, newline, List.length_cons, List.length_append] at hFuel
      omega
    have hText : moreItems depth (t' :: ts) ++ (newline outer ++ ']' :: rest) =
        ',' :: (newline depth ++ (t'.chars depth ++ (moreItems depth ts ++
          (newline outer ++ ']' :: rest)))) := by
      simp [moreItems]
    rw [hText]
    refine items_more (hValue _) (skipSpace_of_not_space rfl _) ?_
    rw [skipSpace_newline, skipSpace_chars (hts t' List.mem_cons_self)]
    exact ih.items depth outer rest hts hLength

theorem members_succ (ih : ReadsBack fuel) {name : String} {ts : List (String × Tree)}
    (outer : Nat) (rest : List Char) (h : ∀ m ∈ (name, t) :: ts, m.2.Textual)
    (hFuel : (t.chars depth).length + (moreMembers depth ts).length < fuel + 1) :
    members (fuel + 1) (stringChars name ++ (':' :: ' ' :: (t.chars depth ++
      (moreMembers depth ts ++ (newline outer ++ '\x7d' :: rest))))) =
        .ok (toMembers ((name, t) :: ts), rest) := by
  obtain ⟨ht, hts⟩ := List.forall_mem_cons.mp h
  have hName : ∀ s, stringChars name ++ s = '"' :: (name.toList.flatMap escapeChar ++ '"' :: s) := by
    intro s
    simp [stringChars]
  have hBlank : ∀ s, skipSpace (' ' :: (t.chars depth ++ s)) = t.chars depth ++ s :=
    skipSpace_chars ht depth
  have hValue : ∀ rest, value fuel (skipSpace (' ' :: (t.chars depth ++ rest))) =
      .ok (t.toValue, rest) := by
    intro rest
    rw [hBlank]
    exact ih.value depth rest ht (by omega)
  rw [hName]
  cases ts with
  | nil =>
    exact members_last (string_stringChars name _) (skipSpace_of_not_space rfl _) (hValue _)
      (skipSpace_newline outer _)
  | cons m ts =>
    obtain ⟨name', t'⟩ := m
    have hLength : (t'.chars depth).length + (moreMembers depth ts).length < fuel := by
      simp only [moreMembers, newline, List.length_cons, List.length_append] at hFuel
      omega
    have hText : moreMembers depth ((name', t') :: ts) ++ (newline outer ++ '\x7d' :: rest) =
        ',' :: (newline depth ++ (stringChars name' ++ (':' :: ' ' :: (t'.chars depth ++
          (moreMembers depth ts ++ (newline outer ++ '\x7d' :: rest)))))) := by
      simp [moreMembers]
    rw [hText]
    refine members_more (string_stringChars name _) (skipSpace_of_not_space rfl _) (hValue _)
      (skipSpace_of_not_space rfl _) ?_
    have hName' : ∀ s, skipSpace (stringChars name' ++ s) = stringChars name' ++ s :=
      skipSpace_chars (.str name') depth
    rw [skipSpace_newline, hName']
    exact ih.members depth outer rest hts hLength

theorem readsBack (fuel : Nat) : ReadsBack fuel := by
  induction fuel with
  | zero =>
    constructor
    · intro t depth rest h hFuel
      obtain ⟨c, cs, hChars, -⟩ := t.chars_eq_cons h depth
      simp [hChars] at hFuel
    · intro t ts depth outer rest h hFuel
      omega
    · intro name t ts depth outer rest h hFuel
      omega
  | succ fuel ih =>
    exact ⟨fun _ rest h hFuel => value_succ ih rest h hFuel,
      fun _ outer rest h hFuel => items_succ ih outer rest h hFuel,
      fun _ outer rest h hFuel => members_succ ih outer rest h hFuel⟩

/-- **A document of strings, arrays and objects is read back** as the value it stands for, with or
without blanks after it. -/
theorem read_render (h : t.Textual) {blanks : String} (hBlanks : ∀ c ∈ blanks.toList, isSpace c) :
    read (t.render ++ blanks) = .ok t.toValue := by
  have hText : (t.render ++ blanks).toList = t.chars 0 ++ blanks.toList := by
    rw [String.toList_append, Tree.render, String.toList_ofList]
  obtain ⟨c, cs, hChars, hc⟩ := t.chars_eq_cons h 0
  have hMark : ¬ (t.chars 0 ++ blanks.toList).head? = some '\ufeff' := by
    rw [hChars, List.cons_append, List.head?_cons, Option.some.injEq]
    rintro rfl
    simp at hc
  have hValue := (readsBack (2 * ((t.chars 0 ++ blanks.toList).length + 1))).value 0 blanks.toList h
    (by rw [List.length_append]; omega)
  have hEnd : skipSpace blanks.toList = [] := List.dropWhile_eq_nil_iff.mpr hBlanks
  simp only [read, readChars, hText, if_neg hMark, skipSpace_chars h, bind, Except.bind, hValue,
    hEnd]
  rfl

/-- The members of an object that is written have texts as names. -/
theorem isText_of_mem_names_render {ms : List (String × Tree)} (h : (Tree.obj ms).Textual)
    (blanks : String) : ∀ name ∈ names ((Tree.obj ms).render ++ blanks), CodePoint.isText name := by
  have hText : ((Tree.obj ms).render ++ blanks).toList =
      (Tree.obj ms).chars 0 ++ blanks.toList := by
    rw [String.toList_append, Tree.render, String.toList_ofList]
  unfold names
  rw [hText, skipSpace_chars h]
  cases ms with
  | nil => exact fun _ h => absurd h List.not_mem_nil
  | cons m ms =>
    have hLength : ((Tree.obj (m :: ms)).chars 0).length ≤
        2 * ((Tree.obj (m :: ms)).render ++ blanks).length + 2 := by
      have := congrArg List.length hText
      rw [String.length_toList, List.length_append] at this
      omega
    have hMembers : ∀ m' ∈ m :: ms, m'.2.Textual := by
      cases h with
      | obj h => exact h
    obtain ⟨text, hObject, -, hRead⟩ := members_object (readsBack _) blanks.toList hMembers hLength
    intro name hName
    simp only [hObject, hRead, List.mem_map] at hName
    obtain ⟨member, hMember, rfl⟩ := hName
    obtain ⟨_, -, rfl⟩ := List.mem_map.mp hMember
    exact CodePoint.isText_map_char _

end Json

end ApiLint
