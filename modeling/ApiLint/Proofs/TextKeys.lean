import ApiLint.Proofs.Simulation
import ApiLint.Proofs.WellFormed

/-!
# Integers as keys

Some formats have integers as keys of mappings and others have texts only. A document is checked
alike when its integer keys are replaced by their texts, as long as no mapping has both already and
no reference spells a number in another way.

* `Value.withTextKeys` — a value with the texts of integers as keys;
* `Entries.field?_withTextKeys_of_number` — what the text of a number finds there is what the text
  or the number found before;
* `Lint.runWith_withTextKeys` — both documents have the same findings.
-/

namespace ApiLint

open Outcome

-- ---------------------------------------------------------------------------
-- Replacing keys
-- ---------------------------------------------------------------------------

/-- A key with its text in place of an integer. -/
def Key.toText : Key → Key
  | .int n => .str (Decimal.ofInt n)
  | k => k

theorem Key.toText_str (s : String) : Key.toText (.str s) = .str s := rfl

theorem Key.toText_natCast (n : Nat) : Key.toText (.int n) = .str (Decimal.ofNat n) :=
  congrArg Key.str (Decimal.ofInt_natCast n)

mutual

/-- A value with the texts of integers as keys of its mappings, at any depth. -/
def Value.withTextKeys : Value → Value
  | .scalar s => .scalar s
  | .set items => .set items
  | .list items => .list (Value.withTextKeysIn items)
  | .tuple items => .tuple (Value.withTextKeysIn items)
  | .map entries => .map (Entries.withTextKeys entries)

/-- Values with the texts of integers as keys of their mappings. -/
def Value.withTextKeysIn : List Value → List Value
  | [] => []
  | v :: vs => v.withTextKeys :: Value.withTextKeysIn vs

/-- Entries with the texts of integers as keys, also of the mappings in their values. -/
def Entries.withTextKeys : Entries → Entries
  | [] => []
  | (k, v) :: es => (k.toText, v.withTextKeys) :: Entries.withTextKeys es

end

/-- A segment that spells no number or spells it without superfluous zeros. -/
def Pointer.Canonical (segment : String) : Prop :=
  IsNumeral segment → ∃ n : Nat, segment = Decimal.ofNat n

/-- A key that is a text or a number that has a text. -/
inductive Key.TextOrNumber : Key → Prop
  | text (s : String) : TextOrNumber (.str s)
  | number (n : Nat) (hShort : (Decimal.digits n).length ≤ Fault.digitLimit) : TextOrNumber (.int n)

/-- Whether the integer keys of a mapping can be replaced by their texts. -/
structure Entries.Respellable (es : Entries) : Prop where
  keys : ∀ e ∈ es, e.1.TextOrNumber
  /-- No number stands beside its text. -/
  apart : ∀ n : Nat, .int n ∈ es.map Prod.fst → .str (Decimal.ofNat n) ∉ es.map Prod.fst
  /-- If the mapping is a reference, its numerals have no superfluous zeros. -/
  numerals : Reference.AsksOnly Pointer.Canonical (.map es)

theorem Entries.Respellable.of_texts {es : Entries} (hKeys : es.Texts)
    (hNode : Reference.pointer? (.map es) = none) : es.Respellable where
  keys := by
    intro e he
    obtain ⟨s, hs⟩ := hKeys e he
    rw [hs]
    exact .text s
  apart := by
    intro n hInt _
    obtain ⟨e, he, hn⟩ := List.mem_map.mp hInt
    obtain ⟨s, hs⟩ := hKeys e he
    rw [hn] at hs
    cases hs
  numerals := by
    intro pointer hPointer
    rw [hNode] at hPointer
    cases hPointer

-- ---------------------------------------------------------------------------
-- Look-ups
-- ---------------------------------------------------------------------------

namespace Entries

theorem field?_eq_none_of_not_mem {es : Entries} {name : String}
    (h : .str name ∉ es.map Prod.fst) : es.field? name = none := by
  induction es with
  | nil => rfl
  | cons e es ih =>
    rw [List.map_cons, List.mem_cons, not_or] at h
    rw [field?, get?_cons, if_neg (mt Key.same_str.mp (Ne.symm h.1))]
    exact ih h.2

variable {es : Entries} (hKeys : ∀ e ∈ es, e.1.TextOrNumber)

include hKeys

/-- No number is left to be found. -/
theorem get?_int_withTextKeys (n : Int) : (withTextKeys es).get? (.int n) = none := by
  induction es with
  | nil => rfl
  | cons e es ih =>
    obtain ⟨k, v⟩ := e
    obtain ⟨hKey, hRest⟩ := List.forall_mem_cons.mp hKeys
    rw [withTextKeys]
    cases hKey with
    | text s => exact (get?_cons_str _ _ _ n).trans (ih hRest)
    | number m _ => exact (get?_cons_str _ _ _ n).trans (ih hRest)

/-- A text that spells no number finds what it found before. -/
theorem field?_withTextKeys_of_word {name : String} (hWord : ¬ Pointer.IsNumeral name) :
    (withTextKeys es).field? name = (es.field? name).map Value.withTextKeys := by
  induction es with
  | nil => rfl
  | cons e es ih =>
    obtain ⟨k, v⟩ := e
    obtain ⟨hKey, hRest⟩ := List.forall_mem_cons.mp hKeys
    rw [withTextKeys]
    cases hKey with
    | text s =>
      rw [Key.toText_str, field?_cons_str, field?_cons_str, ih hRest]
      split
      · rfl
      · rfl
    | number m _ =>
      have hOther : Decimal.ofNat m ≠ name := by
        rintro rfl
        exact hWord (Pointer.isNumeral_ofNat m)
      rw [Key.toText_natCast, field?_cons_str, field?_cons_int, if_neg hOther, ih hRest]

/-- The text of a number finds what it or the number found before. -/
theorem field?_withTextKeys_of_number {n : Nat}
    (hApart : .int n ∈ es.map Prod.fst → .str (Decimal.ofNat n) ∉ es.map Prod.fst) :
    (withTextKeys es).field? (Decimal.ofNat n) =
      ((es.field? (Decimal.ofNat n)).or (es.get? (.int n))).map Value.withTextKeys := by
  induction es with
  | nil => rfl
  | cons e es ih =>
    obtain ⟨k, v⟩ := e
    obtain ⟨hKey, hRest⟩ := List.forall_mem_cons.mp hKeys
    rw [List.map_cons] at hApart
    have hTail := ih hRest fun hInt hStr =>
      hApart (List.mem_cons_of_mem _ hInt) (List.mem_cons_of_mem _ hStr)
    rw [withTextKeys]
    cases hKey with
    | text s =>
      rw [Key.toText_str, field?_cons_str, field?_cons_str, get?_cons_str, hTail]
      split
      · rfl
      · rfl
    | number m _ =>
      rw [Key.toText_natCast, field?_cons_str, field?_cons_int, get?_cons_int, hTail]
      by_cases hSame : m = n
      · subst hSame
        have hNone : field? es (Decimal.ofNat m) = none := by
          apply field?_eq_none_of_not_mem
          intro hStr
          exact hApart List.mem_cons_self (List.mem_cons_of_mem _ hStr)
        rw [if_pos rfl, if_pos rfl, hNone]
        rfl
      · rw [if_neg (Decimal.ofNat_injective.ne hSame), if_neg (Nat.cast_injective.ne hSame)]

end Entries

-- ---------------------------------------------------------------------------
-- Texts
-- ---------------------------------------------------------------------------

theorem Key.text_toText {k : Key} (h : k.TextOrNumber) : k.toText.text = k.text := by
  cases h with
  | text s => rfl
  | number n hShort =>
    rw [toText_natCast]
    exact (Decimal.integerText_natCast hShort).symm

theorem Key.writable_toText {k : Key} (h : k.TextOrNumber) : k.toText.Writable ↔ k.Writable := by
  rw [← Key.completes_text, ← Key.completes_text, Key.text_toText h]

namespace Value

mutual

theorem writable_withTextKeys {v : Value} (h : v.EveryMap Entries.Respellable) :
    Decimal.AllShort v.withTextKeys.integers ↔ Decimal.AllShort v.integers := by
  match v with
  | .scalar s => exact Iff.rfl
  | .set items => exact Iff.rfl
  | .list items => exact writable_withTextKeysIn h
  | .tuple items => exact writable_withTextKeysIn h
  | .map _ => exact writable_withTextKeysInEntries h.1.keys h.2

theorem writable_withTextKeysIn {vs : List Value} (h : EveryMapIn Entries.Respellable vs) :
    Decimal.AllShort (integersIn (withTextKeysIn vs)) ↔ Decimal.AllShort (integersIn vs) := by
  match vs with
  | [] => exact Iff.rfl
  | v :: vs =>
    rw [withTextKeysIn, integersIn, integersIn, Decimal.allShort_append, Decimal.allShort_append,
      writable_withTextKeys h.1, writable_withTextKeysIn h.2]

theorem writable_withTextKeysInEntries {es : Entries} (hKeys : ∀ e ∈ es, e.1.TextOrNumber)
    (h : EveryMapInEntries Entries.Respellable es) :
    Decimal.AllShort (integersInEntries es.withTextKeys) ↔
      Decimal.AllShort (integersInEntries es) := by
  match es with
  | [] => exact Iff.rfl
  | (k, v) :: es =>
    obtain ⟨hKey, hRest⟩ := List.forall_mem_cons.mp hKeys
    have hk : Decimal.AllShort k.toText.integers ↔ Decimal.AllShort k.integers :=
      Key.writable_toText hKey
    rw [Entries.withTextKeys, integersInEntries, integersInEntries, Decimal.allShort_append,
      Decimal.allShort_append, Decimal.allShort_append, Decimal.allShort_append, hk,
      writable_withTextKeys h.1, writable_withTextKeysInEntries hRest h.2]

end

-- ---------------------------------------------------------------------------
-- Runs
-- ---------------------------------------------------------------------------

/-- Values whose integer keys can be replaced and what they are then. -/
def Respelled (v w : Value) : Prop := v.EveryMap Entries.Respellable ∧ w = v.withTextKeys

theorem respelled_items {vs : List Value} (h : ∀ v ∈ vs, v.EveryMap Entries.Respellable) :
    List.Forall₂ Respelled vs (withTextKeysIn vs) := by
  induction vs with
  | nil => exact .nil
  | cons v vs ih =>
    obtain ⟨hHead, hTail⟩ := List.forall_mem_cons.mp h
    exact .cons ⟨hHead, rfl⟩ (ih hTail)

theorem respelled_map {es fs : Entries} :
    Respelled (.map es) (.map fs) ↔
      (es.Respellable ∧ ∀ e ∈ es, e.2.EveryMap Entries.Respellable) ∧ fs = es.withTextKeys := by
  rw [Respelled, everyMap_map, withTextKeys, Value.map.injEq]

/-- A segment finds a number's value under its text. -/
theorem respelled_child? {es : Entries} (hEs : es.Respellable) {segment : String}
    (hSegment : Pointer.Canonical segment) :
    Pointer.child? (.map es.withTextKeys) segment (Pointer.number? segment) =
      (Pointer.child? (.map es) segment (Pointer.number? segment)).map withTextKeys := by
  by_cases hNumeral : Pointer.IsNumeral segment
  · obtain ⟨n, rfl⟩ := hSegment hNumeral
    rw [Pointer.number?_ofNat]
    show (es.withTextKeys.field? _).or (es.withTextKeys.get? _) = _
    rw [Entries.get?_int_withTextKeys hEs.keys, Option.or_none,
      Entries.field?_withTextKeys_of_number hEs.keys (hEs.apart n)]
    rfl
  · rw [Pointer.child?_of_word hNumeral, Pointer.child?_of_word hNumeral]
    exact Entries.field?_withTextKeys_of_word hEs.keys hNumeral

theorem respelled_likeness : Likeness Pointer.Canonical Respelled where
  alike := by
    rintro v w ⟨hEvery, rfl⟩
    cases v with
    | scalar s => exact .scalar s
    | set items => exact .set items
    | list items => exact .list (respelled_items (everyMap_list.mp hEvery))
    | tuple items => exact .tuple (respelled_items (everyMap_tuple.mp hEvery))
    | map es => exact .map es (Entries.withTextKeys es)
  scalar s := ⟨trivial, rfl⟩
  entry := by
    intro es fs segment h hSegment
    obtain ⟨⟨hEs, hParts⟩, rfl⟩ := respelled_map.mp h
    rw [respelled_child? hEs hSegment]
    cases hChild : Pointer.child? (.map es) segment (Pointer.number? segment) with
    | none => exact .none
    | some part =>
      obtain ⟨k, hPart⟩ := Pointer.mem_of_child? hChild
      exact .some ⟨hParts _ hPart, rfl⟩
  type h := absurd h (by decide)
  required h := absurd h (by decide)

/-- What is gathered from entries is the same with the texts of integers as keys. -/
theorem respelled_matched {es fs : Entries} (h : Respelled (.map es) (.map fs)) :
    Entries.Matched .exact Respelled es fs := by
  obtain ⟨⟨hEs, hParts⟩, rfl⟩ := respelled_map.mp h
  have hKeys := hEs.keys
  clear h hEs
  constructor
  intro β f g hfg
  apply accord_gather
  induction es with
  | nil => exact .nil
  | cons e es ih =>
    obtain ⟨k, v⟩ := e
    obtain ⟨hKey, hKeysRest⟩ := List.forall_mem_cons.mp hKeys
    obtain ⟨hPart, hPartsRest⟩ := List.forall_mem_cons.mp hParts
    exact .cons (hfg _ _ (Key.text_toText hKey).symm ⟨hPart, rfl⟩) (ih hPartsRest hKeysRest)

/-- Runs do not tell integer keys from their texts. -/
theorem respelled_simulation : Simulation .exact Pointer.Canonical Respelled where
  toLikeness := respelled_likeness
  words hWord hNumeral := absurd hNumeral hWord
  asked := by
    rintro v w ⟨hEvery, -⟩
    cases v with
    | map es => exact hEvery.1.numerals
    | _ =>
      intro pointer hPointer
      cases hPointer
  writable := by
    rintro v w ⟨hEvery, rfl⟩
    exact (writable_withTextKeys hEvery).symm
  entries := respelled_matched

end Value

namespace Lint

/-- **Integer keys are checked like texts.** All keys of mappings in a document are texts or numbers
that have a text, none of these numbers stands beside its text, and no reference into the document
spells a number with superfluous zeros. Then a run on the document completes exactly if it does with
the texts of the numbers as keys, and it has the same errors and the same warnings. -/
theorem runWith_withTextKeys {document : Entries}
    (h : (Value.map document).EveryMap Entries.Respellable) (settings : Settings) :
    (Completes (runWith document settings) ↔ Completes (runWith document.withTextKeys settings)) ∧
      ∀ found, runWith document settings = .ok found ↔
        runWith document.withTextKeys settings = .ok found := by
  have hRun : Accord Eq (runWith document settings) (runWith document.withTextKeys settings) := by
    apply (Value.respelled_simulation.runWith ⟨h, rfl⟩ settings).mono
    rintro ⟨_, _⟩ ⟨_, _⟩ ⟨rfl, rfl⟩
    rfl
  exact ⟨hRun.completes_iff, fun _ => hRun.eq_ok_iff⟩

/-- A document with integers as the names of an answer and of a list that describes it. -/
def numberedDocument : Entries := [
  (.str "paths", .map [
    (.str "/pets", .map [
      (.str "get", .map [
        (.str "responses", .map [
          (.int 200, .map [
            (.str "schema", .map [(.str Reference.key, .str "#/schemas/7/0")])])])])])]),
  (.str "schemas", .map [(.int 7, .list [.map [(.str "type", .str "array")]]), (.str "07", .null)])]

/-- The same document with texts as names. -/
def namedDocument : Entries := [
  (.str "paths", .map [
    (.str "/pets", .map [
      (.str "get", .map [
        (.str "responses", .map [
          (.str "200", .map [
            (.str "schema", .map [(.str Reference.key, .str "#/schemas/7/0")])])])])])]),
  (.str "schemas", .map [
    (.str "7", .list [.map [(.str "type", .str "array")]]), (.str "07", .null)])]

theorem numberedDocument_withTextKeys : numberedDocument.withTextKeys = namedDocument := rfl

theorem numberedDocument_respellable :
    (Value.map numberedDocument).EveryMap Entries.Respellable := by
  have hResponses : Entries.Respellable [(.int 200, .map [
      (.str "schema", .map [(.str Reference.key, .str "#/schemas/7/0")])])] := by
    refine ⟨?_, ?_, ?_⟩
    · simpa using Key.TextOrNumber.number 200 (by decide)
    · simp
    · intro pointer hPointer
      cases hPointer
  have hSchemas : Entries.Respellable [
      (.int 7, .list [.map [(.str "type", .str "array")]]), (.str "07", .null)] := by
    refine ⟨?_, ?_, ?_⟩
    · simpa using ⟨Key.TextOrNumber.number 7 (by decide), Key.TextOrNumber.text "07"⟩
    · intro n hInt hStr
      obtain rfl : n = 7 := by
        have hSeven : (n : Int) = 7 := by
          simpa using hInt
        exact Nat.cast_injective hSeven
      exact absurd hStr (by simp [show Decimal.ofNat 7 ≠ "07" by decide])
    · intro pointer hPointer
      cases hPointer
  have hNode : Entries.Respellable [(.str Reference.key, .str "#/schemas/7/0")] := by
    refine ⟨?_, ?_, ?_⟩
    · simpa using Key.TextOrNumber.text Reference.key
    · simp
    · intro pointer hPointer segment hSegment hNumeral
      have hSpelled : ∀ segment ∈ Pointer.segments "#/schemas/7/0", Pointer.IsNumeral segment →
          segment = Decimal.ofNat (Decimal.value segment.toList) := by
        decide +kernel
      obtain ⟨hField, -⟩ := Reference.pointer?_eq_some.mp hPointer
      cases hField
      exact ⟨_, hSpelled segment hSegment hNumeral⟩
  simp only [numberedDocument, Value.EveryMap, Value.EveryMapIn, Value.EveryMapInEntries, and_true]
  and_intros
  all_goals first | assumption | exact .of_texts (by simp [Entries.Texts]) rfl

def numberedFindings : Findings where
  errors := [
    ⟨"paths./pets.get.produces", Rule.produces.message⟩,
    ⟨"paths./pets.get.responses.200.schema", Rule.arrayResponse.message⟩]
  warnings := [
    ⟨"paths./pets.get.operationId", Rule.operationId.message⟩,
    ⟨"paths./pets.get.summary", Rule.summary.message⟩]

theorem runWith_withTextKeys_numbered :
    numberedDocument.withTextKeys = namedDocument ∧
      runWith numberedDocument (.model .default) = .ok numberedFindings ∧
      runWith namedDocument (.model .default) = .ok numberedFindings := by
  have hNumbered : runWith numberedDocument (.model .default) = .ok numberedFindings := by
    decide +kernel
  obtain ⟨-, hSame⟩ := runWith_withTextKeys numberedDocument_respellable (.model .default)
  rw [numberedDocument_withTextKeys] at hSame
  exact ⟨numberedDocument_withTextKeys, hNumbered, (hSame numberedFindings).mp hNumbered⟩

end Lint

end ApiLint
