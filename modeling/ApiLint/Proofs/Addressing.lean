import ApiLint.Proofs.Escaping
import ApiLint.Proofs.Walk

/-!
# Addressing by pointers

Every place in a document can be named by a pointer, and a pointer that finds something names a
place. A place is described without pointers, by a path of moves through mappings and sequences.

* `Move.chain_of_path` — the texts of the moves of a path are segments that lead to the same place;
* `Reference.resolve_reaches` — a reference written with these texts stands for what is at the
  place, and what a reference stands for, unless it is null, is at the end of its segments.
-/

namespace ApiLint

open Outcome

-- ---------------------------------------------------------------------------
-- Moves
-- ---------------------------------------------------------------------------

/-- A move from a value to one of its parts. -/
inductive Move
  /-- To the value at a text key of a mapping. -/
  | name (s : String)
  /-- To the value at an integer key of a mapping. -/
  | number (n : Nat)
  /-- To an item of a list or a tuple. -/
  | index (i : Nat)

namespace Move

/-- The segment for a move, before it is escaped. -/
def text : Move → String
  | name s => s
  | number n => Decimal.ofNat n
  | index i => Decimal.ofNat i

/-- Whether the segment for a move has no more digits than are converted. -/
def IsShort : Move → Prop
  | name s => Pointer.IsNumeral s → s.length ≤ Fault.digitLimit
  | number n => (Decimal.digits n).length ≤ Fault.digitLimit
  | index i => (Decimal.digits i).length ≤ Fault.digitLimit

instance : DecidablePred IsShort
  | name s => inferInstanceAs (Decidable (Pointer.IsNumeral s → s.length ≤ Fault.digitLimit))
  | number n => inferInstanceAs (Decidable ((Decimal.digits n).length ≤ Fault.digitLimit))
  | index i => inferInstanceAs (Decidable ((Decimal.digits i).length ≤ Fault.digitLimit))

/-- What a move leads to. An integer key is moved to only if its text is no key itself. -/
inductive Leads : Value → Move → Value → Prop
  | name {entries : Entries} {s : String} {part : Value}
      (hName : entries.field? s = some part) : Leads (.map entries) (.name s) part
  | number {entries : Entries} {n : Nat} {part : Value}
      (hName : entries.field? (Decimal.ofNat n) = none)
      (hKey : entries.get? (.int n) = some part) : Leads (.map entries) (.number n) part
  | listItem {items : List Value} {i : Nat} {part : Value}
      (hItem : items[i]? = some part) : Leads (.list items) (.index i) part
  | tupleItem {items : List Value} {i : Nat} {part : Value}
      (hItem : items[i]? = some part) : Leads (.tuple items) (.index i) part

/-- Where moves lead to, one after the other. -/
inductive Path : Value → List Move → Value → Prop
  | nil (v : Value) : Path v [] v
  | cons {v next target : Value} {move : Move} {moves : List Move}
      (hMove : Leads v move next) (hMoves : Path next moves target) :
      Path v (move :: moves) target

theorem step_of_leads {v part : Value} {move : Move} (h : Leads v move part) :
    Pointer.Step v move.text part := by
  cases h with
  | name hName => exact .name hName
  | number hName hKey => exact .number (Pointer.number?_ofNat _) hName hKey
  | listItem hItem => exact .listItem (Pointer.number?_ofNat _) hItem
  | tupleItem hItem => exact .tupleItem (Pointer.number?_ofNat _) hItem

/-- The texts of the moves of a path are segments that lead to the same place. -/
theorem chain_of_path {v target : Value} {moves : List Move} (h : Path v moves target) :
    Pointer.Chain v (moves.map text) target := by
  induction h with
  | nil v => exact .nil v
  | cons hMove _ ih => exact .cons (step_of_leads hMove) ih

theorem not_overlong_text {move : Move} (h : move.IsShort) : ¬ Pointer.Overlong move.text := by
  rintro ⟨hNumeral, hLong⟩
  cases move with
  | name s => exact absurd (h hNumeral) (Nat.not_le_of_lt hLong)
  | number n =>
    rw [← String.length_toList, text, Decimal.toList_ofNat] at hLong
    exact absurd h (Nat.not_le_of_lt hLong)
  | index i =>
    rw [← String.length_toList, text, Decimal.toList_ofNat] at hLong
    exact absurd h (Nat.not_le_of_lt hLong)

end Move

-- ---------------------------------------------------------------------------
-- References
-- ---------------------------------------------------------------------------

namespace Reference

theorem pointer?_write {node : Value} {segments : List String}
    (h : node.field? key = some (.str (Pointer.write segments))) :
    pointer? node = some (Pointer.write segments) :=
  pointer?_eq_some.mpr ⟨h, Pointer.startsWith_write segments⟩

/-- **Addressing.** The reference written with the moves of a path stands for the value that the
path leads to, as long as no move has too many digits. The other way round, what any reference into
the document stands for, unless it is null, is at the end of a chain with one step for each segment
of the pointer. -/
theorem resolve_reaches (node document : Value) :
    (∀ moves target, moves ≠ [] → Move.Path document moves target →
      (∀ move ∈ moves, Move.IsShort move) →
      node.field? key = some (.str (Pointer.write (moves.map Move.text))) →
      resolve node document = .ok target) ∧
    (∀ pointer target, node.field? key = some (.str pointer) →
      pointer.startsWith Pointer.marker = true →
      resolve node document = .ok target → target ≠ .null →
      Pointer.Chain document (Pointer.segments pointer) target) := by
  constructor
  · intro moves target hMoves hPath hShort hNode
    have hTexts : moves.map Move.text ≠ [] := by
      rw [ne_eq, List.map_eq_nil_iff]
      exact hMoves
    rw [resolve_of_pointer (pointer?_write hNode), Pointer.segments_write hTexts]
    apply Pointer.lookup_of_chain (Move.chain_of_path hPath)
    intro segment hSegment
    obtain ⟨move, hMove, rfl⟩ := List.mem_map.mp hSegment
    exact Move.not_overlong_text (hShort move hMove)
  · intro pointer target hNode hMarker hResolve hTarget
    rw [resolve_of_pointer (pointer?_eq_some.mpr ⟨hNode, hMarker⟩)] at hResolve
    exact Pointer.chain_of_lookup hResolve hTarget

/-- A document with a slash, an escape and a number among its keys. -/
def addressedDocument : Value :=
  .map [
    (.str "a/b", .map [
      (.str "~1", .map [
        (.str "2", .str "two"),
        (.int 200, .list [.null, .str "found"])])])]

/-- The way to one of its values. -/
def addressedMoves : List Move := [.name "a/b", .name "~1", .number 200, .index 1]

theorem addressedMoves_path : Move.Path addressedDocument addressedMoves (.str "found") :=
  .cons (.name rfl) (.cons (.name rfl) (.cons (.number rfl rfl) (.cons (.listItem rfl) (.nil _))))

theorem resolve_reaches_escaped :
    resolve (.map [(.str key, .str "#/a~1b/~01/200/1")]) addressedDocument = .ok (.str "found") ∧
      Pointer.Chain addressedDocument (Pointer.segments "#/a~1b/~01/200/1") (.str "found") := by
  have hWrite : Pointer.write (addressedMoves.map Move.text) = "#/a~1b/~01/200/1" := by
    decide +kernel
  have hShort : ∀ move ∈ addressedMoves, Move.IsShort move := by
    decide +kernel
  have hResolve := (resolve_reaches (.map [(.str key, .str "#/a~1b/~01/200/1")])
    addressedDocument).1 addressedMoves (.str "found") (List.cons_ne_nil _ _) addressedMoves_path
    hShort (by rw [hWrite]; rfl)
  refine ⟨hResolve, ?_⟩
  exact (resolve_reaches _ addressedDocument).2 _ (.str "found") rfl (by decide +kernel) hResolve
    (by simp)

end Reference

end ApiLint
