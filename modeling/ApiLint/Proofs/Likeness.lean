import ApiLint.Proofs.Entries
import ApiLint.Proofs.Sight
import ApiLint.Proofs.Walk

/-!
# Values that look alike

Some changes of a value escape the rules although a pointer may lead through the changed part or end
in it. `Likeness` is what a relation between values must satisfy so that rules cannot tell related
values apart: related values are of one kind, and a step of a pointer leads from related values to
related values. Whatever pointer is followed then, the value at its end looks the same.

* `Likeness.appearance_eq` — related values look the same;
* `Likeness.look_eq` — so do the values that related nodes stand for in related documents.
-/

namespace ApiLint

/-- Two values of one kind. Values without parts are equal, and sequences are related item by
item; of two mappings nothing more is said. -/
inductive Value.Alike (R : Value → Value → Prop) : Value → Value → Prop
  | scalar (s : Scalar) : Alike R (.scalar s) (.scalar s)
  | set (items : List Key) : Alike R (.set items) (.set items)
  | list {vs ws : List Value} (hItems : List.Forall₂ R vs ws) : Alike R (.list vs) (.list ws)
  | tuple {vs ws : List Value} (hItems : List.Forall₂ R vs ws) : Alike R (.tuple vs) (.tuple ws)
  | map (es fs : Entries) : Alike R (.map es) (.map fs)

/-- A relation between values that rules cannot tell apart. Pointers may ask for the segments in
`asks` only. -/
structure Likeness (asks : String → Prop) (R : Value → Value → Prop) : Prop where
  alike : ∀ {v w}, R v w → v.Alike R w
  scalar : ∀ s, R (.scalar s) (.scalar s)
  /-- What a segment names in related mappings is related. -/
  entry : ∀ {es fs segment}, R (.map es) (.map fs) → asks segment →
    Option.Rel R (Pointer.child? (.map es) segment (Pointer.number? segment))
      (Pointer.child? (.map fs) segment (Pointer.number? segment))
  /-- What rules look for in the value that a node stands for may be asked for. -/
  type : asks "type"
  required : asks "required"

/-- A node that asks only for some segments: if it is a reference into the document, they are all
that its pointer consists of. -/
def Reference.AsksOnly (asks : String → Prop) (node : Value) : Prop :=
  ∀ pointer ∈ pointer? node, ∀ segment ∈ Pointer.segments pointer, asks segment

namespace Pointer

/-- A field is what a segment names that is no numeral. -/
theorem child?_of_word {name : String} (h : ¬ IsNumeral name) (v : Value) :
    child? v name (number? name) = v.field? name := by
  rw [number?, if_neg h]
  cases v with
  | map es => exact Option.or_none
  | scalar s => cases s <;> rfl
  | _ => rfl

/-- What a segment names in a mapping stands at an entry. -/
theorem mem_of_child? {es : Entries} {segment : String} {index : Option Nat} {part : Value}
    (h : child? (.map es) segment index = some part) : ∃ k, (k, part) ∈ es := by
  have hChild : (es.field? segment).or (index.bind fun n : Nat => es.get? (.int n)) = some part := h
  rcases Option.or_eq_some_iff.mp hChild with hName | ⟨-, hNumber⟩
  · exact Entries.mem_of_get? hName
  · obtain ⟨n, -, hKey⟩ := Option.bind_eq_some_iff.mp hNumber
    exact Entries.mem_of_get? hKey

end Pointer

namespace Likeness

variable {asks : String → Prop} {R : Value → Value → Prop}

-- ---------------------------------------------------------------------------
-- Parts of related values
-- ---------------------------------------------------------------------------

theorem getElem?_rel {vs ws : List Value} (h : List.Forall₂ R vs ws) (n : Nat) :
    Option.Rel R vs[n]? ws[n]? := by
  induction h generalizing n with
  | nil => exact .none
  | cons hHead _ ih =>
    cases n with
    | zero => exact .some hHead
    | succ n => exact ih n

theorem item_rel {vs ws : List Value} (h : List.Forall₂ R vs ws) (index : Option Nat) :
    Option.Rel R (index.bind fun n => vs[n]?) (index.bind fun n => ws[n]?) := by
  cases index with
  | none => exact .none
  | some n => exact getElem?_rel h n

variable (h : Likeness asks R)

include h

theorem rel_scalar (s : Scalar) (segment : String) (index : Option Nat) :
    Option.Rel R (Pointer.child? (.scalar s) segment index)
      (Pointer.child? (.scalar s) segment index) := by
  cases hChild : Pointer.child? (.scalar s) segment index with
  | none => exact .none
  | some part =>
    -- the only scalars with parts are byte strings, and their parts are numbers
    unfold Pointer.child? at hChild
    split at hChild
    · next es hMap => cases hMap
    · next items hList => cases hList
    · next items hTuple => cases hTuple
    · obtain ⟨n, -, hByte⟩ := Option.bind_eq_some_iff.mp hChild
      obtain ⟨b, -, rfl⟩ := Option.map_eq_some_iff.mp hByte
      exact .some (h.scalar _)
    · cases hChild

/-- A step from related values leads to related values. -/
theorem child?_rel {v w : Value} (hR : R v w) {segment : String} (hAsks : asks segment) :
    Option.Rel R (Pointer.child? v segment (Pointer.number? segment))
      (Pointer.child? w segment (Pointer.number? segment)) := by
  cases h.alike hR with
  | scalar s => exact h.rel_scalar s segment _
  | set items => exact .none
  | list hItems => exact item_rel hItems _
  | tuple hItems => exact item_rel hItems _
  | map es fs => exact h.entry hR hAsks

/-- A field is in both of two related values, and related there, or in none of them. -/
theorem part (name : String) (hAsks : asks name) (hWord : ¬ Pointer.IsNumeral name) {v w : Value}
    (hR : R v w) :
    (v.field? name = none ∧ w.field? name = none) ∨
      ∃ a b, v.field? name = some a ∧ w.field? name = some b ∧ R a b := by
  have hChild := h.child?_rel hR hAsks
  rw [Pointer.child?_of_word hWord, Pointer.child?_of_word hWord] at hChild
  generalize v.field? name = x at hChild
  generalize w.field? name = y at hChild
  cases hChild with
  | none => exact .inl ⟨rfl, rfl⟩
  | some hPart => exact .inr ⟨_, _, rfl, rfl, hPart⟩

-- ---------------------------------------------------------------------------
-- What rules see of related values
-- ---------------------------------------------------------------------------

theorem isArraySchema_eq {v w : Value} (hR : R v w) :
    Rule.isArraySchema v = Rule.isArraySchema w := by
  unfold Rule.isArraySchema
  rcases h.part "type" h.type (by decide) hR with ⟨hv, hw⟩ | ⟨a, b, hv, hw, hPart⟩
  · rw [hv, hw]
  · rw [hv, hw]
    cases h.alike hPart <;> rfl

theorem isRequired_eq {v w : Value} (hR : R v w) : Rule.isRequired v = Rule.isRequired w := by
  unfold Rule.isRequired
  rcases h.part "required" h.required (by decide) hR with ⟨hv, hw⟩ | ⟨a, b, hv, hw, hPart⟩
  · rw [hv, hw]
  · rw [hv, hw]
    cases h.alike hPart <;> rfl

/-- Related values look the same. -/
theorem appearance_eq {v w : Value} (hR : R v w) : Rule.appearance v = Rule.appearance w := by
  unfold Rule.appearance
  rw [h.isArraySchema_eq hR, h.isRequired_eq hR]
  cases h.alike hR <;> rfl

/-- Walks from related values end at values that look the same. -/
theorem walk_eq {v w : Value} (hR : R v w) {segments : List String}
    (hAsks : ∀ segment ∈ segments, asks segment) :
    Option.map Rule.appearance <$> Pointer.walk v segments =
      Option.map Rule.appearance <$> Pointer.walk w segments := by
  -- a step leads from related values to related values, so the induction is for all of them
  induction segments generalizing v w with
  | nil => exact congrArg (fun a => Except.ok (some a)) (h.appearance_eq hR)
  | cons segment rest ih =>
    rw [List.forall_mem_cons] at hAsks
    obtain ⟨hSegment, hRest⟩ := hAsks
    by_cases hLong : Pointer.Overlong segment
    · rw [Pointer.walk_of_overlong hLong, Pointer.walk_of_overlong hLong]
    · have hChild := h.child?_rel hR hSegment
      rw [Pointer.walk_cons hLong, Pointer.walk_cons hLong]
      generalize Pointer.child? v segment (Pointer.number? segment) = a at hChild
      generalize Pointer.child? w segment (Pointer.number? segment) = b at hChild
      cases hChild with
      | none => rfl
      | some hPart => exact ih hPart hRest

theorem lookup_eq {v w : Value} (hR : R v w) {segments : List String}
    (hAsks : ∀ segment ∈ segments, asks segment) :
    Rule.appearance <$> Pointer.lookup v segments =
      Rule.appearance <$> Pointer.lookup w segments := by
  have hLookup : ∀ root, Rule.appearance <$> Pointer.lookup root segments =
      (fun seen => seen.getD (Rule.appearance .null)) <$>
        (Option.map Rule.appearance <$> Pointer.walk root segments) := by
    intro root
    rw [Pointer.lookup_eq_map]
    cases Pointer.walk root segments with
    | error fault => rfl
    | ok found => cases found <;> rfl
  rw [hLookup, hLookup, h.walk_eq hR hAsks]

/-- Related nodes look the same in related documents. -/
theorem look_eq {document document' node node' : Value} (hDocument : R document document')
    (hNode : R node node') (hKey : asks Reference.key) (hAsks : Reference.AsksOnly asks node) :
    Rule.look document node = Rule.look document' node' := by
  unfold Rule.look Reference.resolve
  rcases h.part Reference.key hKey (by decide) hNode with
    ⟨hv, hw⟩ | ⟨target, target', hv, hw, hPart⟩
  · rw [hv, hw]
    exact congrArg Except.ok (h.appearance_eq hNode)
  · have hLocal : Reference.local? target' = Reference.local? target := by
      cases h.alike hPart <;> rfl
    rw [Reference.AsksOnly, Reference.pointer?, hv] at hAsks
    rw [hv, hw]
    dsimp only
    rw [hLocal]
    cases hPointer : Reference.local? target with
    | none => rfl
    | some pointer => exact h.lookup_eq hDocument (hAsks pointer hPointer)

end Likeness

end ApiLint
