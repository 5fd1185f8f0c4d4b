import ApiLint.Proofs.Completion

/-!
# Conversions on a walk

A walk comes to a segment as long as every segment before it was a hit, and converts it, if it
consists of digits, before it looks at the value at hand. So the hits decide which segments are
converted, whether a lookup fails, and whether one lookup after another is one lookup.

* `walkBy` — the walk with the conversion as a parameter. `walkBy_numeral` says that the walk is one
  of these, and `lookupRecorded` is the one that notes the segments it converts;
* `conversions_eq` — the converted segments are the numerals up to the first segment that is no hit;
* `walk_eq_error` — a walk fails at the first segment with too many digits that it comes to;
* `lookup_append_eq_iff` — one lookup after another is one lookup, unless a miss is followed by a
  segment with too many digits;
* `lookup_hits` — all of this about lookups in one document.
-/

namespace ApiLint

open Outcome

namespace Pointer

-- ---------------------------------------------------------------------------
-- Hits
-- ---------------------------------------------------------------------------

/-- Whether a segment is a hit: it does not have too many digits and names a part of a value. The
part may be null. -/
def Hit (v : Value) (segment : String) (part : Value) : Prop :=
  ¬ Overlong segment ∧ Step v segment part

/-- Whether every one of these segments is a hit in the value that the ones before it lead to. -/
def Hits (v : Value) (segments : List String) : Prop :=
  (∃ reached, Chain v segments reached) ∧ ∀ segment ∈ segments, ¬ Overlong segment

theorem hits_iff_walk {v : Value} {segments : List String} :
    Hits v segments ↔ ∃ reached, walk v segments = .ok (some reached) := by
  simp only [walk_eq_some, exists_and_right]
  rfl

theorem hits_nil (v : Value) : Hits v [] := hits_iff_walk.mpr ⟨v, rfl⟩

theorem Hit.hits_cons {v part : Value} {segment : String} (h : Hit v segment part)
    (rest : List String) : Hits v (segment :: rest) ↔ Hits part rest := by
  rw [hits_iff_walk, hits_iff_walk, walk_of_step h.1 h.2]

theorem not_hits_cons {v : Value} {segment : String} (hMiss : ∀ part, ¬ Hit v segment part)
    (rest : List String) : ¬ Hits v (segment :: rest) := by
  rintro ⟨⟨reached, hChain⟩, hShort⟩
  cases hChain with
  | cons hStep _ => exact hMiss _ ⟨hShort segment List.mem_cons_self, hStep⟩

-- ---------------------------------------------------------------------------
-- Walks with a given conversion
-- ---------------------------------------------------------------------------

section Conversion

variable {m : Type → Type} [Monad m]

/-- The number that a segment of ASCII digits is converted to. -/
def indexBy (convert : String → m Nat) (segment : String) : m (Option Nat) :=
  if IsNumeral segment then some <$> convert segment else pure none

/-- The walk that converts segments in a given way. -/
def walkBy (convert : String → m Nat) : Value → List String → m (Option Value)
  | v, [] => pure (some v)
  | v, segment :: rest => do
    match child? v segment (← indexBy convert segment) with
    | some next => walkBy convert next rest
    | none => pure none

/-- The lookup that converts segments in a given way. -/
def lookupBy (convert : String → m Nat) (root : Value) (segments : List String) : m Value := do
  return (← walkBy convert root segments).getD .null

end Conversion

/-- The conversion of a segment of digits. -/
def numeral (segment : String) : Except Fault Nat := Decimal.numeral segment.toList

theorem indexBy_numeral (segment : String) : indexBy numeral segment = index? segment := by
  rw [indexBy, index?]
  by_cases h : IsNumeral segment
  · rw [if_pos h, if_pos (isNumeral_iff.mp h)]
    rfl
  · rw [if_neg h, if_neg (mt isNumeral_iff.mpr h)]
    rfl

/-- The walk is the one that converts by the numeral. -/
theorem walkBy_numeral (v : Value) (segments : List String) :
    walkBy numeral v segments = walk v segments := by
  induction segments generalizing v with
  | nil => rfl
  | cons segment rest ih =>
    rw [walkBy, walk, step, indexBy_numeral, bind_assoc]
    refine bind_congr fun index => ?_
    rw [pure_bind]
    cases child? v segment index with
    | none => rfl
    | some next => exact ih next

theorem lookupBy_numeral (root : Value) (segments : List String) :
    lookupBy numeral root segments = lookup root segments := by
  rw [lookupBy, lookup, walkBy_numeral]

-- ---------------------------------------------------------------------------
-- Noting the conversions
-- ---------------------------------------------------------------------------

/-- A result, and the segments that were converted on the way to it. -/
structure Recorded (α : Type) where
  converted : List String
  result : Except Fault α

namespace Recorded

variable {α β : Type} {a : Recorded α} {next : α → Recorded β}

/-- One computation after another; the second one only if the first one has a result. -/
def andThen (a : Recorded α) (next : α → Recorded β) : Recorded β :=
  match a.result with
  | .error fault => ⟨a.converted, .error fault⟩
  | .ok x => ⟨a.converted ++ (next x).converted, (next x).result⟩

instance : Monad Recorded where
  pure x := ⟨[], .ok x⟩
  bind := andThen

/-- Notes a segment and converts it. -/
def convert (segment : String) : Recorded Nat := ⟨[segment], numeral segment⟩

theorem result_bind : (a >>= next).result = a.result >>= fun x => (next x).result := by
  show (andThen a next).result = _
  unfold andThen
  cases a.result <;> rfl

theorem converted_bind_of_ok {x : α} (h : a.result = .ok x) :
    (a >>= next).converted = a.converted ++ (next x).converted := by
  show (andThen a next).converted = _
  simp only [andThen, h]

theorem converted_bind_of_error {fault : Fault} (h : a.result = .error fault) :
    (a >>= next).converted = a.converted := by
  show (andThen a next).converted = _
  simp only [andThen, h]

/-- What follows a computation and converts nothing leaves the record as it is. -/
theorem converted_bind_of_forall (h : ∀ x, (next x).converted = []) :
    (a >>= next).converted = a.converted := by
  cases hResult : a.result with
  | error fault => exact converted_bind_of_error hResult
  | ok x => rw [converted_bind_of_ok hResult, h, List.append_nil]

end Recorded

/-- The lookup, with the segments that it converts. -/
def lookupRecorded (root : Value) (segments : List String) : Recorded Value :=
  lookupBy Recorded.convert root segments

/-- The result of a recorded step is that of the step which converts and notes nothing. -/
theorem result_indexBy (convert : String → Recorded Nat) (segment : String) :
    (indexBy convert segment).result = indexBy (fun s => (convert s).result) segment := by
  rw [indexBy, indexBy]
  split
  · show (convert segment >>= fun n => pure (some n)).result = _
    rw [Recorded.result_bind]
    cases (convert segment).result <;> rfl
  · rfl

theorem result_walkBy (convert : String → Recorded Nat) (v : Value) (segments : List String) :
    (walkBy convert v segments).result = walkBy (fun s => (convert s).result) v segments := by
  induction segments generalizing v with
  | nil => rfl
  | cons segment rest ih =>
    rw [walkBy, walkBy, Recorded.result_bind, result_indexBy]
    refine bind_congr fun index => ?_
    cases child? v segment index with
    | none => rfl
    | some next => exact ih next

/-- A segment is converted if it consists of digits. -/
theorem converted_indexBy (segment : String) :
    (indexBy Recorded.convert segment).converted = [segment].filter (IsNumeral ·) := by
  rw [indexBy]
  split
  · next h =>
    have hNoted : (some <$> Recorded.convert segment).converted = [segment] :=
      Recorded.converted_bind_of_forall fun _ => rfl
    rw [hNoted, List.filter_cons_of_pos (by simpa using h), List.filter_nil]
  · next h =>
    rw [List.filter_cons_of_neg (by simpa using h), List.filter_nil]
    rfl

theorem result_lookupBy (convert : String → Recorded Nat) (root : Value) (segments : List String) :
    (lookupBy convert root segments).result =
      lookupBy (fun s => (convert s).result) root segments := by
  rw [lookupBy, lookupBy, Recorded.result_bind, result_walkBy]
  rfl

/-- A lookup and a recorded lookup end in the same way. -/
theorem result_lookupRecorded (root : Value) (segments : List String) :
    (lookupRecorded root segments).result = lookup root segments :=
  (result_lookupBy Recorded.convert root segments).trans (lookupBy_numeral root segments)

-- ---------------------------------------------------------------------------
-- What is converted
-- ---------------------------------------------------------------------------

/-- The segments that a walk from a value converts, in order. -/
def conversions (v : Value) (segments : List String) : List String :=
  (walkBy Recorded.convert v segments).converted

theorem converted_lookupRecorded (root : Value) (segments : List String) :
    (lookupRecorded root segments).converted = conversions root segments :=
  Recorded.converted_bind_of_forall fun _ => rfl

theorem result_index (segment : String) :
    (indexBy Recorded.convert segment).result = index? segment :=
  (result_indexBy Recorded.convert segment).trans (indexBy_numeral segment)

/-- After a hit, the walk goes on from the part. -/
theorem Hit.conversions_cons {v part : Value} {segment : String} (h : Hit v segment part)
    (rest : List String) :
    conversions v (segment :: rest) = [segment].filter (IsNumeral ·) ++ conversions part rest := by
  have hIndex : (indexBy Recorded.convert segment).result = .ok (number? segment) := by
    rw [result_index, index?_of_not_overlong h.1]
  have hChild : child? v segment (number? segment) = some part := child?_eq_some.mpr h.2
  rw [conversions, walkBy, Recorded.converted_bind_of_ok hIndex, converted_indexBy, hChild]
  rfl

/-- After a segment that is no hit, nothing is converted. -/
theorem conversions_of_miss {v : Value} {segment : String} (hMiss : ∀ part, ¬ Hit v segment part)
    (rest : List String) :
    conversions v (segment :: rest) = [segment].filter (IsNumeral ·) := by
  have hResult := result_index segment
  by_cases hLong : Overlong segment
  · rw [index?_of_overlong hLong] at hResult
    rw [conversions, walkBy, Recorded.converted_bind_of_error hResult, converted_indexBy]
  · rw [index?_of_not_overlong hLong] at hResult
    have hChild : child? v segment (number? segment) = none :=
      child?_eq_none.mpr fun part hStep => hMiss part ⟨hLong, hStep⟩
    rw [conversions, walkBy, Recorded.converted_bind_of_ok hResult, converted_indexBy, hChild]
    exact List.append_nil _

/-- **Conversions.** A walk comes to as many segments as there are with only hits before them, and
converts the segments of digits among these. -/
theorem conversions_eq (v : Value) (segments : List String) :
    ∃ n ≤ segments.length, conversions v segments = (segments.take n).filter (IsNumeral ·) ∧
      ∀ i < segments.length, i < n ↔ Hits v (segments.take i) := by
  induction segments generalizing v with
  | nil =>
    refine ⟨0, Nat.le_refl 0, rfl, ?_⟩
    intro i hi
    exact absurd hi (Nat.not_lt_zero i)
  | cons segment rest ih =>
    by_cases hHit : ∃ part, Hit v segment part
    · obtain ⟨part, hHit⟩ := hHit
      obtain ⟨n, hn, hConverted, hReach⟩ := ih part
      refine ⟨n + 1, Nat.succ_le_succ hn, ?_, ?_⟩
      · rw [hHit.conversions_cons, hConverted, List.take_succ_cons, ← List.filter_append]
        rfl
      · intro i hi
        cases i with
        | zero => exact iff_of_true (Nat.succ_pos n) (hits_nil v)
        | succ i =>
          have hBefore := hReach i (Nat.lt_of_succ_lt_succ hi)
          rw [List.take_succ_cons, hHit.hits_cons, ← hBefore]
          exact Nat.succ_lt_succ_iff
    · have hMiss : ∀ part, ¬ Hit v segment part := not_exists.mp hHit
      refine ⟨1, Nat.succ_le_succ (Nat.zero_le _), conversions_of_miss hMiss rest, ?_⟩
      intro i _
      cases i with
      | zero => exact iff_of_true Nat.one_pos (hits_nil v)
      | succ i =>
        refine iff_of_false (by omega) ?_
        rw [List.take_succ_cons]
        exact not_hits_cons hMiss _

-- ---------------------------------------------------------------------------
-- One walk after another
-- ---------------------------------------------------------------------------

/-- A walk goes on where its first part ends, if that part finds something. -/
theorem walk_append (v : Value) (s t : List String) :
    walk v (s ++ t) = walk v s >>= fun found =>
      found.elim (.ok none) fun reached => walk reached t := by
  induction s generalizing v with
  | nil => rfl
  | cons segment rest ih =>
    rw [List.cons_append]
    by_cases hLong : Overlong segment
    · rw [walk_of_overlong hLong, walk_of_overlong hLong]
      rfl
    · rw [walk_cons hLong, walk_cons hLong]
      cases child? v segment (number? segment) with
      | none => rfl
      | some next => exact ih next

theorem lookup_append (root : Value) (s t : List String) :
    lookup root (s ++ t) = walk root s >>= fun found =>
      found.elim (.ok .null) fun reached => lookup reached t := by
  rw [lookup_eq_map, walk_append]
  cases walk root s with
  | error fault => rfl
  | ok found =>
    cases found with
    | none => rfl
    | some reached => exact (lookup_eq_map reached t).symm

/-- One lookup after another starts from null if the first one misses. -/
theorem lookup_bind (root : Value) (s t : List String) :
    (lookup root s >>= fun v => lookup v t) = walk root s >>= fun found =>
      found.elim (lookup .null t) fun reached => lookup reached t := by
  rw [lookup_eq_map]
  cases walk root s with
  | error fault => rfl
  | ok found => cases found <;> rfl

theorem not_step_null (segment : String) (next : Value) : ¬ Step .null segment next := by
  intro h
  cases h

/-- In null nothing is found, but the first segment is converted. -/
theorem lookup_null {t : List String} :
    lookup .null t = .ok .null ↔ ∀ segment ∈ t.head?, ¬ Overlong segment := by
  cases t with
  | nil => exact iff_of_true rfl fun _ h => by cases h
  | cons segment rest =>
    simp only [List.head?_cons, Option.mem_some_iff, forall_eq']
    by_cases hLong : Overlong segment
    · rw [lookup_eq_map, walk_of_overlong hLong]
      exact iff_of_false (fun h => by cases h) (fun h => h hLong)
    · rw [lookup_eq_map, walk_of_miss hLong (not_step_null segment)]
      exact iff_of_true rfl hLong

theorem eq_null_of_lookup_null {t : List String} {v : Value} (h : lookup .null t = .ok v) :
    v = .null := by
  by_contra hFound
  have hChain := chain_of_lookup h hFound
  cases hChain with
  | nil => exact hFound rfl
  | cons hStep _ => exact not_step_null _ _ hStep

theorem completes_lookup_null {t : List String} :
    Completes (lookup .null t) ↔ ∀ segment ∈ t.head?, ¬ Overlong segment := by
  rw [← lookup_null]
  constructor
  · rintro ⟨v, h⟩
    rw [h, eq_null_of_lookup_null h]
  · intro h
    exact ⟨.null, h⟩

/-- **Composition.** One lookup after another is one lookup, unless a miss is followed by a segment
with too many digits: one lookup ends at the miss, and a second one would convert the segment. -/
theorem lookup_append_eq_iff (root : Value) (s t : List String) :
    lookup root (s ++ t) = (lookup root s >>= fun v => lookup v t) ↔
      (walk root s = .ok none → ∀ segment ∈ t.head?, ¬ Overlong segment) := by
  rw [lookup_append, lookup_bind, ← lookup_null]
  cases walk root s with
  | error fault => exact iff_of_true rfl fun h => by cases h
  | ok found =>
    cases found with
    | none =>
      show (.ok .null = lookup .null t) ↔ _
      rw [eq_comm]
      exact ⟨fun h _ => h, fun h => h rfl⟩
    | some reached => exact iff_of_true rfl fun h => by cases h

-- ---------------------------------------------------------------------------
-- Where a lookup fails
-- ---------------------------------------------------------------------------

/-- A walk fails at the first segment with too many digits that it comes to. -/
theorem walk_eq_error {v : Value} {segments : List String} {fault : Fault} :
    walk v segments = .error fault ↔
      ∃ front segment back, segments = front ++ segment :: back ∧ Hits v front ∧
        Overlong segment ∧ fault = .numeralTooLong segment.length := by
  constructor
  · intro h
    induction segments generalizing v with
    | nil => cases h
    | cons segment rest ih =>
      by_cases hLong : Overlong segment
      · rw [walk_of_overlong hLong] at h
        cases h
        exact ⟨[], segment, rest, rfl, hits_nil v, hLong, rfl⟩
      · by_cases hStep : ∃ next, Step v segment next
        · obtain ⟨next, hStep⟩ := hStep
          rw [walk_of_step hLong hStep] at h
          obtain ⟨front, last, back, hRest, hHits, hFault⟩ := ih h
          refine ⟨segment :: front, last, back, ?_, ?_, hFault⟩
          · rw [hRest, List.cons_append]
          · exact (Hit.hits_cons ⟨hLong, hStep⟩ front).mpr hHits
        · rw [walk_of_miss hLong (not_exists.mp hStep)] at h
          cases h
  · rintro ⟨front, segment, back, rfl, hHits, hLong, rfl⟩
    obtain ⟨reached, hFront⟩ := hits_iff_walk.mp hHits
    rw [walk_append, hFront]
    exact walk_of_overlong hLong reached back

theorem lookup_eq_error {root : Value} {segments : List String} {fault : Fault} :
    lookup root segments = .error fault ↔
      ∃ front segment back, segments = front ++ segment :: back ∧ Hits root front ∧
        Overlong segment ∧ fault = .numeralTooLong segment.length := by
  rw [← walk_eq_error, lookup_eq_map]
  cases walk root segments with
  | error fault' => simp [Functor.map, Except.map]
  | ok found => simp [Functor.map, Except.map]

/-- To fail it is enough that a segment with too many digits stands at the end of a chain: if there
are others in the chain, the lookup fails at the first one. -/
theorem lookup_fails_iff {root : Value} {segments : List String} :
    (∃ fault, lookup root segments = .error fault) ↔
      ∃ front segment back reached, segments = front ++ segment :: back ∧
        Chain root front reached ∧ Overlong segment := by
  constructor
  · rintro ⟨fault, h⟩
    obtain ⟨front, segment, back, hSegments, ⟨⟨reached, hChain⟩, -⟩, hLong, -⟩ :=
      lookup_eq_error.mp h
    exact ⟨front, segment, back, reached, hSegments, hChain, hLong⟩
  · rintro ⟨front, segment, back, reached, hSegments, hChain, hLong⟩
    cases hLookup : lookup root segments with
    | error fault => exact ⟨fault, rfl⟩
    | ok v =>
      have hConvertible := completes_lookup.mp ⟨v, hLookup⟩
      exact absurd hLong (hConvertible front segment back reached hSegments hChain)

-- ---------------------------------------------------------------------------
-- Lookups in one document
-- ---------------------------------------------------------------------------

/-- **Lookups follow hits.** A lookup fails exactly if a segment has too many digits and every
segment before it was a hit, and the fault is that of the first such segment. It comes to a segment
exactly if all before it were hits, and of these segments it converts those that consist of digits,
whatever value they are met on; after a miss it converts nothing. One lookup after another, if they
complete, is one lookup, and it is one in any case but that of a miss before a segment with too many
digits. A miss and a null that is found are alike: what follows ends in null again, unless it begins
with such a segment. -/
theorem lookup_hits (root : Value) :
    (∀ segments, (∃ fault, lookup root segments = .error fault) ↔
      ∃ front segment back reached, segments = front ++ segment :: back ∧
        Chain root front reached ∧ Overlong segment) ∧
    (∀ segments fault, lookup root segments = .error fault ↔
      ∃ front segment back, segments = front ++ segment :: back ∧ Hits root front ∧
        Overlong segment ∧ fault = .numeralTooLong segment.length) ∧
    (∀ segments, ∃ n ≤ segments.length,
      lookupRecorded root segments =
        ⟨(segments.take n).filter (IsNumeral ·), lookup root segments⟩ ∧
      ∀ i < segments.length, i < n ↔ Hits root (segments.take i)) ∧
    (∀ s t, Completes (lookup root s >>= fun v => lookup v t) →
      lookup root (s ++ t) = lookup root s >>= fun v => lookup v t) ∧
    (∀ s t, lookup root (s ++ t) = (lookup root s >>= fun v => lookup v t) ↔
      (walk root s = .ok none → ∀ segment ∈ t.head?, ¬ Overlong segment)) ∧
    (∀ s t, lookup root s = .ok .null → (∀ segment ∈ t.head?, ¬ Overlong segment) →
      lookup root (s ++ t) = .ok .null) := by
  refine ⟨fun _ => lookup_fails_iff, fun _ _ => lookup_eq_error, ?_, ?_,
    lookup_append_eq_iff root, ?_⟩
  · intro segments
    obtain ⟨n, hn, hConverted, hReach⟩ := conversions_eq root segments
    refine ⟨n, hn, ?_, hReach⟩
    rw [← hConverted, ← converted_lookupRecorded, ← result_lookupRecorded]
  · intro s t hCompletes
    rw [lookup_append_eq_iff]
    intro hMiss
    rw [lookup_bind, hMiss] at hCompletes
    exact completes_lookup_null.mp hCompletes
  · intro s t hNull hShort
    rw [(lookup_append_eq_iff root s t).mpr fun _ => hShort, hNull]
    exact lookup_null.mpr hShort

/-- A document with a null, with items, and with a name that has too many digits. -/
def longNamedDocument : Value :=
  .map [
    (.str "void", .null),
    (.str "tags", .list [.str "stores", .null]),
    (.str "names", .map [(.str Lint.longSegment, .list [])])]

theorem lookup_hits_overlong :
    (∃ fault, lookup longNamedDocument ["names", Lint.longSegment] = .error fault) ∧
      (∃ fault, lookup longNamedDocument ["void", Lint.longSegment] = .error fault) ∧
      (∃ fault, lookup longNamedDocument ["tags", "0", Lint.longSegment] = .error fault) ∧
      (lookupRecorded longNamedDocument ["void", "200"]).converted = ["200"] ∧
      (lookupRecorded longNamedDocument ["lost", "200"]).converted = [] ∧
      lookup longNamedDocument (["tags"] ++ ["0"]) =
        (lookup longNamedDocument ["tags"] >>= fun v => lookup v ["0"]) ∧
      lookup longNamedDocument (["lost"] ++ [Lint.longSegment]) ≠
        (lookup longNamedDocument ["lost"] >>= fun v => lookup v [Lint.longSegment]) ∧
      lookup longNamedDocument (["void"] ++ ["200"]) = .ok .null ∧
      lookup longNamedDocument (["lost"] ++ ["200"]) = .ok .null := by
  obtain ⟨hFails, -, hRecorded, hCompose, hExact, hNull⟩ := lookup_hits longNamedDocument
  have hNames : Chain longNamedDocument ["names"] (.map [(.str Lint.longSegment, .list [])]) :=
    .cons (.name rfl) (.nil _)
  have hVoid : Chain longNamedDocument ["void"] .null := .cons (.name rfl) (.nil _)
  have hItem : Chain longNamedDocument ["tags", "0"] (.str "stores") :=
    .cons (.name rfl) (.cons (.listItem (number?_ofNat 0) rfl) (.nil _))
  have hLost : walk longNamedDocument ["lost"] = .ok none := rfl
  have hShort : ∀ segment ∈ ["200"].head?, ¬ Overlong segment := by
    decide +kernel
  have hLong := Lint.overlong_longSegment
  refine ⟨?_, ?_, ?_, ?_, ?_, ?_, ?_, ?_, ?_⟩
  · exact (hFails _).mpr ⟨["names"], _, [], _, rfl, hNames, hLong⟩
  · exact (hFails _).mpr ⟨["void"], _, [], _, rfl, hVoid, hLong⟩
  · exact (hFails _).mpr ⟨["tags", "0"], _, [], _, rfl, hItem, hLong⟩
  · obtain ⟨n, hn, hRecord, hReach⟩ := hRecorded ["void", "200"]
    have hHits : Hits longNamedDocument ["void"] := ⟨⟨_, hVoid⟩, by decide +kernel⟩
    have hBoth : n = 2 := Nat.le_antisymm hn ((hReach 1 (by decide)).mpr hHits)
    rw [hRecord, hBoth]
    decide +kernel
  · obtain ⟨n, -, hRecord, hReach⟩ := hRecorded ["lost", "200"]
    have hFirst : n ≤ 1 := by
      refine Nat.le_of_not_lt fun h => ?_
      obtain ⟨reached, hReached⟩ : ∃ reached, walk longNamedDocument ["lost"] = .ok (some reached) :=
        hits_iff_walk.mp ((hReach 1 (by decide)).mp h)
      rw [hLost] at hReached
      cases hReached
    have hNone : ∀ n ≤ 1, (["lost", "200"].take n).filter (IsNumeral ·) = [] := by
      decide +kernel
    rw [hRecord]
    exact hNone n hFirst
  · exact hCompose ["tags"] ["0"] (by decide +kernel)
  · intro h
    exact (hExact ["lost"] [Lint.longSegment]).mp h hLost _ rfl hLong
  · exact hNull ["void"] ["200"] rfl hShort
  · exact hNull ["lost"] ["200"] rfl hShort

end Pointer

end ApiLint
