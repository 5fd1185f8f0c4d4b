import ApiLint.Proofs.Opening
import ApiLint.Proofs.Sight
import ApiLint.Proofs.WellFormed
import Mathlib.Data.List.Nodup

/-!
# Reading places

A place is written as keys joined by dots, and neither a path nor the name of an answer is escaped.
What the place is about can still be read off: the last piece between dots says which kind of thing
it is, and the piece before it, apart from answers, is the method. Only between a path and the name
of an answer several readings may be possible.

* `Text.pieces` — the pieces of a text between dots, with `Text.pieces_intercalate`;
* `Rule.targeted_places` — a rule finds targets of the kind it aims at, and different ones if the
  answers have different names;
* `Rule.Aims.unique` — a place has one reading, except for an answer under a path that goes on with
  what stands between path and answer.
-/

namespace ApiLint

open Outcome

-- ---------------------------------------------------------------------------
-- Pieces
-- ---------------------------------------------------------------------------

namespace Text

/-- The pieces of a text between dots; there is always one more than dots. -/
def pieces (s : String) : List String := (s.toList.splitOn '.').map String.ofList

theorem pieces_ne_nil (s : String) : pieces s ≠ [] := by
  rw [pieces, ne_eq, List.map_eq_nil_iff]
  exact List.splitOn_ne_nil '.' s.toList

theorem pieces_of_no_dot {s : String} (h : '.' ∉ s.toList) : pieces s = [s] := by
  rw [pieces, List.splitOn_eq_singleton h, List.map_singleton, String.ofList_toList]

theorem pieces_append_dot (s t : String) : pieces (s ++ "." ++ t) = pieces s ++ pieces t := by
  have hList : (s ++ "." ++ t).toList = s.toList ++ '.' :: t.toList := by
    rw [String.append_assoc, String.toList_append, String.toList_append]
    rfl
  rw [pieces, hList, List.splitOn_append_cons_self, List.map_append]
  rfl

/-- The pieces of joined texts are the pieces of the texts. -/
theorem pieces_intercalate {ss : List String} (h : ss ≠ []) :
    pieces (".".intercalate ss) = ss.flatMap pieces := by
  induction ss with
  | nil => exact absurd rfl h
  | cons s ss ih =>
    cases ss with
    | nil => rw [String.intercalate_singleton, List.flatMap_singleton]
    | cons t ts =>
      rw [String.intercalate_cons_cons, pieces_append_dot, ih (List.cons_ne_nil t ts)]
      rfl

theorem intercalate_pieces (s : String) : ".".intercalate (pieces s) = s := by
  apply String.toList_injective
  have hParts : (pieces s).map String.toList = s.toList.splitOn '.' := by
    rw [pieces, List.map_map]
    simp
  rw [String.toList_intercalate, hParts]
  exact List.intercalate_splitOn '.'

theorem pieces_injective : Function.Injective pieces := by
  intro s t h
  rw [← intercalate_pieces s, h, intercalate_pieces t]

end Text

open Text

-- ---------------------------------------------------------------------------
-- Targets
-- ---------------------------------------------------------------------------

/-- What in an operation a place is about. -/
inductive Target
  | consumes
  | produces
  | operationId
  | summary
  | answer (name : String)
  | parameter (index : Nat)

namespace Target

/-- The keys between the method and the last key of a place. -/
def inner : Target → List String
  | answer name => ["responses", name]
  | _ => []

/-- The last key of a place. -/
def last : Target → String
  | consumes => "consumes"
  | produces => "produces"
  | operationId => "operationId"
  | summary => "summary"
  | answer _ => "schema"
  | parameter i => "parameters" ++ "[" ++ Decimal.ofNat i ++ "]"

theorem last_no_dot (t : Target) : '.' ∉ t.last.toList := by
  cases t with
  | parameter i =>
    intro h
    rw [last, String.toList_append, String.toList_append, String.toList_append,
      Decimal.toList_ofNat] at h
    have hDigit : '.' ∉ Decimal.digits i := by
      intro hDot
      exact absurd (Decimal.isDigit_of_mem_digits hDot) (by decide)
    simp [hDigit] at h
  | _ => simp [last]

/-- How the last key of a place begins. -/
def initials : Target → List Char
  | consumes => ['c', 'o']
  | produces => ['p', 'r']
  | operationId => ['o', 'p']
  | summary => ['s', 'u']
  | answer _ => ['s', 'c']
  | parameter _ => ['p', 'a']

theorem take_last (t : Target) : t.last.toList.take 2 = t.initials := by
  cases t with
  | parameter i =>
    rw [last, String.toList_append, String.toList_append, String.toList_append]
    rfl
  | _ => simp [last, initials]

theorem parameter_eq_of_last {i j : Nat} (h : (parameter i).last = (parameter j).last) :
    parameter i = parameter j := by
  have hList := congrArg String.toList h
  simp only [last, String.toList_append, List.append_cancel_right_eq, List.append_cancel_left_eq,
    String.toList_inj] at hList
  rw [Decimal.ofNat_injective hList]

/-- A target is known by the last key of its place, unless it is an answer. -/
theorem eq_of_last {t t' : Target} (h : t.last = t'.last) :
    (t = t' ∧ t.inner = []) ∨ ∃ name name', t = answer name ∧ t' = answer name' := by
  have hInitials : t.initials = t'.initials := by
    rw [← take_last, ← take_last, h]
  cases t with
  | answer name =>
    cases t' with
    | answer name' => exact .inr ⟨name, name', rfl, rfl⟩
    | _ => simp [initials] at hInitials
  | parameter i =>
    cases t' with
    | parameter j => exact .inl ⟨parameter_eq_of_last h, rfl⟩
    | _ => simp [initials] at hInitials
  | _ =>
    cases t' with
    | answer name' => simp [initials] at hInitials
    | parameter j => simp [initials] at hInitials
    | _ => first | exact .inl ⟨rfl, rfl⟩ | simp [initials] at hInitials

end Target

namespace Operation

/-- The place of a target in an operation. -/
def locate (op : Operation) (t : Target) : String := op.place (t.inner ++ [t.last])

theorem pieces_place (op : Operation) (fields : List String) :
    pieces (op.place fields) =
      "paths" :: (pieces op.path ++ (pieces op.method ++ fields.flatMap pieces)) := by
  rw [place, pieces_intercalate (by simp), List.flatMap_cons, List.flatMap_cons, List.flatMap_cons]
  rfl

theorem pieces_locate {op : Operation} (hMethod : op.method ∈ methods) (t : Target) :
    pieces (op.locate t) =
      "paths" :: (pieces op.path ++ op.method :: t.inner.flatMap pieces) ++ [t.last] := by
  have hNoDot : ∀ m ∈ methods, '.' ∉ m.toList := by
    decide
  rw [locate, pieces_place, pieces_of_no_dot (hNoDot _ hMethod), List.flatMap_append,
    List.flatMap_singleton, pieces_of_no_dot t.last_no_dot]
  simp

end Operation

-- ---------------------------------------------------------------------------
-- Rules and their targets
-- ---------------------------------------------------------------------------

/-- The targets in an operation that a rule may find. -/
inductive Rule.Aims (op : Operation) : Rule → Target → Prop
  | writeConsumes (hMethod : op.method = "put" ∨ op.method = "post") :
    Aims op writeConsumes .consumes
  | readConsumes (hMethod : op.method = "get") : Aims op readConsumes .consumes
  | produces : Aims op produces .produces
  | operationId : Aims op operationId .operationId
  | summary : Aims op summary .summary
  | arrayResponse (hMethod : op.method = "get") (name : String) :
    Aims op arrayResponse (.answer name)
  | parameterOrder (i : Nat) : Aims op parameterOrder (.parameter i)

/-- A path that goes on after another one with what stands between a path and the name of an
answer. -/
def Operation.Continues (path path' : String) : Prop :=
  ∃ more, path' = path ++ ".get.responses" ++ more

namespace Operation

theorem continues_of_pieces {path path' : String} {rest : List String}
    (h : pieces path' = pieces path ++ "get" :: "responses" :: rest) : Continues path path' := by
  have hPath' : path' = path ++ "." ++ ".".intercalate ("get" :: "responses" :: rest) := by
    rw [← intercalate_pieces path', h,
      String.intercalate_append_of_ne_nil (pieces_ne_nil path) (List.cons_ne_nil _ _),
      intercalate_pieces]
  cases rest with
  | nil =>
    refine ⟨"", ?_⟩
    rw [hPath', String.append_empty, String.append_assoc]
    rfl
  | cons piece rest =>
    refine ⟨"." ++ ".".intercalate (piece :: rest), ?_⟩
    rw [hPath', String.intercalate_cons_cons, String.intercalate_cons_cons]
    simp only [String.append_assoc]
    rfl

/-- The shorter one of two paths ends where the longer one goes on, or before a whole
`get.responses`: no part of it is read twice. -/
theorem answer_pieces_of_prefix {path path' name name' : String} {between : List String}
    (hPath : pieces path' = pieces path ++ between)
    (hName : "get" :: "responses" :: pieces name =
      between ++ "get" :: "responses" :: pieces name') :
    (path = path' ∧ name = name') ∨ Continues path path' := by
  match between with
  | [] =>
    rw [List.append_nil] at hPath
    simp only [List.nil_append, List.cons.injEq, true_and] at hName
    exact .inl ⟨(pieces_injective hPath).symm, pieces_injective hName⟩
  -- what follows the shorter path would have to begin with `get` twice
  | [piece] => simp at hName
  | piece :: piece' :: rest =>
    simp only [List.cons_append, List.cons.injEq] at hName
    obtain ⟨rfl, rfl, -⟩ := hName
    exact .inr (continues_of_pieces hPath)

theorem answer_pieces {path path' name name' : String}
    (h : pieces path ++ "get" :: "responses" :: pieces name =
      pieces path' ++ "get" :: "responses" :: pieces name') :
    (path = path' ∧ name = name') ∨ Continues path path' ∨ Continues path' path := by
  rcases List.append_eq_append_iff.mp h with ⟨between, hPath, hName⟩ | ⟨between, hPath, hName⟩
  · rcases answer_pieces_of_prefix hPath hName with hSame | hMore
    · exact .inl hSame
    · exact .inr (.inl hMore)
  · rcases answer_pieces_of_prefix hPath hName with ⟨rfl, rfl⟩ | hMore
    · exact .inl ⟨rfl, rfl⟩
    · exact .inr (.inr hMore)

end Operation

namespace Rule.Aims

theorem rule_unique {op op' : Operation} {rule rule' : Rule} {t : Target}
    (hMethod : op.method = op'.method) (h : rule.Aims op t) (h' : rule'.Aims op' t) :
    rule = rule' := by
  cases h with
  | writeConsumes hPut =>
    cases h' with
    | writeConsumes _ => rfl
    | readConsumes hGet =>
      rw [hMethod, hGet] at hPut
      exact absurd hPut (by decide)
  | readConsumes hGet =>
    cases h' with
    | readConsumes _ => rfl
    | writeConsumes hPut =>
      rw [← hMethod, hGet] at hPut
      exact absurd hPut (by decide)
  | _ =>
    cases h'
    rfl

/-- **A place has one reading**, unless it is an answer under a path that goes on after another
one. -/
theorem unique {op op' : Operation} {rule rule' : Rule} {t t' : Target}
    (hMethod : op.method ∈ Operation.methods) (hMethod' : op'.method ∈ Operation.methods)
    (hAims : rule.Aims op t) (hAims' : rule'.Aims op' t') (h : op.locate t = op'.locate t') :
    (op.path = op'.path ∧ op.method = op'.method ∧ rule = rule' ∧ t = t') ∨
      (rule = .arrayResponse ∧ rule' = .arrayResponse ∧
        (Operation.Continues op.path op'.path ∨ Operation.Continues op'.path op.path)) := by
  -- the last pieces say what the targets are, and what stands before them is the same
  have hPieces := congrArg pieces h
  rw [Operation.pieces_locate hMethod, Operation.pieces_locate hMethod'] at hPieces
  obtain ⟨hFront, hLast⟩ := List.append_inj' hPieces rfl
  obtain ⟨-, hFront⟩ := List.cons.inj hFront
  obtain ⟨hLast, -⟩ := List.cons.inj hLast
  rcases Target.eq_of_last hLast with ⟨rfl, hInner⟩ | ⟨name, name', rfl, rfl⟩
  · rw [hInner] at hFront
    obtain ⟨hPath, hMethods⟩ := List.append_inj' hFront rfl
    obtain ⟨hMethods, -⟩ := List.cons.inj hMethods
    exact .inl ⟨pieces_injective hPath, hMethods, hAims.rule_unique hMethods hAims', rfl⟩
  · cases hAims with
    | arrayResponse hGet =>
      cases hAims' with
      | arrayResponse hGet' =>
        have hInner : ∀ answer : String, (Target.answer answer).inner.flatMap pieces =
            "responses" :: pieces answer := by
          intro answer
          simp [Target.inner, pieces_of_no_dot (s := "responses") (by decide)]
        rw [hGet, hGet', hInner, hInner] at hFront
        rcases Operation.answer_pieces hFront with ⟨hPath, rfl⟩ | hMore
        · exact .inl ⟨hPath, hGet.trans hGet'.symm, rfl, rfl⟩
        · exact .inr ⟨rfl, rfl, hMore⟩

end Rule.Aims

-- ---------------------------------------------------------------------------
-- What rules find
-- ---------------------------------------------------------------------------

namespace Rule

/-- Places of targets that a rule aims at. They are different targets if the answers have texts as
names, each of them once. -/
def Targeted (op : Operation) (rule : Rule) (places : List String) : Prop :=
  ∃ ts : List Target, places = ts.map op.locate ∧ (∀ t ∈ ts, rule.Aims op t) ∧
    ((op.method = "get" → op.answers.Texts) → op.answers.Distinct → ts.Nodup)

theorem targeted_nil (op : Operation) (rule : Rule) : Targeted op rule [] :=
  ⟨[], rfl, fun _ h => absurd h List.not_mem_nil, fun _ _ => List.nodup_nil⟩

theorem targeted_singleton {op : Operation} {rule : Rule} {t : Target} {place : String}
    (h : rule.Aims op t) (hPlace : place = op.locate t) : Targeted op rule [place] := by
  refine ⟨[t], congrArg (fun place => [place]) hPlace, ?_, fun _ _ => List.pairwise_singleton _ t⟩
  intro t' ht'
  rw [List.mem_singleton.mp ht']
  exact h

/-- The names of answers that are arrays stand among the keys of the answers, in order. -/
theorem arrayResponses_sublist {document : Value} {responses : Entries} {names : List String}
    (hKeys : responses.Texts) (h : arrayResponses document responses = .ok names) :
    (names.map Key.str).Sublist (responses.map Prod.fst) := by
  rw [arrayResponses_eq_gather] at h
  induction responses generalizing names with
  | nil =>
    cases h
    exact .slnil
  | cons answer rest ih =>
    obtain ⟨hKey, hRest⟩ := List.forall_mem_cons.mp hKeys
    obtain ⟨s, hs⟩ := hKey
    obtain ⟨first, later, hFirst, hLater, rfl⟩ := gather_cons_eq_ok.mp h
    rw [arrayName, hs] at hFirst
    obtain ⟨isArray, -, hFirst⟩ := bind_eq_ok.mp hFirst
    rw [List.map_cons, hs]
    cases isArray with
    | false =>
      cases hFirst
      exact (ih hRest hLater).cons _
    | true =>
      cases hFirst
      exact (ih hRest hLater).cons_cons _

/-- Positions of late parameters are found in ascending order. -/
theorem lateRequired_sorted {document : Value} {parameters : List Value} {seen : Bool} {index : Nat}
    {positions : List Nat} (h : lateRequired document seen index parameters = .ok positions) :
    positions.Pairwise (· < ·) ∧ ∀ i ∈ positions, index ≤ i := by
  induction parameters generalizing seen index positions with
  | nil =>
    cases h
    exact ⟨.nil, fun _ hi => absurd hi List.not_mem_nil⟩
  | cons raw rest ih =>
    rw [lateRequired_cons] at h
    obtain ⟨parameter, -, h⟩ := bind_eq_ok.mp h
    have hLater : ∀ {seen positions}, lateRequired document seen (index + 1) rest = .ok positions →
        positions.Pairwise (· < ·) ∧ ∀ i ∈ positions, index < i := ih
    have hWeaken : ∀ {positions : List Nat}, (∀ i ∈ positions, index < i) →
        ∀ i ∈ positions, index ≤ i := fun hLess i hi => Nat.le_of_lt (hLess i hi)
    split at h
    · obtain ⟨hSorted, hLess⟩ := hLater h
      exact ⟨hSorted, hWeaken hLess⟩
    · split at h
      · obtain ⟨later, hRest, h⟩ := bind_eq_ok.mp h
        obtain ⟨hSorted, hLess⟩ := hLater hRest
        cases h
        split
        · refine ⟨List.pairwise_cons.mpr ⟨hLess, hSorted⟩, ?_⟩
          exact List.forall_mem_cons.mpr ⟨Nat.le_refl index, hWeaken hLess⟩
        · exact ⟨hSorted, hWeaken hLess⟩
      · obtain ⟨hSorted, hLess⟩ := hLater h
        exact ⟨hSorted, hWeaken hLess⟩

theorem place_parameter (op : Operation) (i : Nat) :
    op.place ["parameters"] ++ "[" ++ Decimal.ofNat i ++ "]" = op.locate (.parameter i) := by
  simp only [Operation.locate, Operation.place, Target.inner, Target.last, List.nil_append,
    String.intercalate_cons_cons, String.intercalate_singleton, String.append_assoc]

/-- What a rule finds are targets such as it aims at. -/
theorem targeted_places {document : Entries} {op : Operation} {rule : Rule} {places : List String}
    (h : rule.places document op = .ok places) : Targeted op rule places := by
  cases rule with
  | writeConsumes =>
    simp only [Rule.places] at h
    split at h
    · cases h
      exact targeted_nil op _
    · next hMethod =>
      obtain ⟨isMissing, -, h⟩ := bind_eq_ok.mp h
      cases h
      split
      · exact targeted_singleton (.writeConsumes (by tauto)) rfl
      · exact targeted_nil op _
  | readConsumes =>
    simp only [Rule.places] at h
    split at h
    · cases h
      exact targeted_nil op _
    · next hMethod =>
      split at h
      · cases h
        exact targeted_nil op _
      · cases h
        exact targeted_nil op _
      · cases h
        exact targeted_singleton (.readConsumes (not_not.mp hMethod)) rfl
  | produces =>
    simp only [Rule.places] at h
    split at h
    · cases h
      exact targeted_nil op _
    · obtain ⟨isMissing, -, h⟩ := bind_eq_ok.mp h
      cases h
      split
      · exact targeted_singleton .produces rfl
      · exact targeted_nil op _
  | operationId =>
    obtain ⟨presence, -, h⟩ := bind_eq_ok.mp h
    split at h
    · cases h
      exact targeted_nil op _
    · cases h
      exact targeted_singleton .operationId rfl
  | summary =>
    obtain ⟨presence, -, h⟩ := bind_eq_ok.mp h
    split at h
    · cases h
      exact targeted_nil op _
    · cases h
      exact targeted_singleton .summary rfl
  | arrayResponse =>
    rw [places_arrayResponse] at h
    split at h
    · cases h
      exact targeted_nil op _
    · next hMethod =>
      have hGet : op.method = "get" := not_not.mp hMethod
      obtain ⟨names, hNames, rfl⟩ := map_eq_ok.mp h
      refine ⟨names.map Target.answer, ?_, ?_, ?_⟩
      · rw [List.map_map]
        rfl
      · intro t ht
        obtain ⟨name, -, rfl⟩ := List.mem_map.mp ht
        exact .arrayResponse hGet name
      · intro hTexts hDistinct
        have hApart : (names.map Key.str).Pairwise Key.Apart :=
          hDistinct.sublist (arrayResponses_sublist (hTexts hGet) hNames)
        rw [List.pairwise_map] at hApart
        have hNodup : names.Nodup := hApart.imp Key.Apart.ne
        exact List.Nodup.map (fun _ _ h => Target.answer.inj h) hNodup
  | parameterOrder =>
    rw [places_parameterOrder] at h
    obtain ⟨positions, hPositions, rfl⟩ := map_eq_ok.mp h
    refine ⟨positions.map Target.parameter, ?_, ?_, ?_⟩
    · rw [List.map_map]
      exact List.map_congr_left fun i _ => place_parameter op i
    · intro t ht
      obtain ⟨i, -, rfl⟩ := List.mem_map.mp ht
      exact .parameterOrder i
    · intro _ _
      have hNodup : positions.Nodup := (lateRequired_sorted hPositions).1.imp Nat.ne_of_lt
      exact List.Nodup.map (fun _ _ h => Target.parameter.inj h) hNodup

end Rule

end ApiLint
