import ApiLint.Lint
import Mathlib.Data.List.Forall2

/-!
# Outcomes of steps that can fail

When a chain of steps, a traversal or a fold has a result, and what the result is.

* `bind_eq_ok`, `map_eq_ok` and `bind_eq_error` take a result apart into the results of the steps;
* `gather` joins the results of a step for the elements of a list, and `foldlM_eq_gather` turns a
  fold that adds them one after the other into one addition;
* `Completes` is having a result, with the same laws.
-/

namespace ApiLint.Outcome

variable {ε α β γ : Type}

-- ---------------------------------------------------------------------------
-- Results
-- ---------------------------------------------------------------------------

theorem bind_eq_ok {x : Except ε α} {f : α → Except ε β} {b : β} :
    x >>= f = .ok b ↔ ∃ a, x = .ok a ∧ f a = .ok b := by
  cases x with
  | error e => simp [bind, Except.bind]
  | ok a => simp [bind, Except.bind]

theorem map_eq_ok {x : Except ε α} {f : α → β} {b : β} :
    f <$> x = .ok b ↔ ∃ a, x = .ok a ∧ f a = b := by
  cases x with
  | error e => simp [Functor.map, Except.map]
  | ok a => simp [Functor.map, Except.map]

/-- A traversal has a result exactly if the step has one for every element. -/
theorem mapM_eq_ok {f : α → Except ε β} {l : List α} {l' : List β} :
    l.mapM f = .ok l' ↔ List.Forall₂ (fun x y => f x = .ok y) l l' := by
  induction l generalizing l' with
  | nil => simp [pure, Except.pure, eq_comm]
  | cons x xs ih =>
    rw [List.mapM_cons, bind_eq_ok, List.forall₂_cons_left_iff]
    simp only [bind_eq_ok, ih, pure, Except.pure, Except.ok.injEq]
    constructor
    · rintro ⟨y, hy, ys, hys, rfl⟩
      exact ⟨y, ys, hy, hys, rfl⟩
    · rintro ⟨y, ys, hy, hys, rfl⟩
      exact ⟨y, hy, ys, hys, rfl⟩

theorem pure_eq_ok {a b : α} : (pure a : Except ε α) = .ok b ↔ a = b := by
  simp [pure, Except.pure]

theorem eq_ok_of_toOption {x : Except ε α} {a : α} (h : x.toOption = some a) : x = .ok a := by
  cases x with
  | error e => cases h
  | ok b =>
    cases h
    rfl

/-- A chain of steps breaks off at the first one that fails. -/
theorem bind_eq_error {x : Except ε α} {f : α → Except ε β} {e : ε} :
    x >>= f = .error e ↔ x = .error e ∨ ∃ a, x = .ok a ∧ f a = .error e := by
  cases x with
  | error e' => simp [bind, Except.bind]
  | ok a => simp [bind, Except.bind]

theorem pure_ne_error {a : α} {e : ε} : (pure a : Except ε α) ≠ .error e := by
  simp [pure, Except.pure]

theorem mapError_eq_ok {ε' : Type} {x : Except ε α} {f : ε → ε'} {a : α} :
    x.mapError f = .ok a ↔ x = .ok a := by
  cases x with
  | error e => simp [Except.mapError]
  | ok a' => simp [Except.mapError]

theorem mapError_eq_error {ε' : Type} {x : Except ε α} {f : ε → ε'} {e : ε'} :
    x.mapError f = .error e ↔ ∃ e', x = .error e' ∧ f e' = e := by
  cases x with
  | error e' => simp [Except.mapError]
  | ok a => simp [Except.mapError]

-- ---------------------------------------------------------------------------
-- Joined results
-- ---------------------------------------------------------------------------

/-- The results for the elements of a list, joined. -/
def gather (f : α → Except ε (List β)) (l : List α) : Except ε (List β) := List.flatten <$> l.mapM f

theorem gather_cons (f : α → Except ε (List β)) (x : α) (xs : List α) :
    gather f (x :: xs) = do
      let ys ← f x
      let zs ← gather f xs
      return ys ++ zs := by
  rw [gather, gather, List.mapM_cons]
  cases f x with
  | error e => rfl
  | ok ys => cases xs.mapM f <;> rfl

theorem append_eq_ok {x y : Except ε (List β)} {bs : List β} :
    (do let ys ← x; let zs ← y; return ys ++ zs) = .ok bs ↔
      ∃ ys zs, x = .ok ys ∧ y = .ok zs ∧ ys ++ zs = bs := by
  rw [bind_eq_ok]
  constructor
  · rintro ⟨ys, hys, h⟩
    obtain ⟨zs, hzs, h⟩ := bind_eq_ok.mp h
    exact ⟨ys, zs, hys, hzs, pure_eq_ok.mp h⟩
  · rintro ⟨ys, zs, hys, hzs, h⟩
    exact ⟨ys, hys, bind_eq_ok.mpr ⟨zs, hzs, pure_eq_ok.mpr h⟩⟩

theorem gather_cons_eq_ok {f : α → Except ε (List β)} {x : α} {xs : List α} {bs : List β} :
    gather f (x :: xs) = .ok bs ↔
      ∃ ys zs, f x = .ok ys ∧ gather f xs = .ok zs ∧ ys ++ zs = bs := by
  rw [gather_cons, append_eq_ok]

theorem gather_append (f : α → Except ε (List β)) (l l' : List α) :
    gather f (l ++ l') = do
      let ys ← gather f l
      let zs ← gather f l'
      return ys ++ zs := by
  induction l with
  | nil => exact (bind_pure (gather f l')).symm
  | cons x xs ih =>
    rw [List.cons_append, gather_cons, gather_cons, ih]
    cases f x with
    | error e => rfl
    | ok ys =>
      cases gather f xs with
      | error e => rfl
      | ok zs =>
        cases gather f l' with
        | error e => rfl
        | ok ws => exact congrArg Except.ok (List.append_assoc ys zs ws).symm

theorem gather_append_eq_ok {f : α → Except ε (List β)} {l l' : List α} {bs : List β} :
    gather f (l ++ l') = .ok bs ↔
      ∃ ys zs, gather f l = .ok ys ∧ gather f l' = .ok zs ∧ ys ++ zs = bs := by
  rw [gather_append, append_eq_ok]

theorem gather_map (f : β → Except ε (List γ)) (g : α → β) (l : List α) :
    gather f (l.map g) = gather (fun x => f (g x)) l := by
  induction l with
  | nil => rfl
  | cons x xs ih => rw [List.map_cons, gather_cons, gather_cons, ih]

/-- Numbering the elements makes no difference to a step that does not look at the numbers. -/
theorem gather_zipIdx (f : α → Except ε (List β)) (l : List α) (n : Nat) :
    gather (fun p => f p.1) (l.zipIdx n) = gather f l := by
  rw [← gather_map f Prod.fst, List.zipIdx_map_fst]

theorem gather_flatMap (f : β → Except ε (List γ)) (g : α → List β) (l : List α) :
    gather f (l.flatMap g) = gather (fun x => gather f (g x)) l := by
  induction l with
  | nil => rfl
  | cons x xs ih => rw [List.flatMap_cons, gather_append, gather_cons, ih]

/-- Elements without an image add nothing. -/
theorem gather_filterMap (f : β → Except ε (List γ)) (g : α → Option β) (l : List α) :
    gather f (l.filterMap g) = gather (fun x => (g x).elim (.ok []) f) l := by
  induction l with
  | nil => rfl
  | cons x xs ih =>
    rw [gather_cons, ← ih]
    cases hx : g x with
    | none =>
      rw [List.filterMap_cons_none hx]
      cases gather f (xs.filterMap g) <;> rfl
    | some y => rw [List.filterMap_cons_some hx, gather_cons, Option.elim_some]

/-- What is done to all results in the end can be done to each of them at once. -/
theorem map_gather (h : β → γ) (f : α → Except ε (List β)) (l : List α) :
    List.map h <$> gather f l = gather (fun x => List.map h <$> f x) l := by
  induction l with
  | nil => rfl
  | cons x xs ih =>
    rw [gather_cons, gather_cons, ← ih]
    cases f x with
    | error e => rfl
    | ok ys =>
      cases gather f xs with
      | error e => rfl
      | ok zs => exact congrArg Except.ok List.map_append

/-- What is gathered comes from the result for one of the elements. -/
theorem mem_of_gather {f : α → Except ε (List β)} {l : List α} {bs : List β}
    (h : gather f l = .ok bs) : ∀ b ∈ bs, ∃ x ∈ l, ∃ ys, f x = .ok ys ∧ b ∈ ys := by
  induction l generalizing bs with
  | nil =>
    cases h
    intro b hb
    cases hb
  | cons x xs ih =>
    obtain ⟨ys, zs, hys, hzs, rfl⟩ := gather_cons_eq_ok.mp h
    intro b hb
    rcases List.mem_append.mp hb with hb | hb
    · exact ⟨x, List.mem_cons_self, ys, hys, hb⟩
    · obtain ⟨x', hx', hb⟩ := ih hzs b hb
      exact ⟨x', List.mem_cons_of_mem x hx', hb⟩

/-- The result for each of the elements is part of what is gathered. -/
theorem ok_of_gather {f : α → Except ε (List β)} {l : List α} {bs : List β}
    (h : gather f l = .ok bs) : ∀ x ∈ l, ∃ ys, f x = .ok ys ∧ ∀ y ∈ ys, y ∈ bs := by
  induction l generalizing bs with
  | nil =>
    intro x hx
    cases hx
  | cons x xs ih =>
    obtain ⟨ys, zs, hys, hzs, rfl⟩ := gather_cons_eq_ok.mp h
    intro x' hx'
    rcases List.mem_cons.mp hx' with rfl | hx'
    · exact ⟨ys, hys, fun y hy => List.mem_append_left zs hy⟩
    · obtain ⟨ys', hys', hMem⟩ := ih hzs x' hx'
      exact ⟨ys', hys', fun y hy => List.mem_append_right ys (hMem y hy)⟩

/-- What is gathered is pairwise related if the results for each element are, and those for any two
elements are related to each other. -/
theorem pairwise_gather {r : β → β → Prop} {f : α → Except ε (List β)} {l : List α} {bs : List β}
    (h : gather f l = .ok bs) (hEach : ∀ x ∈ l, ∀ ys, f x = .ok ys → ys.Pairwise r)
    (hPairs : l.Pairwise fun x x' => ∀ ys ys', f x = .ok ys → f x' = .ok ys' →
      ∀ y ∈ ys, ∀ y' ∈ ys', r y y') : bs.Pairwise r := by
  induction l generalizing bs with
  | nil =>
    cases h
    exact .nil
  | cons x xs ih =>
    obtain ⟨ys, zs, hys, hzs, rfl⟩ := gather_cons_eq_ok.mp h
    obtain ⟨hFirst, hRest⟩ := List.forall_mem_cons.mp hEach
    obtain ⟨hHead, hTail⟩ := List.pairwise_cons.mp hPairs
    refine List.pairwise_append.mpr ⟨hFirst ys hys, ih hzs hRest hTail, ?_⟩
    intro y hy z hz
    obtain ⟨x', hx', ys', hys', hz⟩ := mem_of_gather hzs z hz
    exact hHead x' hx' ys ys' hys hys' y hy z hz

theorem gather_congr {f g : α → Except ε (List β)} {l : List α} (h : ∀ x ∈ l, f x = g x) :
    gather f l = gather g l := by
  induction l with
  | nil => rfl
  | cons x xs ih =>
    rw [List.forall_mem_cons] at h
    rw [gather_cons, gather_cons, h.1, ih h.2]

/-- Steps that give the same for related elements gather the same. -/
theorem gather_forall₂ {α' : Type} {f : α → Except ε (List β)} {g : α' → Except ε (List β)}
    {l : List α} {l' : List α'} (h : List.Forall₂ (fun x y => f x = g y) l l') :
    gather f l = gather g l' := by
  induction h with
  | nil => rfl
  | cons hHead _ ih => rw [gather_cons, gather_cons, hHead, ih]

/-- A step that keeps a part of what another step gives gathers that part. -/
theorem gather_filter {f g : α → Except ε (List β)} {keep : β → Bool} {l : List α} {bs : List β}
    (hl : gather f l = .ok bs)
    (hfg : ∀ x ∈ l, ∀ ys, f x = .ok ys → g x = .ok (ys.filter keep)) :
    gather g l = .ok (bs.filter keep) := by
  induction l generalizing bs with
  | nil =>
    cases hl
    rfl
  | cons x xs ih =>
    rw [List.forall_mem_cons] at hfg
    obtain ⟨ys, zs, hys, hzs, rfl⟩ := gather_cons_eq_ok.mp hl
    rw [List.filter_append]
    exact gather_cons_eq_ok.mpr ⟨_, _, hfg.1 ys hys, ih hzs hfg.2, rfl⟩

/-- A fold that adds the result of a step for every element adds the joined results. -/
theorem foldlM_eq_gather {f : α → Except ε (List β)} {add : γ → List β → γ}
    (hNil : ∀ acc, add acc [] = acc)
    (hAppend : ∀ acc ys zs, add acc (ys ++ zs) = add (add acc ys) zs) (l : List α) (init : γ) :
    l.foldlM (fun acc x => add acc <$> f x) init = add init <$> gather f l := by
  induction l generalizing init with
  | nil => exact congrArg Except.ok (hNil init).symm
  | cons x xs ih =>
    rw [List.foldlM_cons, gather_cons]
    cases f x with
    | error e => rfl
    | ok ys =>
      show xs.foldlM (fun acc x => add acc <$> f x) (add init ys) = _
      rw [ih]
      cases gather f xs with
      | error e => rfl
      | ok zs => exact congrArg Except.ok (hAppend init ys zs).symm

-- ---------------------------------------------------------------------------
-- Completion
-- ---------------------------------------------------------------------------

/-- Having a result. -/
def Completes (x : Except ε α) : Prop := ∃ a, x = .ok a

@[simp] theorem completes_ok (a : α) : Completes (.ok a : Except ε α) := ⟨a, rfl⟩

instance (x : Except ε α) : Decidable (Completes x) :=
  match x with
  | .ok a => isTrue ⟨a, rfl⟩
  | .error _ => isFalse fun h => nomatch h

@[simp] theorem completes_pure (a : α) : Completes (pure a : Except ε α) := ⟨a, rfl⟩

@[simp] theorem not_completes_error (e : ε) : ¬ Completes (.error e : Except ε α) := by
  rintro ⟨a, h⟩
  cases h

theorem completes_bind {x : Except ε α} {f : α → Except ε β} :
    Completes (x >>= f) ↔ ∃ a, x = .ok a ∧ Completes (f a) := by
  constructor
  · rintro ⟨b, h⟩
    obtain ⟨a, ha, hb⟩ := bind_eq_ok.mp h
    exact ⟨a, ha, b, hb⟩
  · rintro ⟨a, ha, b, hb⟩
    exact ⟨b, bind_eq_ok.mpr ⟨a, ha, hb⟩⟩

@[simp] theorem completes_map {x : Except ε α} {f : α → β} :
    Completes (f <$> x) ↔ Completes x := by
  constructor
  · rintro ⟨b, h⟩
    obtain ⟨a, ha, -⟩ := map_eq_ok.mp h
    exact ⟨a, ha⟩
  · rintro ⟨a, ha⟩
    exact ⟨f a, map_eq_ok.mpr ⟨a, ha, rfl⟩⟩

/-- What follows a step does not matter if it always completes. -/
theorem completes_bind_of_forall {x : Except ε α} {f : α → Except ε β}
    (h : ∀ a, Completes (f a)) : Completes (x >>= f) ↔ Completes x := by
  rw [completes_bind]
  constructor
  · rintro ⟨a, ha, -⟩
    exact ⟨a, ha⟩
  · rintro ⟨a, ha⟩
    exact ⟨a, ha, h a⟩

/-- A step that is passed over under a condition has to complete only otherwise. -/
theorem completes_ite_pure {p : Prop} [Decidable p] {a : α} {x : Except ε α} :
    Completes (if p then pure a else x) ↔ (¬ p → Completes x) := by
  by_cases h : p
  · rw [if_pos h]
    exact ⟨fun _ hNot => absurd h hNot, fun _ => completes_pure a⟩
  · rw [if_neg h]
    exact ⟨fun hx _ => hx, fun hx => hx h⟩

/-- Two steps that do not depend on each other complete together exactly if both do. -/
theorem completes_both {x : Except ε α} {y : Except ε β} {f : α → β → γ} :
    Completes (do let a ← x; let b ← y; return f a b) ↔ Completes x ∧ Completes y := by
  rw [completes_bind]
  constructor
  · rintro ⟨a, ha, h⟩
    obtain ⟨b, hb, -⟩ := completes_bind.mp h
    exact ⟨⟨a, ha⟩, b, hb⟩
  · rintro ⟨⟨a, ha⟩, b, hb⟩
    exact ⟨a, ha, completes_bind.mpr ⟨b, hb, completes_pure _⟩⟩

/-- A traversal completes exactly if the step does for every element. -/
theorem completes_mapM {f : α → Except ε β} {l : List α} :
    Completes (l.mapM f) ↔ ∀ x ∈ l, Completes (f x) := by
  induction l with
  | nil => simp
  | cons x xs ih =>
    rw [List.mapM_cons, List.forall_mem_cons, ← ih]
    exact completes_both

theorem completes_gather {f : α → Except ε (List β)} {l : List α} :
    Completes (gather f l) ↔ ∀ x ∈ l, Completes (f x) := by
  rw [gather, completes_map, completes_mapM]

end ApiLint.Outcome
