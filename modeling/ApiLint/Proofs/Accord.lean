import ApiLint.Proofs.Outcome
import Mathlib.Data.List.Forall2

/-!
# Outcomes that agree

Two runs agree if both fail or if both have a result and the results are related. Why they fail does
not matter.

* `Comparison` — whether two lists are compared with or without regard to order;
* `Accord` — outcomes that agree;
* `accord_gather` — related lists with steps that agree gather results that agree, and
  `accord_gather_perm` — so does one step on a list in another order.
-/

namespace ApiLint

-- ---------------------------------------------------------------------------
-- Comparing lists
-- ---------------------------------------------------------------------------

/-- How two lists are compared. -/
inductive Comparison
  /-- Item by item. -/
  | exact
  /-- Without regard to order. -/
  | unordered

namespace Comparison

variable {α β : Type} (c : Comparison)

/-- Whether two lists have the same items. -/
def Same (l l' : List α) : Prop :=
  match c with
  | exact => l = l'
  | unordered => l.Perm l'

theorem same_refl (l : List α) : c.Same l l := by
  cases c with
  | exact => exact rfl
  | unordered => exact .refl l

variable {c}

theorem same_append {l₁ l₁' l₂ l₂' : List α} (h₁ : c.Same l₁ l₁') (h₂ : c.Same l₂ l₂') :
    c.Same (l₁ ++ l₂) (l₁' ++ l₂') := by
  cases c with
  | exact =>
    cases h₁
    cases h₂
    exact rfl
  | unordered => exact List.Perm.append h₁ h₂

theorem same_map {l l' : List α} (f : α → β) (h : c.Same l l') : c.Same (l.map f) (l'.map f) := by
  cases c with
  | exact => exact congrArg (List.map f) h
  | unordered => exact List.Perm.map f h

theorem same_filter {l l' : List α} (p : α → Bool) (h : c.Same l l') :
    c.Same (l.filter p) (l'.filter p) := by
  cases c with
  | exact => exact congrArg (List.filter p) h
  | unordered => exact List.Perm.filter p h

end Comparison

-- ---------------------------------------------------------------------------
-- Agreement
-- ---------------------------------------------------------------------------

namespace Outcome

variable {ε α α' β β' : Type}

/-- Outcomes that agree: both are faults, or both are results and related. -/
inductive Accord (r : α → β → Prop) : Except ε α → Except ε β → Prop
  | ok {a : α} {b : β} (h : r a b) : Accord r (.ok a) (.ok b)
  | error (e f : ε) : Accord r (.error e) (.error f)

namespace Accord

variable {r : α → β → Prop} {r' : α' → β' → Prop} {x : Except ε α} {y : Except ε β}

theorem refl {r : α → α → Prop} (h : ∀ a, r a a) (x : Except ε α) : Accord r x x := by
  cases x with
  | error e => exact .error e e
  | ok a => exact .ok (h a)

theorem completes_iff (h : Accord r x y) : Completes x ↔ Completes y := by
  cases h with
  | ok => simp
  | error => simp

theorem of_ok (h : Accord r x y) {a : α} {b : β} (hx : x = .ok a) (hy : y = .ok b) : r a b := by
  cases h with
  | ok h =>
    cases hx
    cases hy
    exact h
  | error => cases hx

theorem mono {s : α → β → Prop} (h : Accord r x y) (hrs : ∀ a b, r a b → s a b) : Accord s x y := by
  cases h with
  | ok h => exact .ok (hrs _ _ h)
  | error e f => exact .error e f

theorem eq_ok_iff {y : Except ε α} (h : Accord Eq x y) {a : α} : x = .ok a ↔ y = .ok a := by
  cases h with
  | ok h =>
    cases h
    exact Iff.rfl
  | error => simp

theorem map (h : Accord r x y) {f : α → α'} {g : β → β'} (hfg : ∀ a b, r a b → r' (f a) (g b)) :
    Accord r' (f <$> x) (g <$> y) := by
  cases h with
  | ok h => exact .ok (hfg _ _ h)
  | error e f => exact .error e f

theorem bind (h : Accord r x y) {f : α → Except ε α'} {g : β → Except ε β'}
    (hfg : ∀ a b, r a b → Accord r' (f a) (g b)) : Accord r' (x >>= f) (y >>= g) := by
  cases h with
  | ok h => exact hfg _ _ h
  | error e f => exact .error e f

theorem trans {z : Except ε β'} {s : β → β' → Prop} {t : α → β' → Prop} (h : Accord r x y)
    (h' : Accord s y z) (hrs : ∀ a b b', r a b → s b b' → t a b') : Accord t x z := by
  cases h with
  | ok hab =>
    cases h' with
    | ok hbb' => exact .ok (hrs _ _ _ hab hbb')
  | error e f =>
    cases h' with
    | error _ f' => exact .error e f'

/-- Outcomes of which each completes if the other one does agree if results that occur are
related. -/
theorem of_completes_iff (h : Completes x ↔ Completes y)
    (hr : ∀ a b, x = .ok a → y = .ok b → r a b) : Accord r x y := by
  cases x with
  | error e =>
    cases y with
    | error f => exact .error e f
    | ok b => exact absurd (h.mpr (completes_ok b)) (not_completes_error e)
  | ok a =>
    cases y with
    | error f => exact absurd (h.mp (completes_ok a)) (not_completes_error f)
    | ok b => exact .ok (hr a b rfl rfl)

end Accord

-- ---------------------------------------------------------------------------
-- Joined results
-- ---------------------------------------------------------------------------

theorem accord_append {c : Comparison} {x x' y y' : Except ε (List β)} (h : Accord c.Same x x')
    (h' : Accord c.Same y y') :
    Accord c.Same (do let a ← x; let b ← y; return a ++ b)
      (do let a ← x'; let b ← y'; return a ++ b) := by
  apply h.bind
  intro a a' ha
  apply h'.bind
  intro b b' hb
  exact .ok (Comparison.same_append ha hb)

/-- Steps that agree on related elements gather results that agree. -/
theorem accord_gather {c : Comparison} {f : α → Except ε (List β)} {g : α' → Except ε (List β)}
    {l : List α} {l' : List α'}
    (h : List.Forall₂ (fun x y => Accord c.Same (f x) (g y)) l l') :
    Accord c.Same (gather f l) (gather g l') := by
  induction h with
  | nil => exact .ok (c.same_refl [])
  | cons hHead _ ih =>
    rw [gather_cons, gather_cons]
    exact accord_append hHead ih

/-- A step gathers the same results from a list in another order. -/
theorem accord_gather_perm {l l' : List α} (f : α → Except ε (List β)) (h : l.Perm l') :
    Accord Comparison.unordered.Same (gather f l) (gather f l') := by
  induction h with
  | nil => exact .ok (List.Perm.refl [])
  | cons x _ ih =>
    rw [gather_cons, gather_cons]
    exact accord_append (.refl Comparison.unordered.same_refl _) ih
  | swap x y l =>
    rw [gather_cons, gather_cons, gather_cons, gather_cons]
    -- whichever step fails, both orders fail, though perhaps not in the same way
    cases f x with
    | error e => cases f y <;> exact .error _ _
    | ok xs =>
      cases f y with
      | error e => exact .error _ _
      | ok ys =>
        cases gather f l with
        | error e => exact .error _ _
        | ok zs =>
          refine .ok ?_
          show (ys ++ (xs ++ zs)).Perm (xs ++ (ys ++ zs))
          rw [← List.append_assoc, ← List.append_assoc]
          exact List.Perm.append_right zs List.perm_append_comm
  | trans _ _ ih₁ ih₂ => exact ih₁.trans ih₂ fun _ _ _ => List.Perm.trans

end Outcome

end ApiLint
