import Mathlib.Init

/-!
# Lib.Lockstep

Two machines that are fed the same inputs.

A machine answers every input and moves on. Two machines whose states are related give
the same answers for as long as each input meets a condition, and no longer:
`outputs_eq_iff_along` lifts this from one input to all lists of inputs.
-/

namespace SecureBinding.Lib

variable {S T A B : Type}

/-- The answers of a machine to a list of inputs. -/
def outputs (step : S → A → B × S) : S → List A → List B
  | _, [] => []
  | s, a :: as => (step s a).1 :: outputs step (step s a).2 as

/-- Every input meets `cond` in the state in which the machine receives it. -/
def Along (step : S → A → B × S) (cond : S → A → Prop) : S → List A → Prop
  | _, [] => True
  | s, a :: as => cond s a ∧ Along step cond (step s a).2 as

instance decidableAlong (step : S → A → B × S) (cond : S → A → Prop)
    [∀ s a, Decidable (cond s a)] : ∀ s as, Decidable (Along step cond s as)
  | _, [] => isTrue trivial
  | s, a :: as =>
    have := decidableAlong step cond (step s a).2 as
    inferInstanceAs (Decidable (cond s a ∧ Along step cond (step s a).2 as))

variable {step : S → A → B × S} {step' : T → A → B × T} {valid cond : S → A → Prop}

/-- Related machines answer a list of valid inputs alike exactly if every input meets the
condition under which they answer that input alike. -/
theorem outputs_eq_iff_along (rel : S → T → Prop)
    (hanswer : ∀ {s t a}, rel s t → valid s a → ((step s a).1 = (step' t a).1 ↔ cond s a))
    (hrel : ∀ {s t a}, rel s t → valid s a → cond s a → rel (step s a).2 (step' t a).2) :
    ∀ {as : List A} {s : S} {t : T}, rel s t → Along step valid s as →
      (outputs step s as = outputs step' t as ↔ Along step cond s as) := by
  intro as
  induction as with
  | nil =>
    intro s t _ _
    simp [outputs, Along]
  | cons a as ih =>
    intro s t hst hval
    simp only [outputs, Along, List.cons.injEq]
    rw [hanswer hst hval.1]
    constructor
    · intro h
      exact ⟨h.1, (ih (hrel hst hval.1 h.1) hval.2).mp h.2⟩
    · intro h
      exact ⟨h.1, (ih (hrel hst hval.1 h.1) hval.2).mpr h.2⟩

end SecureBinding.Lib
