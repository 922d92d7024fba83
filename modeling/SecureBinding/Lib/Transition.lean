import Mathlib.Logic.Function.Basic

/-!
# Lib.Transition

Runs of a state machine given by an executable step function: `step s a` is the
state after action `a` in state `s`, or `none` if `a` is not enabled there.

`invariant_of_run` is the induction every property of whole runs uses: what each
step preserves, a run preserves. A run may be restricted by a *guard*, a condition
on the state before a step and the action taken; `Guarded` says that all its steps
meet it.

The state of a party among many is a value of a family that its steps update; `of_update`
says what can hold of a party after the step of another one.
-/

namespace SecureBinding.Lib

variable {S A : Type} (step : S → A → Option S)

/-- The state after a list of actions, if all of them are enabled in turn. -/
def run : S → List A → Option S
  | s, [] => some s
  | s, a :: as => (step s a).bind fun s' => run s' as

/-- Every step of a run meets the guard in the state it is taken in. -/
def Guarded (guard : S → A → Prop) : S → List A → Prop
  | _, [] => True
  | s, a :: as => guard s a ∧ ∀ s', step s a = some s' → Guarded guard s' as

/-- `t` is reached from `s` by some run. -/
def Reaches (s t : S) : Prop := ∃ as, run step s as = some t

variable {step} {guard : S → A → Prop} {s t u : S} {a : A} {as bs : List A}

/-- What an action does that is enabled under a condition. -/
theorem enabled_iff {p : Prop} [Decidable p] {s t : S} :
    (if p then some s else none) = some t ↔ p ∧ s = t := by
  rw [Option.ite_none_right_eq_some, Option.some.injEq]

@[simp] theorem run_nil : run step s [] = some s := rfl

theorem run_cons_eq_some_iff :
    run step s (a :: as) = some t ↔ ∃ u, step s a = some u ∧ run step u as = some t := by
  simp [run, Option.bind_eq_some_iff]

theorem Guarded.mono {guard' : S → A → Prop} (h : Guarded step guard s as)
    (himp : ∀ s a, guard s a → guard' s a) : Guarded step guard' s as := by
  induction as generalizing s with
  | nil => trivial
  | cons a as ih => exact ⟨himp s a h.1, fun u hu => ih (h.2 u hu)⟩

/-- An invariant that every guarded step preserves holds after every guarded run. -/
theorem invariant_of_run {inv : S → Prop}
    (hstep : ∀ {s a t}, inv s → guard s a → step s a = some t → inv t)
    (hs : inv s) (hg : Guarded step guard s as) (hrun : run step s as = some t) : inv t := by
  induction as generalizing s with
  | nil =>
    obtain rfl : s = t := by simpa using hrun
    exact hs
  | cons a as ih =>
    obtain ⟨u, hu, hrest⟩ := run_cons_eq_some_iff.mp hrun
    exact ih (hstep hs hg.1 hu) (hg.2 u hu) hrest

theorem guarded_cons_of_step_eq_none (h : step s a = none) :
    Guarded step guard s (a :: as) ↔ guard s a := by
  simp [Guarded, h]

theorem guarded_cons_of_step_eq_some (h : step s a = some t) :
    Guarded step guard s (a :: as) ↔ guard s a ∧ Guarded step guard t as := by
  simp [Guarded, h]

instance decidableGuarded [∀ s a, Decidable (guard s a)] :
    ∀ s as, Decidable (Guarded step guard s as)
  | _, [] => isTrue trivial
  | s, a :: as =>
    match h : step s a with
    | none => decidable_of_iff _ (guarded_cons_of_step_eq_none h).symm
    | some t =>
      have := decidableGuarded t as
      decidable_of_iff _ (guarded_cons_of_step_eq_some h).symm

theorem guarded_true : Guarded step (fun _ _ => True) s as := by
  induction as generalizing s with
  | nil => trivial
  | cons a as ih => exact ⟨trivial, fun _ _ => ih⟩

theorem guarded_mem (h : as ⊆ bs) : Guarded step (fun _ a => a ∈ bs) s as := by
  induction as generalizing s with
  | nil => trivial
  | cons a as ih => exact ⟨h (by simp), fun _ _ => ih (List.subset_of_cons_subset h)⟩

/-- Without a guard: what every step preserves holds in every reached state. -/
theorem invariant_of_reaches {inv : S → Prop} (hstep : ∀ {s a t}, inv s → step s a = some t → inv t)
    (hs : inv s) (h : Reaches step s t) : inv t := by
  obtain ⟨as, hrun⟩ := h
  exact invariant_of_run (fun hs _ => hstep hs) hs guarded_true hrun

@[refl] theorem Reaches.refl : Reaches step s s := ⟨[], rfl⟩

theorem Reaches.head (h : step s a = some t) (ht : Reaches step t u) : Reaches step s u := by
  obtain ⟨as, hrun⟩ := ht
  exact ⟨a :: as, run_cons_eq_some_iff.mpr ⟨t, h, hrun⟩⟩

/-! ### One party among many -/

section Parties

variable {ι α : Type} [DecidableEq ι] {p : α → Prop} {f : ι → α} {i j : ι} {x : α}

/-- What holds of a party after a change at `i` held before, or holds of the new value. -/
theorem of_update (h : p (Function.update f i x j)) : (j = i ∧ p x) ∨ p (f j) := by
  by_cases hj : j = i
  · subst hj
    exact .inl ⟨rfl, by simpa using h⟩
  · exact .inr (by simpa [Function.update_of_ne hj] using h)

theorem of_update_of_not (hx : ¬p x) (h : p (Function.update f i x j)) : p (f j) := by
  obtain ⟨-, h⟩ | h := of_update h
  · exact absurd h hx
  · exact h

end Parties

end SecureBinding.Lib
