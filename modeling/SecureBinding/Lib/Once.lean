import Mathlib.Data.Option.Basic
import Mathlib.Logic.Function.Basic

/-!
# Lib.Once

Values that may be used once, for as long as the record of their use lives.

`insertNew` is the critical section of such a record: it drops the entries that no longer
live, and then refuses a key that is still there or records it. What callers rely on is that
a live entry refuses its key (`insertNew_refuses`) and outlasts the calls of others
(`insertNew_keeps`).

`AtMostOnce` is what this is for, with any number of calls and any notion of what two calls
have in common. It survives a new success if no earlier one has the same value
(`AtMostOnce.verdict`).
-/

namespace SecureBinding.Lib

/-! ### A record with entries that die -/

section Record

variable {K V : Type}

/-- The entries that live. -/
def sweep (live : V → Bool) (seen : K → Option V) (k : K) : Option V := (seen k).filter live

variable {live : V → Bool} {seen : K → Option V} {k key : K} {v w : V}

theorem sweep_eq_some_iff : sweep live seen k = some v ↔ seen k = some v ∧ live v = true := by
  simp [sweep, Option.filter_eq_some_iff]

variable [DecidableEq K]

/-- Record a key, unless it is there and lives. -/
def insertNew (live : V → Bool) (key : K) (v : V) (seen : K → Option V) : Bool × (K → Option V) :=
  if (sweep live seen key).isSome then (false, sweep live seen)
  else (true, Function.update (sweep live seen) key (some v))

theorem insertNew_cases (live : V → Bool) (key : K) (v : V) (seen : K → Option V) :
    (∃ w, sweep live seen key = some w ∧ insertNew live key v seen = (false, sweep live seen)) ∨
    (sweep live seen key = none ∧
      insertNew live key v seen = (true, Function.update (sweep live seen) key (some v))) := by
  unfold insertNew
  cases h : sweep live seen key with
  | none => exact .inr ⟨rfl, by simp⟩
  | some w => exact .inl ⟨w, rfl, by simp⟩

theorem insertNew_refuses (h : seen key = some w) (hlive : live w = true) :
    (insertNew live key v seen).1 = false := by
  have hkeep : sweep live seen key = some w := sweep_eq_some_iff.mpr ⟨h, hlive⟩
  simp [insertNew, hkeep]

theorem insertNew_records (h : (insertNew live key v seen).1 = true) :
    (insertNew live key v seen).2 key = some v := by
  obtain ⟨_, _, hnew⟩ | ⟨_, hnew⟩ := insertNew_cases live key v seen
  · simp [hnew] at h
  · simp [hnew]

theorem insertNew_keeps (h : seen k = some w) (hlive : live w = true) :
    (insertNew live key v seen).2 k = some w := by
  have hkeep : sweep live seen k = some w := sweep_eq_some_iff.mpr ⟨h, hlive⟩
  obtain ⟨_, _, hnew⟩ | ⟨hnone, hnew⟩ := insertNew_cases live key v seen
  · rw [hnew]
    exact hkeep
  · -- The key that is recorded was not there, so it is another one.
    have hne : k ≠ key := by
      intro heq
      rw [heq, hnone] at hkeep
      cases hkeep
    rw [hnew]
    simpa [Function.update_of_ne hne] using hkeep

end Record

/-! ### Calls that succeed at most once -/

section Calls

variable {ι κ : Type} {value : ι → κ} {succeeded succeeded' : ι → Prop} {i : ι} {fresh : Prop}

/-- Of the calls with the same value at most one has succeeded. -/
def AtMostOnce (value : ι → κ) (succeeded : ι → Prop) : Prop :=
  ∀ i j, succeeded i → succeeded j → value i = value j → i = j

/-- Call `i` gets its verdict: it succeeds only if no call with its value has before. -/
theorem AtMostOnce.verdict (h : AtMostOnce value succeeded)
    (hnew : ∀ j, succeeded' j → (j = i ∧ fresh) ∨ succeeded j)
    (hfre : fresh → ∀ j, succeeded j → value j ≠ value i) : AtMostOnce value succeeded' := by
  intro j k hj hk hsame
  obtain ⟨rfl, hf⟩ | hj := hnew j hj
  · obtain ⟨rfl, -⟩ | hk := hnew k hk
    · rfl
    · exact absurd hsame.symm (hfre hf k hk)
  · obtain ⟨rfl, hf⟩ | hk := hnew k hk
    · exact absurd hsame (hfre hf j hj)
    · exact h j k hj hk hsame

end Calls

end SecureBinding.Lib
