import SecureBinding.Lib.Transition

/-!
# Lib.Fair

Infinite schedules of a state machine, fairness, and what leads to what.

Fairness is a premise about a schedule and no part of the step function: a schedule is
*weakly fair* to a set of actions if it does not ignore them for ever while one of them
is enabled all the time, and *strongly fair* if it does not while one of them is enabled again
and again, as that of a party that waits for a mutex. `leadsTo_of_ensures` and
`leadsTo_of_stronglyFair` are the rules that all liveness proofs rest on. Their premises are about
the steps of the schedule, so that a guard the schedule is known to meet can be used in them.
-/

namespace SecureBinding.Lib

variable {S A : Type} {step : S → A → Option S}

structure Schedule (step : S → A → Option S) where
  state : Nat → S
  action : Nat → A
  next : ∀ n, step (state n) (action n) = some (state (n + 1))

namespace Schedule

/-- An action of the set is enabled. -/
def Enabled (step : S → A → Option S) (helpful : A → Prop) (s : S) : Prop :=
  ∃ a, helpful a ∧ (step s a).isSome = true

/-- If from some time on always one of the actions is enabled, one of them is taken. -/
def WeaklyFair (r : Schedule step) (helpful : A → Prop) : Prop :=
  ∀ n, (∀ m, n ≤ m → Enabled step helpful (r.state m)) → ∃ m, n ≤ m ∧ helpful (r.action m)

/-- If from some time on again and again one of the actions is enabled, one of them is taken. -/
def StronglyFair (r : Schedule step) (helpful : A → Prop) : Prop :=
  ∀ n, (∀ m, n ≤ m → ∃ k, m ≤ k ∧ Enabled step helpful (r.state k)) →
    ∃ m, n ≤ m ∧ helpful (r.action m)

/-- Whenever `p` holds, `q` holds then or later. -/
def LeadsTo (r : Schedule step) (p q : S → Prop) : Prop :=
  ∀ n, p (r.state n) → ∃ m, n ≤ m ∧ q (r.state m)

variable {r : Schedule step} {helpful : A → Prop} {p q q' : S → Prop}

variable {n : Nat} {rest : A} {as : List A} {s t : S}

theorem next_of_action {a : A} (h : r.action n = a) :
    step (r.state n) a = some (r.state (n + 1)) := by
  rw [← h]
  exact r.next n

theorem StronglyFair.weaklyFair (h : r.StronglyFair helpful) : r.WeaklyFair helpful :=
  fun n hall => h n fun m hnm => ⟨m, Nat.le_refl m, hall m hnm⟩

theorem LeadsTo.of_imp (h : ∀ n, p (r.state n) → q (r.state n)) : r.LeadsTo p q :=
  fun n hp => ⟨n, Nat.le_refl n, h n hp⟩

theorem LeadsTo.or {p' : S → Prop} (hp : r.LeadsTo p q) (hp' : r.LeadsTo p' q) :
    r.LeadsTo (fun s => p s ∨ p' s) q := by
  intro n h
  obtain h | h := h
  · exact hp n h
  · exact hp' n h

theorem LeadsTo.trans (hpq : r.LeadsTo p q) (hq : r.LeadsTo q q') : r.LeadsTo p q' := by
  intro n hp
  obtain ⟨m, hnm, hm⟩ := hpq n hp
  obtain ⟨k, hmk, hk⟩ := hq m hm
  exact ⟨k, Nat.le_trans hnm hmk, hk⟩

/-- What every step of the schedule keeps holds from then on. -/
theorem holds_from (hkeep : ∀ n, p (r.state n) → p (r.state (n + 1))) {m : Nat}
    (hnm : n ≤ m) (hp : p (r.state n)) : p (r.state m) := by
  induction hnm with
  | refl => exact hp
  | step _ ih => exact hkeep _ ih

/-- What the actions outside of a set keep, or else they bring about `q`, holds for ever if `q`
never does and no action of the set is taken. -/
theorem stays_of_never (hp : p (r.state n)) (hnever : ∀ m, n ≤ m → ¬q (r.state m))
    (hkeep : ∀ n, p (r.state n) → ¬helpful (r.action n) → p (r.state (n + 1)) ∨ q (r.state (n + 1)))
    (hhelp : ∀ n, p (r.state n) → helpful (r.action n) → q (r.state (n + 1))) :
    ∀ m, n ≤ m → p (r.state m) := by
  intro m hnm
  induction hnm with
  | refl => exact hp
  | @step m hnm ih =>
    have hnext : ¬q (r.state (m + 1)) := hnever _ (Nat.le_succ_of_le hnm)
    have hoth : ¬helpful (r.action m) := fun h => hnext (hhelp m ih h)
    exact (hkeep m ih hoth).resolve_right hnext

/-- A set of actions one of which is taken if `p` holds for ever, and each of which brings about
`q`; the other actions keep `p`, or bring about `q` as well. -/
theorem leadsTo_of_taken
    (htak : ∀ n, (∀ m, n ≤ m → p (r.state m)) → ∃ m, n ≤ m ∧ helpful (r.action m))
    (hkeep : ∀ n, p (r.state n) → ¬helpful (r.action n) → p (r.state (n + 1)) ∨ q (r.state (n + 1)))
    (hhelp : ∀ n, p (r.state n) → helpful (r.action n) → q (r.state (n + 1))) :
    r.LeadsTo p q := by
  intro n hp
  by_contra hsome
  have hnever : ∀ m, n ≤ m → ¬q (r.state m) := fun m hnm hq => hsome ⟨m, hnm, hq⟩
  have hsty := stays_of_never hp hnever hkeep hhelp
  obtain ⟨m, hnm, hm⟩ := htak n hsty
  exact hnever (m + 1) (Nat.le_succ_of_le hnm) (hhelp m (hsty m hnm) hm)

/-- A fair set of actions of which one is enabled for as long as `p` holds, and each of which
brings about `q`; the other actions keep `p`, or bring about `q` as well. -/
theorem leadsTo_of_ensures (hfair : r.WeaklyFair helpful)
    (hkeep : ∀ n, p (r.state n) → ¬helpful (r.action n) → p (r.state (n + 1)) ∨ q (r.state (n + 1)))
    (hen : ∀ n, p (r.state n) → Enabled step helpful (r.state n))
    (hhelp : ∀ n, p (r.state n) → helpful (r.action n) → q (r.state (n + 1))) :
    r.LeadsTo p q :=
  leadsTo_of_taken (fun n hsty => hfair n fun m hnm => hen m (hsty m hnm)) hkeep hhelp

/-- The same with strong fairness: it is enough that one of the actions is enabled some time or
other if `p` holds for ever. -/
theorem leadsTo_of_stronglyFair (hfair : r.StronglyFair helpful)
    (hkeep : ∀ n, p (r.state n) → ¬helpful (r.action n) → p (r.state (n + 1)) ∨ q (r.state (n + 1)))
    (hen : ∀ n, (∀ m, n ≤ m → p (r.state m)) → ∃ m, n ≤ m ∧ Enabled step helpful (r.state m))
    (hhelp : ∀ n, p (r.state n) → helpful (r.action n) → q (r.state (n + 1))) :
    r.LeadsTo p q :=
  leadsTo_of_taken (fun n hsty => hfair n fun m hnm =>
    hen m fun k hmk => hsty k (Nat.le_trans hnm hmk)) hkeep hhelp

/-- The same when no other action brings about `q`. -/
theorem leadsTo_of_weaklyFair (hfair : r.WeaklyFair helpful)
    (hkeep : ∀ n, p (r.state n) → ¬helpful (r.action n) → p (r.state (n + 1)))
    (hen : ∀ n, p (r.state n) → Enabled step helpful (r.state n))
    (hhelp : ∀ n, p (r.state n) → helpful (r.action n) → q (r.state (n + 1))) :
    r.LeadsTo p q :=
  leadsTo_of_ensures hfair (fun n hp h => .inl (hkeep n hp h)) hen hhelp

/-! ### Schedules that come to rest -/

/-- The states of a run that is continued with one action for ever. -/
def restState (step : S → A → Option S) (rest : A) : S → List A → Nat → S
  | s, _, 0 => s
  | s, [], n + 1 => restState step rest ((step s rest).getD s) [] n
  | s, a :: as, n + 1 => restState step rest ((step s a).getD s) as n

theorem restState_of_length_le (hrun : run step s as = some t) (hrest : step t rest = some t) :
    ∀ {n}, as.length ≤ n → restState step rest s as n = t := by
  induction as generalizing s with
  | nil =>
    obtain rfl : s = t := by simpa using hrun
    intro n _
    induction n with
    | zero => rfl
    | succ n ih =>
      rw [restState, hrest]
      exact ih (Nat.zero_le n)
  | cons a as ih =>
    obtain ⟨u, hu, hrun⟩ := run_cons_eq_some_iff.mp hrun
    intro n hn
    cases n with
    | zero => cases hn
    | succ n =>
      rw [restState, hu]
      exact ih hrun (Nat.le_of_succ_le_succ hn)

theorem restState_of_run (hrun : run step s as = some t) (hrest : step t rest = some t) : ∀ n,
      step (restState step rest s as n) (as.getD n rest) =
        some (restState step rest s as (n + 1)) := by
  induction as generalizing s with
  | nil =>
    intro n
    rw [restState_of_length_le hrun hrest (Nat.zero_le n),
      restState_of_length_le hrun hrest (Nat.zero_le (n + 1))]
    exact hrest
  | cons a as ih =>
    obtain ⟨u, hu, hrun⟩ := run_cons_eq_some_iff.mp hrun
    intro n
    cases n with
    | zero =>
      show step s a = some (restState step rest ((step s a).getD s) as 0)
      rw [hu]
      cases as <;> rfl
    | succ n =>
      show step (restState step rest ((step s a).getD s) as n) (as.getD n rest) =
        some (restState step rest ((step s a).getD s) as (n + 1))
      rw [hu]
      exact ih hrun n

/-- The schedule of a run that ends in a state which an action leaves as it is. -/
def ofRun {rest : A} {as : List A} {s t : S} (hrun : run step s as = some t)
    (hrest : step t rest = some t) : Schedule step where
  state := restState step rest s as
  action := fun n => as.getD n rest
  next := restState_of_run hrun hrest

/-- A guard that the run meets, and the action that continues it, is met all along. -/
theorem guard_ofRun {guard : S → A → Prop}
    (hrun : run step s as = some t) (hrest : step t rest = some t)
    (hg : Guarded step guard s as) (ht : guard t rest) :
    ∀ n, guard ((ofRun hrun hrest).state n) ((ofRun hrun hrest).action n) := by
  show ∀ n, guard (restState step rest s as n) (as.getD n rest)
  induction as generalizing s with
  | nil =>
    intro n
    rw [restState_of_length_le hrun hrest (Nat.zero_le n)]
    exact ht
  | cons a as ih =>
    obtain ⟨u, hu, hrun⟩ := run_cons_eq_some_iff.mp hrun
    intro n
    cases n with
    | zero => exact hg.1
    | succ n =>
      rw [restState, hu]
      exact ih hrun (hg.2 u hu) n

theorem state_ofRun_of_length_le
    (hrun : run step s as = some t) (hrest : step t rest = some t) (hn : as.length ≤ n) :
    (ofRun hrun hrest).state n = t := restState_of_length_le hrun hrest hn

/-- Such a schedule is fair to actions that are not enabled in the end. -/
theorem stronglyFair_ofRun (hrun : run step s as = some t)
    (hrest : step t rest = some t) (h : ¬Enabled step helpful t) :
    (ofRun hrun hrest).StronglyFair helpful := by
  intro n hall
  obtain ⟨k, hk, hend⟩ := hall (max n as.length) (Nat.le_max_left _ _)
  rw [state_ofRun_of_length_le hrun hrest (Nat.le_trans (Nat.le_max_right _ _) hk)] at hend
  exact absurd hend h

theorem weaklyFair_ofRun (hrun : run step s as = some t)
    (hrest : step t rest = some t) (h : ¬Enabled step helpful t) :
    (ofRun hrun hrest).WeaklyFair helpful :=
  (stronglyFair_ofRun hrun hrest h).weaklyFair

end Schedule

end SecureBinding.Lib
