import SecureBinding.Lib.Transition
import SecureBinding.Transport.Client

/-!
# Transport.ConnContext

`withConnContext` as the two goroutines it is.

The caller runs the function, reads `ctx.Err`, closes `done` and clears the deadline. The
watcher waits for the context or for `done`, and sets the deadline to the present when it
sees the context first. Nobody waits for the watcher, so it may set the deadline after the
caller has cleared it. For that the context has to be cancelled after the caller has read
`ctx.Err` and before the watcher has left its `select`: see `InWindow`.

A context with a deadline of its own has no watcher. A nil context, with which the function
is just called, is not modelled: `ClientContext` refuses it.
-/

namespace SecureBinding.Transport.ConnContext

open Lib

variable {α : Type}

/-! ### The system -/

/-- The deadline of a connection: none, the one of the context, or a moment in the past. -/
inductive Deadline
  | zero
  | ofContext
  | past

inductive Caller (α : Type)
  | calling
  | called (r : Except Error α)
  /-- `ctx.Err` has been read, and the result is fixed. -/
  | leaving (res : Except Error α)
  /-- `done` has been closed. -/
  | closed (res : Except Error α)
  | returned (res : Except Error α)

inductive Watcher
  | selecting
  /-- It has seen the context, and will set the deadline. -/
  | setting
  | finished
  deriving Repr, DecidableEq

/-- What the goroutines share, and how far they are. -/
structure State (α : Type) where
  /-- `ctx.Err`. -/
  ctxErr : Option String := none
  done : Bool := false
  deadline : Deadline := .zero
  caller : Caller α
  watcher : Watcher

/-- The state at the call of the function. `setDeadline` is as in `Context`: what setting
the deadline of the context returns, if it has one. -/
def init (setDeadline : Option (Except String Unit)) : State α :=
  match setDeadline with
  | none => { caller := .calling, watcher := .selecting }
  | some (.ok _) => { deadline := .ofContext, caller := .calling, watcher := .finished }
  | some (.error text) => { caller := .returned (.error (.external text)), watcher := .finished }

inductive Action (α : Type)
  | cancel (text : String)
  | runFn (r : Except Error α)
  | readErr
  | closeDone
  | clearDeadline
  | selectCtx
  | selectDone
  | setDeadline

/-- What the caller returns: the error of the context comes before that of the function. -/
def result (ctxErr : Option String) (r : Except Error α) : Except Error α :=
  match ctxErr with
  | some text => .error (.external text)
  | none => r

/-- The effect of a step, if it is enabled. A context is cancelled once. -/
def step (hasDeadline : Bool) (s : State α) : Action α → Option (State α)
  | .cancel text => if s.ctxErr = none then some { s with ctxErr := some text } else none
  | .runFn r =>
    match s.caller with
    | .calling => some { s with caller := .called r }
    | _ => none
  | .readErr =>
    match s.caller with
    | .called r => some { s with caller := .leaving (result s.ctxErr r) }
    | _ => none
  | .closeDone =>
    match hasDeadline, s.caller with
    | false, .leaving res => some { s with done := true, caller := .closed res }
    | _, _ => none
  | .clearDeadline =>
    match hasDeadline, s.caller with
    | false, .closed res => some { s with deadline := .zero, caller := .returned res }
    | true, .leaving res => some { s with deadline := .zero, caller := .returned res }
    | _, _ => none
  | .selectCtx =>
    if s.watcher = .selecting ∧ s.ctxErr ≠ none then some { s with watcher := .setting } else none
  | .selectDone =>
    if s.watcher = .selecting ∧ s.done = true then some { s with watcher := .finished } else none
  | .setDeadline =>
    if s.watcher = .setting then some { s with deadline := .past, watcher := .finished } else none

/-! ### The property -/

/-- The result of a caller, once it is fixed. -/
def Caller.fixed : Caller α → Option (Except Error α)
  | calling | called _ => none
  | leaving res | closed res | returned res => some res

/-- The caller has a good result: `ctx.Err` was nil when it was read. -/
def Caller.Good (c : Caller α) : Prop := ∃ a, c.fixed = some (.ok a)

/-- Both have finished, and `withConnContext` returned nil. -/
def ReturnedGood (s : State α) : Prop :=
  (∃ a, s.caller = .returned (.ok a)) ∧ s.watcher = .finished

/-- The result is fixed and good, and the watcher still waits. -/
def InWindow (s : State α) : Prop := s.caller.Good ∧ s.watcher = .selecting

/-- The context is not cancelled in the window. -/
def CancelsInTime (s : State α) : Action α → Prop
  | .cancel _ => ¬ InWindow s
  | _ => True

/-! ### Runs -/

/-- The invariant: the watcher does not set the deadline of a caller with a good result. -/
structure Inv (s : State α) : Prop where
  setting : s.watcher = .setting → s.ctxErr ≠ none
  good : s.caller.Good → s.watcher ≠ .setting ∧ (s.watcher = .selecting → s.ctxErr = none)
  cleared : (∃ a, s.caller = .returned (.ok a)) → s.deadline = .zero

variable {hasDeadline : Bool} {sd : Option (Except String Unit)} {s t : State α} {a : Action α}

theorem inv_init : Inv (init sd : State α) := by
  unfold init
  split <;> exact ⟨by simp, by simp, by simp⟩

theorem step_cases (h : step hasDeadline s a = some t) :
    (∃ text, a = .cancel text ∧ s.ctxErr = none ∧ t = { s with ctxErr := some text }) ∨
    (∃ r, s.caller = .calling ∧ t = { s with caller := .called r }) ∨
    (∃ r, s.caller = .called r ∧ t = { s with caller := .leaving (result s.ctxErr r) }) ∨
    (∃ res, s.caller = .leaving res ∧ t = { s with done := true, caller := .closed res }) ∨
    (∃ res, s.caller.fixed = some res ∧ t = { s with deadline := .zero, caller := .returned res }) ∨
    (s.watcher = .selecting ∧ s.ctxErr ≠ none ∧ t = { s with watcher := .setting }) ∨
    (s.watcher = .selecting ∧ s.done = true ∧ t = { s with watcher := .finished }) ∨
    (s.watcher = .setting ∧ t = { s with deadline := .past, watcher := .finished }) := by
  cases a with
  | cancel text =>
    simp only [step, enabled_iff] at h
    exact .inl ⟨text, rfl, h.1, h.2.symm⟩
  | runFn r =>
    cases hc : s.caller <;> simp only [step, hc, reduceCtorEq, Option.some.injEq] at h
    exact .inr (.inl ⟨r, rfl, h.symm⟩)
  | readErr =>
    cases hc : s.caller <;> simp only [step, hc, reduceCtorEq, Option.some.injEq] at h
    exact .inr (.inr (.inl ⟨_, rfl, h.symm⟩))
  | closeDone =>
    cases hasDeadline <;> cases hc : s.caller <;>
      simp only [step, hc, reduceCtorEq, Option.some.injEq] at h
    exact .inr (.inr (.inr (.inl ⟨_, rfl, h.symm⟩)))
  | clearDeadline =>
    cases hasDeadline <;> cases hc : s.caller <;>
      simp only [step, hc, reduceCtorEq, Option.some.injEq] at h
    all_goals exact .inr (.inr (.inr (.inr (.inl ⟨_, rfl, h.symm⟩))))
  | selectCtx =>
    simp only [step, enabled_iff] at h
    exact .inr (.inr (.inr (.inr (.inr (.inl ⟨h.1.1, h.1.2, h.2.symm⟩)))))
  | selectDone =>
    simp only [step, enabled_iff] at h
    exact .inr (.inr (.inr (.inr (.inr (.inr (.inl ⟨h.1.1, h.1.2, h.2.symm⟩))))))
  | setDeadline =>
    simp only [step, enabled_iff] at h
    exact .inr (.inr (.inr (.inr (.inr (.inr (.inr ⟨h.1, h.2.symm⟩))))))

/-- Apart from cancelling in the window, every step keeps the invariant. -/
theorem inv_step (hi : Inv s) (hgd : CancelsInTime s a) (h : step hasDeadline s a = some t) :
    Inv t := by
  obtain ⟨hset, hgood, hclear⟩ := hi
  obtain ⟨text, rfl, -, rfl⟩ | ⟨r, hc, rfl⟩ | ⟨r, hc, rfl⟩ | ⟨res, hc, rfl⟩ | ⟨res, hc, rfl⟩ |
    ⟨hw, hctx, rfl⟩ | ⟨hw, -, rfl⟩ | ⟨hw, rfl⟩ := step_cases h
  · exact ⟨by simp, fun hg => ⟨(hgood hg).1, fun hw => absurd ⟨hg, hw⟩ hgd⟩, hclear⟩
  · exact ⟨hset, by simp [Caller.Good, Caller.fixed], by simp⟩
  · refine ⟨hset, fun hg => ?_, by simp⟩
    -- A good result means that the context was alive, so the watcher cannot have seen it.
    have hnone : s.ctxErr = none := by
      cases hctx : s.ctxErr with
      | none => rfl
      | some text => simp [result, hctx, Caller.Good, Caller.fixed] at hg
    exact ⟨fun hw => hset hw hnone, fun _ => hnone⟩
  · refine ⟨hset, fun hg => hgood ?_, by simp⟩
    rw [hc]
    exact hg
  · refine ⟨hset, fun hg => hgood ?_, fun _ => rfl⟩
    obtain ⟨a, ha⟩ := hg
    exact ⟨a, hc.trans ha⟩
  · exact ⟨fun _ => hctx, fun hg => absurd ((hgood hg).2 hw) hctx, hclear⟩
  · exact ⟨by simp, by simp, hclear⟩
  · refine ⟨by simp, by simp, ?_⟩
    rintro ⟨a, ha⟩
    have hg : s.caller.Good := ⟨a, by rw [show s.caller = .returned (.ok a) from ha]; rfl⟩
    exact absurd hw (hgood hg).1

/-- A context that is cancelled stays so, and cannot be cancelled in the window any more. -/
theorem inv_step_of_cancelled (hi : Inv s ∧ s.ctxErr ≠ none) (h : step hasDeadline s a = some t) :
    Inv t ∧ t.ctxErr ≠ none := by
  obtain ⟨hi, hctx⟩ := hi
  have hg : CancelsInTime s a := by
    cases a with
    | cancel text => exact fun hwin => hctx ((hi.good hwin.1).2 hwin.2)
    | runFn | readErr | closeDone | clearDeadline | selectCtx | selectDone | setDeadline => trivial
  refine ⟨inv_step hi hg h, ?_⟩
  obtain ⟨_, -, hnone, -⟩ | ⟨_, -, rfl⟩ | ⟨_, -, rfl⟩ | ⟨_, -, rfl⟩ | ⟨_, -, rfl⟩ | ⟨-, -, rfl⟩ |
    ⟨-, -, rfl⟩ | ⟨-, rfl⟩ := step_cases h
  · exact absurd hnone hctx
  all_goals exact hctx

theorem inv_of_alive (h : Reaches (step hasDeadline) (init sd) s) (halive : s.ctxErr = none) :
    Inv s := by
  have hinv : s.ctxErr = none → Inv s := by
    refine @invariant_of_reaches _ _ _ _ _ (fun s => s.ctxErr = none → Inv s) ?_ (fun _ => inv_init) h
    intro s a t hs hstep hnone
    have hbef : s.ctxErr = none ∧ CancelsInTime s a := by
      cases a with
      | cancel text =>
        simp only [step, enabled_iff] at hstep
        obtain ⟨-, rfl⟩ := hstep
        cases hnone
      | runFn | readErr | closeDone | clearDeadline | selectCtx | selectDone | setDeadline =>
        refine ⟨?_, trivial⟩
        by_contra hctx
        obtain ⟨_, hcnl, -⟩ | ⟨_, -, rfl⟩ | ⟨_, -, rfl⟩ | ⟨_, -, rfl⟩ | ⟨_, -, rfl⟩ | ⟨-, -, rfl⟩ |
          ⟨-, -, rfl⟩ | ⟨-, rfl⟩ := step_cases hstep
        · cases hcnl
        all_goals exact hctx hnone
    exact inv_step (hs hbef.1) hbef.2 hstep
  exact hinv halive

/-- In the window, a context that has just been cancelled spoils the connection if the
watcher is slow. -/
theorem exists_spoiled_of_window (hwin : InWindow s) (hctx : s.ctxErr ≠ none)
    (hpl : hasDeadline = false) :
    ∃ t, Reaches (step hasDeadline) s t ∧ ReturnedGood t ∧ t.deadline = .past := by
  obtain ⟨⟨a, ha⟩, hw⟩ := hwin
  subst hpl
  obtain ⟨ctxErr, done, deadline, caller, watcher⟩ := s
  subst hw
  have hselect : ∀ done deadline, Reaches (step false)
      (⟨ctxErr, done, deadline, .returned (.ok a), .selecting⟩ : State α)
      ⟨ctxErr, done, .past, .returned (.ok a), .finished⟩ := by
    intro done deadline
    exact ⟨[.selectCtx, .setDeadline], by simp [run, step, hctx]⟩
  cases caller with
  | calling => cases ha
  | called r => cases ha
  | leaving res =>
    cases ha
    exact ⟨_, .head (a := .closeDone) rfl (.head (a := .clearDeadline) rfl (hselect _ _)),
      ⟨⟨a, rfl⟩, rfl⟩, rfl⟩
  | closed res =>
    cases ha
    exact ⟨_, .head (a := .clearDeadline) rfl (hselect _ _), ⟨⟨a, rfl⟩, rfl⟩, rfl⟩
  | returned res =>
    cases ha
    exact ⟨_, hselect _ _, ⟨⟨a, rfl⟩, rfl⟩, rfl⟩

theorem watcher_of_deadline {x : Except String Unit}
    (h : Reaches (step hasDeadline) (init (some x)) s) : s.watcher = .finished := by
  refine @invariant_of_reaches _ _ _ _ _ (fun s => s.watcher = .finished) ?_ ?_ h
  · intro s a t hfin hstep
    obtain ⟨_, -, -, rfl⟩ | ⟨_, -, rfl⟩ | ⟨_, -, rfl⟩ | ⟨_, -, rfl⟩ | ⟨_, -, rfl⟩ | ⟨hw, -⟩ |
      ⟨-, -, rfl⟩ | ⟨-, rfl⟩ := step_cases hstep
    case inr.inr.inr.inr.inr.inl =>
      rw [show s.watcher = .finished from hfin] at hw
      cases hw
    all_goals first | exact hfin | rfl
  · cases x <;> rfl

/-! ### The sequential model -/

/-- The function is called. -/
def Calls (sd : Option (Except String Unit)) : Prop := ∀ text, sd ≠ some (.error text)

/-- The result is that of the sequential model of `withConnContext`, for what the function returns
in the run, and with no error of the context or one that the run gives it. -/
def IsSequential (as : List (Action α)) (sd : Option (Except String Unit))
    (res : Except Error α) : Prop :=
  ∃ (err : Option String) (r : Except Error α),
    (∀ text, err = some text → .cancel text ∈ as) ∧ (Calls sd → .runFn r ∈ as) ∧
      res = (withConnContext ⟨sd, err⟩ (fun u : Unit => (r, u)) ()).1

def Caller.Follows (as : List (Action α)) (sd : Option (Except String Unit)) : Caller α → Prop
  | calling => Calls sd
  | called r => Calls sd ∧ .runFn r ∈ as
  | leaving res | closed res | returned res => IsSequential as sd res

/-- The invariant, within the run `as`. -/
structure Follows (as : List (Action α)) (sd : Option (Except String Unit)) (s : State α) :
    Prop where
  ctx : ∀ text, s.ctxErr = some text → .cancel text ∈ as
  caller : s.caller.Follows as sd

theorem withConnContext_of_calls (h : Calls sd) (err : Option String) (r : Except Error α) :
    (withConnContext ⟨sd, err⟩ (fun u : Unit => (r, u)) ()).1 = result err r := by
  match sd, h with
  | none, _ | some (.ok _), _ => cases err <;> rfl
  | some (.error text), h => exact absurd rfl (h text)

theorem follows_init {as : List (Action α)} : Follows as sd (init sd) := by
  match sd with
  | none | some (.ok _) => exact ⟨nofun, nofun⟩
  | some (.error text) =>
    exact ⟨nofun, none, .error (.external text), nofun, fun h => absurd rfl (h text), rfl⟩

theorem follows_step {as : List (Action α)} (hs : Follows as sd s) (ha : a ∈ as)
    (h : step hasDeadline s a = some t) : Follows as sd t := by
  have hcaller := hs.caller
  obtain ⟨_, rfl, -, rfl⟩ | ⟨r, hc, rfl⟩ | ⟨r, hc, rfl⟩ | ⟨_, hc, rfl⟩ | ⟨res, hc, rfl⟩ | ⟨-, -, rfl⟩ |
    ⟨-, -, rfl⟩ | ⟨-, rfl⟩ := step_cases h
  · refine ⟨fun text htext => ?_, hcaller⟩
    cases htext
    exact ha
  · rw [hc] at hcaller
    obtain rfl : a = .runFn r := by cases a <;> simp_all [step]
    exact ⟨hs.ctx, hcaller, ha⟩
  · -- Here the result is fixed, from `ctx.Err` as it is now.
    rw [hc] at hcaller
    obtain ⟨hcalls, hr⟩ := hcaller
    exact ⟨hs.ctx, s.ctxErr, r, hs.ctx, fun _ => hr, (withConnContext_of_calls hcalls _ _).symm⟩
  · rw [hc] at hcaller
    exact ⟨hs.ctx, hcaller⟩
  · refine ⟨hs.ctx, ?_⟩
    cases hcl : s.caller <;> rw [hcl] at hc hcaller <;> cases hc <;> exact hcaller
  all_goals exact ⟨hs.ctx, hcaller⟩

/-- A connection that is returned as good has no deadline, in every run that does not cancel
the context in the window. And it is the window that matters: cancelling a context can spoil
the connection exactly in a state of the window. -/
theorem good_connection_usable_iff (sd : Option (Except String Unit)) :
    (∀ (as : List (Action α)) (s : State α), Guarded (step sd.isSome) CancelsInTime (init sd) as →
      run (step sd.isSome) (init sd) as = some s → ReturnedGood s → s.deadline = .zero) ∧
    ∀ (s s' : State α) (text : String), Reaches (step sd.isSome) (init sd) s →
      step sd.isSome s (.cancel text) = some s' →
      ((∀ t, Reaches (step sd.isSome) s' t → ReturnedGood t → t.deadline = .zero) ↔
        ¬ InWindow s) := by
  refine ⟨?_, ?_⟩
  · intro as s hg hrun hgood
    exact (invariant_of_run inv_step inv_init hg hrun).cleared hgood.1
  · intro s s' text hreach hcnl
    have hstep := hcnl
    simp only [step, enabled_iff] at hcnl
    obtain ⟨halive, rfl⟩ := hcnl
    constructor
    · intro hall hwin
      -- With a deadline of its own the connection has no watcher, and there is no window.
      have hpl : sd.isSome = false := by
        cases sd with
        | none => rfl
        | some x =>
          have hfin := watcher_of_deadline hreach
          rw [hwin.2] at hfin
          cases hfin
      obtain ⟨t, ht, hgood, hpast⟩ :=
        exists_spoiled_of_window (s := { s with ctxErr := some text }) hwin (by simp) hpl
      rw [hall t ht hgood] at hpast
      cases hpast
    · intro hnot t ht hgood
      have hg : CancelsInTime s (.cancel text) := hnot
      -- A context is cancelled once, so no later step needs the guard.
      have hinv := inv_step (inv_of_alive hreach halive) hg hstep
      exact (invariant_of_reaches inv_step_of_cancelled ⟨hinv, by simp⟩ ht).1.cleared hgood.1

/-- The context is cancelled between the reading of `ctx.Err` and the return, or just after
the return, as a deferred `cancel` does. Either way nil is returned and the connection ends
with a deadline in the past. -/
theorem cancelled_context_spoils_connection :
    run (step false) (init none : State Unit)
        [.runFn (.ok ()), .readErr, .cancel "context canceled", .selectCtx, .closeDone,
          .clearDeadline, .setDeadline]
      = some ⟨some "context canceled", true, .past, .returned (.ok ()), .finished⟩ ∧
    run (step false) (init none : State Unit)
        [.runFn (.ok ()), .readErr, .closeDone, .clearDeadline, .cancel "context canceled",
          .selectCtx, .setDeadline]
      = some ⟨some "context canceled", true, .past, .returned (.ok ()), .finished⟩ :=
  ⟨rfl, rfl⟩

/-- Cancelling after the watcher has seen `done` does no harm. -/
theorem good_connection_usable_sample :
    ∃ s : State Unit, run (step false) (init none)
        [.runFn (.ok ()), .readErr, .closeDone, .clearDeadline, .selectDone,
          .cancel "context canceled"] = some s ∧
      ReturnedGood s ∧ s.deadline = .zero := by
  refine ⟨_, rfl, ⟨⟨(), rfl⟩, rfl⟩, ?_⟩
  refine (good_connection_usable_iff none).1 [.runFn (.ok ()), .readErr, .closeDone, .clearDeadline,
    .selectDone, .cancel "context canceled"] _ ?_ rfl ⟨⟨(), rfl⟩, rfl⟩
  simp [Guarded, CancelsInTime, InWindow, step, init]

end SecureBinding.Transport.ConnContext
