import Mathlib.Data.Fintype.Basic
import SecureBinding.Lib.Fair
import SecureBinding.Manager.System

/-!
# Manager.Expiry

The TTL of a VM (`manager/ttl.go` and `RemoveVM` in `manager/service.go`).

`RemoveVM` cancels the timer of the VM before it tries to stop it. If `Stop` fails, the VM stays in
the map, and nothing sets its timer again: neither a caller's attempt nor that of the expiry
callback leaves a timer behind. A VM that is restored after a restart has no timer either.

As long as `Stop` does not fail for a VM with a TTL (`Removable`), such a VM is attended to while it
is in the map: its timer is pending, its expiry callback waits for the mutex, or a removal or a
`Shutdown` is under way (`Attended`). With fair scheduling it leaves the map after its TTL:

* a timer that is due fires, or it is cancelled by one of the others (`pending_leadsTo`);
* the holder of the mutex gives it up (`exists_unlocked`), so the callback gets it
  (`waiting_leadsTo`), and so does `Shutdown` (`shutting_leadsTo`);
* a removal that has the mutex stops the VM (`removing_leadsTo`).
-/

namespace SecureBinding.Manager.System

open Go Lib

variable {ι κ ς : Type}

/-! ### Who attends to a VM -/

/-- The VM is created with a positive TTL. -/
def Params.HasTTL (p : Params ι κ) (i : ι) : Prop := ∃ ttl ∈ (p.ttl i).toOption.join, 0 < ttl

instance (p : Params ι κ) (i : ι) : Decidable (p.HasTTL i) :=
  inferInstanceAs (Decidable (∃ ttl ∈ (p.ttl i).toOption.join, 0 < ttl))

/-- `Stop` does not fail for a VM with a TTL, and no call misses its entry of the map. -/
def Removable (p : Params ι κ) (s : State ι κ ς) : Action ι κ ς → Prop
  | .stop r (.failed _) => ¬p.HasTTL (p.targetOf r)
  | .transition i => i ∈ s.vms
  | _ => True

instance decidableRemovable [DecidableEq ι] {p : Params ι κ} {s : State ι κ ς} :
    ∀ a, Decidable (Removable p s a)
  | .stop r (.failed _) => inferInstanceAs (Decidable (¬p.HasTTL (p.targetOf r)))
  | .transition i => inferInstanceAs (Decidable (i ∈ s.vms))
  | .stop _ .stopped | .screen _ | .mount _ _ | .probeMin _ | .probe _ _ | .noPort _ _
  | .start _ _ | .register _ | .stopRejected _ _ | .setTTL _ | .save _ _ | .cancel _
  | .deleteRecord _ _ | .fire _ | .cancelAll _ | .clear _ | .exit _ | .tick _ => .isTrue trivial

inductive Attended (p : Params ι κ) (s : State ι κ ς) (i : ι) : Prop
  | pending {deadline : Time} (h : s.timers i = .pending deadline)
  | waiting (h : s.remove (.expiry i) = .ready)
  | removing {r : Remover ι κ} (h : s.remove r = .cancelled) (target : p.targetOf r = i)
  | shutting {j : ς} (h : s.shutdown j = .cancelled)

/-- The call has not got to `SetTTL`. -/
def CreatePhase.BeforeTTL : CreatePhase → Prop
  | timed | saved | returned _ => False
  | _ => True

/-- The invariant: a VM whose TTL was set is attended to while it is in the map. -/
structure Scheduled (p : Params ι κ) (s : State ι κ ς) : Prop where
  intact : s.crashed = false
  locked : Locked p s
  fresh : ∀ i, (s.create i).BeforeTTL → s.deadline i = none ∧ s.remove (.expiry i) = .idle
  pending : ∀ i t, s.timers i = .pending t → s.deadline i = some t ∧ s.remove (.expiry i) = .idle
  attended : ∀ i, p.HasTTL i → s.deadline i ≠ none → i ∈ s.vms → Attended p s i

variable {p : Params ι κ} {s s' : State ι κ ς} {a : Action ι κ ς} {i j : ι}

theorem Initial.scheduled (h : Initial s) : Scheduled p s where
  intact := h.crashed
  locked := h.locked
  fresh i _ := ⟨h.deadline i, h.expiries i⟩
  pending i t hpen := by simp [h.timers i] at hpen
  attended i _ hset := absurd (h.deadline i) hset

theorem CreatePhase.IsEarly.beforeTTL {phase : CreatePhase} (h : phase.IsEarly) :
    phase.BeforeTTL := by
  cases phase <;> trivial

theorem Attended.congr (h : Attended p s j) (htmr : s'.timers j = s.timers j)
    (hrm : s'.remove = s.remove) (hshd : s'.shutdown = s.shutdown) :
    Attended p s' j := by
  cases h with
  | pending h => exact .pending (htmr.trans h)
  | waiting h => exact .waiting (by rw [hrm]; exact h)
  | removing h target => exact .removing (by rw [hrm]; exact h) target
  | shutting h => exact .shutting (by rw [hshd]; exact h)

section Steps

variable [DecidableEq ι]

theorem Scheduled.move_create {phase : CreatePhase} (h : Scheduled p s)
    (hcr : s'.create = Function.update s.create i phase) (hlck : Locked p s')
    (hph : phase.BeforeTTL → (s.create i).BeforeTTL)
    (hvms : ∀ j ∈ s'.vms, j ∈ s.vms ∨ (s.create j).BeforeTTL)
    (hsame : s'.timers = s.timers ∧ s'.deadline = s.deadline ∧ s'.remove = s.remove ∧
      s'.shutdown = s.shutdown ∧ s'.crashed = s.crashed) : Scheduled p s' := by
  obtain ⟨htimers, hdl, hrm, hshd, hcra⟩ := hsame
  refine ⟨hcra.trans h.intact, hlck, fun j hj => ?_, ?_, fun j httl hset hj => ?_⟩
  · rw [hcr] at hj
    rw [hdl, hrm]
    obtain ⟨rfl, hbef⟩ | hbef := of_update hj
    · exact h.fresh _ (hph hbef)
    · exact h.fresh j hbef
  · rw [htimers, hdl, hrm]
    exact h.pending
  · rw [hdl] at hset
    obtain hj | hbef := hvms j hj
    · exact (h.attended j httl hset hj).congr (congrFun htimers j) hrm hshd
    · exact absurd (h.fresh j hbef).1 hset

variable [DecidableEq κ]

variable {r : Remover ι κ}

/-- A removal moves on that neither waits for the VM nor stops it. -/
theorem Attended.of_remove {phase : RemovePhase} (h : Attended p s j)
    (hrm : s'.remove = Function.update s.remove r phase)
    (hr : p.targetOf r = j → s.remove r ≠ .ready ∧ s.remove r ≠ .cancelled)
    (htmr : s'.timers j = s.timers j) (hshd : s'.shutdown = s.shutdown) :
    Attended p s' j := by
  cases h with
  | pending h => exact .pending (htmr.trans h)
  | waiting h =>
    have hne : .expiry j ≠ r := fun heq => (hr (by rw [← heq]; rfl)).1 (by rw [← heq]; exact h)
    exact .waiting (by rw [hrm, Function.update_of_ne hne]; exact h)
  | @removing r' h target =>
    have hne : r' ≠ r := fun heq => (hr (heq ▸ target)).2 (heq ▸ h)
    exact .removing (by rw [hrm, Function.update_of_ne hne]; exact h) target
  | shutting h => exact .shutting (by rw [hshd]; exact h)

theorem Scheduled.move_remove {phase : RemovePhase} (h : Scheduled p s)
    (hrm : s'.remove = Function.update s.remove r phase) (hr : s.remove r ≠ .idle)
    (hlck : Locked p s') (htimers : ∀ i t, s'.timers i = .pending t → s.timers i = .pending t)
    (hsame : s'.create = s.create ∧ s'.deadline = s.deadline ∧ s'.crashed = s.crashed)
    (hattended : ∀ i, p.HasTTL i → s.deadline i ≠ none → i ∈ s'.vms → Attended p s' i) :
    Scheduled p s' := by
  obtain ⟨hcr, hdl, hcra⟩ := hsame
  have hidle : ∀ {i}, s.remove (.expiry i) = .idle → s'.remove (.expiry i) = .idle := by
    intro i hi
    have hne : .expiry i ≠ r := fun heq => hr (heq ▸ hi)
    rw [hrm, Function.update_of_ne hne]
    exact hi
  refine ⟨hcra.trans h.intact, hlck, fun i hi => ?_, fun i t hi => ?_, ?_⟩
  · rw [hcr] at hi
    rw [hdl]
    exact ⟨(h.fresh i hi).1, hidle (h.fresh i hi).2⟩
  · rw [hdl]
    have hpen := h.pending i t (htimers i t hi)
    exact ⟨hpen.1, hidle hpen.2⟩
  · rw [hdl]
    exact hattended

variable [DecidableEq ς]

theorem Scheduled.step (h : Scheduled p s) (hg : Removable p s a)
    (hstep : step p s a = some s') : Scheduled p s' := by
  have hlck := h.locked.step hstep
  have hsame : ∀ j ∈ s.vms, j ∈ s.vms ∨ (s.create j).BeforeTTL := fun _ => .inl
  -- The timer of a VM that is not the target is left alone.
  have htmr : ∀ {r j t}, Function.update s.timers (p.targetOf r) .none j = .pending t →
      s.timers j = .pending t := by
    intro r j t hj
    exact of_update_of_not (p := (· = Timer.pending t)) (by simp) hj
  cases Step.of_step hstep with
  | early _ hi | allocateMin hi | allocate hi =>
    exact h.move_create rfl hlck (fun _ => hi.beforeTTL) hsame ⟨rfl, rfl, rfl, rfl, rfl⟩
  | start hi | reject hi =>
    exact h.move_create rfl hlck (fun _ => by rw [hi]; trivial) hsame
      ⟨rfl, rfl, rfl, rfl, rfl⟩
  | stopRejected hi | badTTL hi ttl | noTTL hi ttl | save hi | transition hi found =>
    exact h.move_create rfl hlck False.elim hsame ⟨rfl, rfl, rfl, rfl, rfl⟩
  | @register i hi room =>
    have hbef : (s.create i).BeforeTTL := by rw [hi]; trivial
    refine h.move_create rfl hlck (fun _ => hbef) (fun j hj => ?_) ⟨rfl, rfl, rfl, rfl, rfl⟩
    obtain rfl | hj := Finset.mem_insert.mp hj
    · exact .inr hbef
    · exact .inl hj
  -- The VM has had no timer so far, and no removal of it is under way.
  | @setTTL i d hi ttl =>
    have hidle := (h.fresh i (by rw [hi]; trivial)).2
    refine ⟨h.intact, hlck, fun j hj => ?_, fun j t hj => ?_, fun j httl hset hj => ?_⟩
    · by_cases hji : j = i
      · simp [hji, CreatePhase.BeforeTTL] at hj
      · simp only [Function.update_of_ne hji] at hj ⊢
        exact h.fresh j hj
    · by_cases hji : j = i
      · subst hji
        simp only [Function.update_self, Timer.pending.injEq] at hj ⊢
        exact ⟨congrArg some hj, hidle⟩
      · simp only [Function.update_of_ne hji] at hj ⊢
        exact h.pending j t hj
    · by_cases hji : j = i
      · subst hji
        exact .pending (Function.update_self ..)
      · simp only [Function.update_of_ne hji] at hset
        exact (h.attended j httl hset hj).congr (Function.update_of_ne hji ..) rfl rfl
  | crash hi missing => exact absurd hg missing
  | @notFound r hr missing =>
    refine h.move_remove rfl (by simp [hr]) hlck (fun _ _ => htmr) ⟨rfl, rfl, rfl⟩ ?_
    intro j httl hset hj
    have hne : j ≠ p.targetOf r := fun heq => missing (heq ▸ hj)
    exact (h.attended j httl hset hj).of_remove rfl (fun heq => absurd heq.symm hne)
      (Function.update_of_ne hne ..) rfl
  -- The removal takes over from the timer that it cancels.
  | @cancel r hr unlocked found =>
    refine h.move_remove rfl (by simp [hr]) hlck (fun _ _ => htmr) ⟨rfl, rfl, rfl⟩ ?_
    intro j httl hset hj
    by_cases heq : p.targetOf r = j
    · exact .removing (Function.update_self ..) heq
    · exact (h.attended j httl hset hj).of_remove rfl (fun heq' => absurd heq' heq)
        (Function.update_of_ne (Ne.symm heq) ..) rfl
  | @stopped r hr =>
    refine h.move_remove rfl (by simp [hr]) hlck (fun _ _ => id) ⟨rfl, rfl, rfl⟩ ?_
    intro j httl hset hj
    obtain ⟨hne, hj⟩ := Finset.mem_erase.mp hj
    exact (h.attended j httl hset hj).of_remove rfl (fun heq => absurd heq.symm hne) rfl rfl
  | @stopFailed r ended hr =>
    refine h.move_remove rfl (by simp [hr]) hlck (fun _ _ => id) ⟨rfl, rfl, rfl⟩ ?_
    intro j httl hset hj
    have hne : p.targetOf r ≠ j := fun heq => hg (heq ▸ httl)
    exact (h.attended j httl hset hj).of_remove rfl (fun heq => absurd heq hne) rfl rfl
  | @deleteRecord r ok hr =>
    refine h.move_remove rfl (by simp [hr]) hlck (fun _ _ => id) ⟨rfl, rfl, rfl⟩ ?_
    intro j httl hset hj
    exact (h.attended j httl hset hj).of_remove rfl (fun _ => by simp [hr]) rfl rfl
  | @fire i t timer due idle =>
    have hset : s.deadline i ≠ none := by simp [(h.pending i t timer).1]
    have hexp : ∀ {j}, j ≠ i →
        Function.update s.remove (.expiry i) .ready (.expiry j) = s.remove (.expiry j) :=
      fun hji => Function.update_of_ne (fun heq => hji (Remover.expiry.inj heq)) ..
    refine ⟨h.intact, hlck, fun j hj => ?_, fun j t hj => ?_, fun j httl hset hj => ?_⟩
    · have hji : j ≠ i := fun heq => hset (heq ▸ (h.fresh j hj).1)
      exact ⟨(h.fresh j hj).1, (hexp hji).trans (h.fresh j hj).2⟩
    · by_cases hji : j = i
      · simp [hji] at hj
      · simp only [Function.update_of_ne hji] at hj
        exact ⟨(h.pending j t hj).1, (hexp hji).trans (h.pending j t hj).2⟩
    · by_cases hji : j = i
      · subst hji
        exact .waiting (Function.update_self ..)
      · exact (h.attended j httl hset hj).of_remove rfl (fun heq => absurd heq.symm hji)
          (Function.update_of_ne hji ..) rfl
  | cancelAll hj =>
    refine ⟨h.intact, hlck, h.fresh, by simp, fun i _ _ _ => ?_⟩
    exact .shutting (Function.update_self ..)
  | clear hj unlocked =>
    exact ⟨h.intact, hlck, h.fresh, h.pending, fun i _ _ hi => absurd hi (Finset.notMem_empty i)⟩
  | exit | tick =>
    refine ⟨h.intact, hlck, h.fresh, h.pending, fun i httl hset hi => ?_⟩
    exact (h.attended i httl hset hi).congr rfl rfl rfl

/-! ### What a step leaves as it is -/

/-- A removal that is under way goes on by its own steps only. -/
theorem remove_of_step (hstep : step p s a = some s') (hr : s.remove r ≠ .idle) :
    s'.remove r = s.remove r ∨ (s.remove r = .ready ∧ a = .cancel r) ∨
      (s.remove r = .cancelled ∧ ∃ outcome, a = .stop r outcome) ∨
      (s.remove r = .deleting ∧ ∃ ok, a = .deleteRecord r ok) := by
  have hoth : ∀ {r' phase}, r ≠ r' → Function.update s.remove r' phase r = s.remove r :=
    fun hne => Function.update_of_ne hne ..
  cases Step.of_step hstep with
  | @notFound r' h missing | @cancel r' h unlocked found =>
    by_cases heq : r = r'
    · subst heq
      exact .inr (.inl ⟨h, rfl⟩)
    · exact .inl (hoth heq)
  | @stopped r' h | @stopFailed r' _ h =>
    by_cases heq : r = r'
    · subst heq
      exact .inr (.inr (.inl ⟨h, _, rfl⟩))
    · exact .inl (hoth heq)
  | @deleteRecord r' ok h =>
    by_cases heq : r = r'
    · subst heq
      exact .inr (.inr (.inr ⟨h, _, rfl⟩))
    · exact .inl (hoth heq)
  | @fire i t timer due idle =>
    have hne : r ≠ .expiry i := fun heq => hr (heq ▸ idle)
    exact .inl (hoth hne)
  | _ => exact .inl rfl

theorem shutdown_of_step {j : ς} (hstep : step p s a = some s') (hj : s.shutdown j = .cancelled)
    (ha : a ≠ .clear j) : s'.shutdown j = .cancelled := by
  cases Step.of_step hstep with
  | @cancelAll k hk =>
    have hne : j ≠ k := fun heq => by simp [← heq, hj] at hk
    exact (Function.update_of_ne hne ..).trans hj
  | @clear k hk unlocked =>
    have hne : j ≠ k := fun heq => ha (by rw [heq])
    exact (Function.update_of_ne hne ..).trans hj
  | _ => exact hj

theorem deadline_of_step {t : Time} (h : Scheduled p s) (hstep : step p s a = some s')
    (hset : s.deadline i = some t) : s'.deadline i = some t := by
  cases Step.of_step hstep with
  | @setTTL j d hj ttl =>
    -- The TTL of a VM is set once.
    have hne : i ≠ j := by
      intro heq
      have hnone := (h.fresh j (by rw [hj]; trivial)).1
      rw [← heq, hset] at hnone
      cases hnone
    exact (Function.update_of_ne hne ..).trans hset
  | _ => exact hset

theorem clock_le_of_step (hstep : step p s a = some s') : s.clock ≤ s'.clock := by
  cases Step.of_step hstep with
  | tick hle => exact hle
  | _ => exact le_rfl

/-! ### What the steps that are waited for bring about -/

theorem holder_of_deleteRecord {ok : Bool}
    (hstep : step p s (.deleteRecord r ok) = some s') : s'.holder = none := by
  cases Step.of_step hstep with
  | early h => exact h.elim
  | deleteRecord hr => rfl

theorem of_stop {outcome : StopOutcome} (hstep : step p s (.stop r outcome) = some s') :
    s'.remove r = .deleting ∨ s'.holder = none := by
  cases Step.of_step hstep with
  | early h => exact h.elim
  | stopped hr => exact .inl (Function.update_self ..)
  | stopFailed hr => exact .inr rfl

theorem notMem_of_stop {outcome : StopOutcome}
    (hg : Removable p s (.stop r outcome)) (httl : p.HasTTL (p.targetOf r))
    (hstep : step p s (.stop r outcome) = some s') : p.targetOf r ∉ s'.vms := by
  cases Step.of_step hstep with
  | early h => exact h.elim
  | stopped hr => exact Finset.notMem_erase _ _
  | stopFailed hr => exact absurd httl hg

theorem of_cancel (hstep : step p s (.cancel r) = some s') :
    s'.remove r = .cancelled ∨ p.targetOf r ∉ s'.vms := by
  cases Step.of_step hstep with
  | early h => exact h.elim
  | notFound hr missing => exact .inr missing
  | cancel hr unlocked found => exact .inl (Function.update_self ..)

theorem of_fire (hstep : step p s (.fire i) = some s') : s'.remove (.expiry i) = .ready := by
  cases Step.of_step hstep with
  | early h => exact h.elim
  | fire timer due idle => exact Function.update_self ..

theorem notMem_of_clear {j : ς} (hstep : step p s (.clear j) = some s') : i ∉ s'.vms := by
  cases Step.of_step hstep with
  | early h => exact h.elim
  | clear hj unlocked => exact Finset.notMem_empty i

/-- A removal of a VM with a TTL fails only if the VM is not in the map. -/
theorem notMem_of_failed {err : RemoveError} (hg : Removable p s a)
    (httl : p.HasTTL (p.targetOf r)) (hstep : step p s a = some s')
    (hbef : s.remove r ≠ .returned (some err)) (haft : s'.remove r = .returned (some err)) :
    p.targetOf r ∉ s'.vms := by
  have hoth : ∀ {r' phase}, r ≠ r' →
      Function.update s.remove r' phase r ≠ .returned (some err) := by
    intro r' phase hne
    rwa [Function.update_of_ne hne]
  cases Step.of_step hstep with
  | @notFound r' hr missing =>
    by_cases heq : r = r'
    · subst heq
      exact missing
    · exact absurd haft (hoth heq)
  -- This is what the guard excludes.
  | @stopFailed r' ended hr =>
    by_cases heq : r = r'
    · subst heq
      exact absurd httl hg
    · exact absurd haft (hoth heq)
  | @cancel r' hr _ _ | @stopped r' hr | @deleteRecord r' _ hr =>
    by_cases heq : r = r'
    · subst heq
      simp at haft
    · exact absurd haft (hoth heq)
  | fire timer due idle =>
    exact absurd (of_update_of_not (p := (· = RemovePhase.returned (some err))) (by simp) haft)
      hbef
  | _ => exact absurd haft hbef

end Steps

/-! ### Fair schedules -/

variable [DecidableEq ι] [DecidableEq κ] [DecidableEq ς]

abbrev History (ς : Type) [DecidableEq ς] (p : Params ι κ) : Type :=
  Schedule (step p : State ι κ ς → Action ι κ ς → Option (State ι κ ς))

/-- A timer that is due fires, a removal that holds the mutex goes on, and whoever waits for the
mutex gets it if it is free again and again. -/
structure Fair (sched : History ς p) : Prop where
  fire : ∀ i, sched.WeaklyFair (· = .fire i)
  stop : ∀ r, sched.WeaklyFair fun a => ∃ outcome, a = .stop r outcome
  deleteRecord : ∀ r, sched.WeaklyFair fun a => ∃ ok, a = .deleteRecord r ok
  cancel : ∀ i, sched.StronglyFair (· = .cancel (.expiry i))
  clear : ∀ j, sched.StronglyFair (· = .clear j)

/-- The VM is in the map after its TTL has elapsed. -/
def Overdue (i : ι) (s : State ι κ ς) : Prop :=
  i ∈ s.vms ∧ ∃ t, s.deadline i = some t ∧ t ≤ s.clock

/-- What the TTL of a VM is for: once it has elapsed, the VM leaves the map, and a removal that
fails does not leave the VM in the map without a timer. -/
structure KeepsTTL (sched : History ς p) (i : ι) : Prop where
  removed : sched.LeadsTo (Overdue i) fun s => i ∉ s.vms
  rescheduled : ∀ n r err, p.targetOf r = i → (sched.state n).remove r ≠ .returned (some err) →
    (sched.state (n + 1)).remove r = .returned (some err) → i ∈ (sched.state (n + 1)).vms →
    ∃ t, (sched.state (n + 1)).timers i = .pending t

section Liveness

variable {sched : History ς p}

theorem scheduled_state (hs : Initial (sched.state 0))
    (hg : ∀ n, Removable p (sched.state n) (sched.action n)) (n : Nat) :
    Scheduled p (sched.state n) := by
  induction n with
  | zero => exact hs.scheduled
  | succ n ih => exact ih.step (hg n) (sched.next n)

variable (hinv : ∀ n, Scheduled p (sched.state n)) (hfair : Fair sched)

include hinv hfair

/-! #### The mutex is given up -/

theorem deleting_leadsTo (r : Remover ι κ) :
    sched.LeadsTo (fun s => s.remove r = .deleting) fun s => s.holder = none := by
  refine Schedule.leadsTo_of_weaklyFair (hfair.deleteRecord r) (fun n hr ha => ?_)
    (fun n hr => ?_) fun n hr ha => ?_
  · obtain h | ⟨h, -⟩ | ⟨h, -⟩ | ⟨-, h⟩ := remove_of_step (r := r) (sched.next n) (by simp [hr])
    · exact h.trans hr
    · simp [hr] at h
    · simp [hr] at h
    · exact absurd h ha
  · exact ⟨_, ⟨true, rfl⟩, by simp [step, act, (hinv n).intact, hr]⟩
  · obtain ⟨ok, ha⟩ := ha
    exact holder_of_deleteRecord (Schedule.next_of_action ha)

/-- `Stop` of a removal that holds the mutex brings about what all its outcomes have in common. -/
theorem cancelled_leadsTo (r : Remover ι κ) {q : State ι κ ς → Prop}
    (hstop : ∀ n outcome, sched.action n = .stop r outcome → q (sched.state (n + 1))) :
    sched.LeadsTo (fun s => s.remove r = .cancelled) q := by
  refine Schedule.leadsTo_of_weaklyFair (hfair.stop r) (fun n hr ha => ?_) (fun n hr => ?_)
    fun n hr ha => ?_
  · obtain h | ⟨h, -⟩ | ⟨-, h⟩ | ⟨h, -⟩ := remove_of_step (r := r) (sched.next n) (by simp [hr])
    · exact h.trans hr
    · simp [hr] at h
    · exact absurd h ha
    · simp [hr] at h
  · exact ⟨_, ⟨.stopped, rfl⟩, by simp [step, act, (hinv n).intact, hr]⟩
  · obtain ⟨outcome, ha⟩ := ha
    exact hstop n outcome ha

theorem exists_unlocked (n : Nat) : ∃ m, n ≤ m ∧ (sched.state m).holder = none := by
  cases hholder : (sched.state n).holder with
  | none => exact ⟨n, le_rfl, hholder⟩
  | some r =>
    have hdeleting := deleting_leadsTo hinv hfair r
    have hph := ((hinv n).locked.held r).mp hholder
    cases hr : (sched.state n).remove r with
    | cancelled =>
      have hstop : sched.LeadsTo (fun s => s.remove r = .cancelled)
          fun s => s.remove r = .deleting ∨ s.holder = none :=
        cancelled_leadsTo hinv hfair r fun m outcome ha => of_stop (Schedule.next_of_action ha)
      exact hstop.trans (hdeleting.or (.of_imp fun _ => id)) n hr
    | deleting => exact hdeleting n hr
    | idle | ready | returned => simp [hr, RemovePhase.Holds] at hph

/-! #### A VM with a TTL leaves the map -/

theorem shutting_leadsTo (j : ς) :
    sched.LeadsTo (fun s => s.shutdown j = .cancelled) fun s => i ∉ s.vms := by
  refine Schedule.leadsTo_of_stronglyFair (hfair.clear j) (fun n hj ha => ?_) (fun n hsty => ?_)
    fun n hj ha => ?_
  · exact .inl (shutdown_of_step (sched.next n) hj ha)
  · obtain ⟨m, hnm, hfree⟩ := exists_unlocked hinv hfair n
    exact ⟨m, hnm, _, rfl, by simp [step, act, (hinv m).intact, hsty m hnm, hfree]⟩
  · exact notMem_of_clear (Schedule.next_of_action ha)

theorem removing_leadsTo (hg : ∀ n, Removable p (sched.state n) (sched.action n))
    {r : Remover ι κ} (httl : p.HasTTL (p.targetOf r)) :
    sched.LeadsTo (fun s => s.remove r = .cancelled) fun s => p.targetOf r ∉ s.vms := by
  refine cancelled_leadsTo hinv hfair r fun n outcome ha => ?_
  have hstop := hg n
  rw [ha] at hstop
  exact notMem_of_stop hstop httl (Schedule.next_of_action ha)

theorem waiting_leadsTo (i : ι) :
    sched.LeadsTo (fun s => s.remove (.expiry i) = .ready)
      fun s => s.remove (.expiry i) = .cancelled ∨ i ∉ s.vms := by
  refine Schedule.leadsTo_of_stronglyFair (hfair.cancel i) (fun n hi ha => ?_) (fun n hsty => ?_)
    fun n hi ha => ?_
  · obtain h | ⟨-, h⟩ | ⟨h, -⟩ | ⟨h, -⟩ :=
      remove_of_step (r := .expiry i) (sched.next n) (by simp [hi])
    · exact .inl (h.trans hi)
    · exact absurd h ha
    · simp [hi] at h
    · simp [hi] at h
  · obtain ⟨m, hnm, hfree⟩ := exists_unlocked hinv hfair n
    refine ⟨m, hnm, _, rfl, ?_⟩
    simp only [step, act, (hinv m).intact, hsty m hnm, hfree]
    by_cases hi : i ∈ (sched.state m).vms <;> simp [Params.targetOf, hi]
  · exact of_cancel (Schedule.next_of_action ha)

/-- A timer that is due fires, unless somebody else removes the VM or is about to. -/
theorem pending_leadsTo (httl : p.HasTTL i) (t : Time) :
    sched.LeadsTo (fun s => s.timers i = .pending t ∧ t ≤ s.clock)
      fun s => s.remove (.expiry i) = .ready ∨ (∃ r, s.remove r = .cancelled ∧ p.targetOf r = i) ∨
        (∃ j, s.shutdown j = .cancelled) ∨ i ∉ s.vms := by
  refine Schedule.leadsTo_of_ensures (hfair.fire i) (fun n hi ha => ?_) (fun n hi => ?_)
    fun n hi ha => ?_
  · obtain ⟨htmr, hdue⟩ := hi
    have hset := deadline_of_step (hinv n) (sched.next n) ((hinv n).pending i t htmr).1
    by_cases hmem : i ∈ (sched.state (n + 1)).vms
    · -- Who attends to the VM now? If it is its timer, that is still the same one.
      cases (hinv (n + 1)).attended i httl (by simp [hset]) hmem with
      | pending h =>
        have heq := ((hinv (n + 1)).pending i _ h).1
        rw [hset, Option.some.injEq] at heq
        rw [← heq] at h
        exact .inl ⟨h, hdue.trans (clock_le_of_step (sched.next n))⟩
      | waiting h => exact .inr (.inl h)
      | removing h target => exact .inr (.inr (.inl ⟨_, h, target⟩))
      | shutting h => exact .inr (.inr (.inr (.inl ⟨_, h⟩)))
    · exact .inr (.inr (.inr (.inr hmem)))
  · obtain ⟨htmr, hdue⟩ := hi
    have hidle := ((hinv n).pending i t htmr).2
    exact ⟨_, rfl, by simp [step, act, (hinv n).intact, htmr, hdue, hidle]⟩
  · exact .inl (of_fire (Schedule.next_of_action ha))

theorem overdue_leadsTo (hg : ∀ n, Removable p (sched.state n) (sched.action n))
    (httl : p.HasTTL i) : sched.LeadsTo (Overdue i) fun s => i ∉ s.vms := by
  have hgone : sched.LeadsTo (fun s => i ∉ s.vms) fun s => i ∉ s.vms := .of_imp fun _ => id
  have hrmv : sched.LeadsTo (fun s => ∃ r, s.remove r = .cancelled ∧ p.targetOf r = i)
      fun s => i ∉ s.vms := by
    intro n h
    obtain ⟨r, hr, rfl⟩ := h
    exact removing_leadsTo hinv hfair hg httl n hr
  have hshutting : sched.LeadsTo (fun s => ∃ j, s.shutdown j = .cancelled) fun s => i ∉ s.vms := by
    intro n h
    obtain ⟨j, hj⟩ := h
    exact shutting_leadsTo hinv hfair j n hj
  have hwai : sched.LeadsTo (fun s => s.remove (.expiry i) = .ready) fun s => i ∉ s.vms := by
    refine (waiting_leadsTo hinv hfair i).trans (.or (fun n hi => ?_) hgone)
    exact hrmv n ⟨.expiry i, hi, rfl⟩
  intro n hn
  obtain ⟨hmem, t, hset, hdue⟩ := hn
  -- The invariant says who attends to the VM: each of them removes it in the end.
  cases (hinv n).attended i httl (by simp [hset]) hmem with
  | pending h =>
    have heq := ((hinv n).pending i _ h).1
    rw [hset, Option.some.injEq] at heq
    rw [← heq] at h
    exact (pending_leadsTo hinv hfair httl t).trans
      (hwai.or (hrmv.or (hshutting.or hgone))) n ⟨h, hdue⟩
  | waiting h => exact hwai n h
  | removing h target => exact hrmv n ⟨_, h, target⟩
  | shutting h => exact hshutting n ⟨_, h⟩

end Liveness

/-! ### Runs that come to rest -/

/-- No timer is pending, and no removal and no `Shutdown` is under way. -/
def AtRest (s : State ι κ ς) : Prop :=
  (∀ i, s.timers i = .none) ∧ (∀ k, ¬(s.remove (.caller k)).Holds) ∧
    (∀ i, s.remove (.expiry i) ≠ .ready ∧ ¬(s.remove (.expiry i)).Holds) ∧
    ∀ j, s.shutdown j = .idle

instance [Fintype ι] [Fintype κ] [Fintype ς] : Decidable (AtRest s) :=
  inferInstanceAs (Decidable ((∀ i, s.timers i = .none) ∧ (∀ k, ¬(s.remove (.caller k)).Holds) ∧
    (∀ i, s.remove (.expiry i) ≠ .ready ∧ ¬(s.remove (.expiry i)).Holds) ∧
    ∀ j, s.shutdown j = .idle))

theorem step_tick_clock (s : State ι κ ς) : step p s (.tick s.clock) = some s := by
  simp [step]

omit [DecidableEq ι] [DecidableEq κ] [DecidableEq ς] in
theorem AtRest.not_holds (h : AtRest s) (r : Remover ι κ) : ¬(s.remove r).Holds := by
  cases r with
  | caller k => exact h.2.1 k
  | expiry i => exact (h.2.2.1 i).2

/-- A run after which nothing is left to do but to wait is fair. -/
theorem AtRest.fair {as : List (Action ι κ ς)} {t : State ι κ ς} (h : AtRest t)
    (hrun : Lib.run (step p) s as = some t) : Fair (Schedule.ofRun hrun (step_tick_clock t)) := by
  have hnone : ∀ {a : Action ι κ ς}, (step p t a).isSome = true → ∃ t', step p t a = some t' :=
    Option.isSome_iff_exists.mp
  -- Fairness asks nothing of a run in whose last state none of the actions is enabled.
  refine ⟨fun i => ?_, fun r => ?_, fun r => ?_, fun i => ?_, fun j => ?_⟩
  · refine Schedule.weaklyFair_ofRun _ _ fun hen => ?_
    obtain ⟨a, rfl, hsome⟩ := hen
    obtain ⟨t', hstep⟩ := hnone hsome
    cases Step.of_step hstep with
    | early h => exact h.elim
    | fire timer due idle => simp [h.1 i] at timer
  · refine Schedule.weaklyFair_ofRun _ _ fun hen => ?_
    obtain ⟨a, ⟨outcome, rfl⟩, hsome⟩ := hen
    obtain ⟨t', hstep⟩ := hnone hsome
    cases Step.of_step hstep with
    | early h => exact h.elim
    | stopped hr | stopFailed hr => exact h.not_holds r (by rw [hr]; trivial)
  · refine Schedule.weaklyFair_ofRun _ _ fun hen => ?_
    obtain ⟨a, ⟨ok, rfl⟩, hsome⟩ := hen
    obtain ⟨t', hstep⟩ := hnone hsome
    cases Step.of_step hstep with
    | early h => exact h.elim
    | deleteRecord hr => exact h.not_holds r (by rw [hr]; trivial)
  · refine Schedule.stronglyFair_ofRun _ _ fun hen => ?_
    obtain ⟨a, rfl, hsome⟩ := hen
    obtain ⟨t', hstep⟩ := hnone hsome
    cases Step.of_step hstep with
    | early h => exact h.elim
    | notFound hr _ | cancel hr _ _ => exact (h.2.2.1 i).1 hr
  · refine Schedule.stronglyFair_ofRun _ _ fun hen => ?_
    obtain ⟨a, rfl, hsome⟩ := hen
    obtain ⟨t', hstep⟩ := hnone hsome
    cases Step.of_step hstep with
    | early h => exact h.elim
    | clear hj unlocked => simp [h.2.2.2 j] at hj

/-- A caller removes a VM that cannot be stopped, and then the TTL of the VM elapses. -/
def stopFails (i : ι) (k : κ) : List (Action ι κ ς) :=
  [.screen i, .mount i none, .probeMin i, .start i none, .register i, .setTTL i, .save i true,
    .transition i, .cancel (.caller k), .stop (.caller k) (.failed false), .tick 10]

end SecureBinding.Manager.System
