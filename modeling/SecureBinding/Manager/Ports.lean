import Mathlib.Data.Fintype.Basic
import Mathlib.Data.Set.Function
import SecureBinding.Manager.System

/-!
# Manager.Ports

The ports of the agents (`getFreePort` in `manager/service.go`).

`getFreePort` listens on a port for a moment and releases it; the VM binds it only when it is
started, and nothing reserves the port in between. So another call may be given the same port
before the VM is started, and again once the process of a registered VM has ended.

A probe finds out what it should if every live VM that was given the port is bound to it at that
moment (`Bound`). Then the ports of the live VMs stay different (`DistinctPorts`).
-/

namespace SecureBinding.Manager.System

open Go Lib

variable {ι κ ς : Type}

/-- The VM has been given its port, and it is in the map or may still get there. -/
def Live (s : State ι κ ς) (i : ι) : Prop :=
  s.create i = .allocated ∨ s.create i = .started ∨ i ∈ s.vms

/-- No two live VMs were given the same port. -/
def DistinctPorts (s : State ι κ ς) : Prop := Set.InjOn s.port {i | Live s i}

/-- Every live VM that was given the port is bound to it. -/
def Bound (s : State ι κ ς) (port : Nat) : Prop :=
  ∀ i, Live s i → s.port i = some port → i ∈ s.running

/-- Ports are probed only when that tells whether they are in use. -/
def ProbesBound (p : Params ι κ) (s : State ι κ ς) : Action ι κ ς → Prop
  | .probeMin _ => Bound s p.portRangeMin
  | .probe _ port => Bound s port
  | _ => True

variable {p : Params ι κ} {s s' : State ι κ ς} {a : Action ι κ ς} {i : ι}

instance [DecidableEq ι] : Decidable (Live s i) :=
  inferInstanceAs (Decidable (s.create i = .allocated ∨ s.create i = .started ∨ i ∈ s.vms))

instance [DecidableEq ι] [Fintype ι] (port : Nat) : Decidable (Bound s port) :=
  inferInstanceAs (Decidable (∀ i, Live s i → s.port i = some port → i ∈ s.running))

instance decidableProbesBound [DecidableEq ι] [Fintype ι] : ∀ a, Decidable (ProbesBound p s a)
  | .probeMin _ => inferInstanceAs (Decidable (Bound s p.portRangeMin))
  | .probe _ port => inferInstanceAs (Decidable (Bound s port))
  | .screen _ | .mount _ _ | .noPort _ _ | .start _ _ | .register _ | .stopRejected _ _
  | .setTTL _ | .save _ _ | .transition _ | .cancel _ | .stop _ _ | .deleteRecord _ _ | .fire _
  | .cancelAll _ | .clear _ | .exit _ | .tick _ => .isTrue trivial

theorem Initial.mem_vms_of_live (h : Initial s) (hi : Live s i) : i ∈ s.vms := by
  by_contra hmem
  simp [Live, h.fresh i hmem, hmem] at hi

/-- A port that is free, though every live VM that was given it would be bound to it. -/
theorem Bound.ne_of_free {port : Nat} (h : Bound s port) (hfree : Free s port) (hi : Live s i) :
    s.port i ≠ some port := fun hport => hfree i (h i hi hport) hport

variable [DecidableEq ι] [DecidableEq κ] [DecidableEq ς]

omit [DecidableEq κ] [DecidableEq ς] in
/-- A call moves on, to a phase in which its VM is not live unless it was before. -/
theorem DistinctPorts.move {phase : CreatePhase} (h : DistinctPorts s)
    (hport : s'.port = s.port) (hcr : s'.create = Function.update s.create i phase)
    (hvms : ∀ j ∈ s'.vms, j ∈ s.vms ∨ Live s j)
    (hph : phase = .allocated ∨ phase = .started → Live s i) :
    DistinctPorts s' := by
  unfold DistinctPorts
  rw [hport]
  refine h.mono fun j hj => ?_
  obtain hj | hj | hj := hj
  · rw [hcr] at hj
    obtain ⟨rfl, hnew⟩ | hj := of_update (p := (· = CreatePhase.allocated)) hj
    · exact hph (.inl hnew)
    · exact .inl hj
  · rw [hcr] at hj
    obtain ⟨rfl, hnew⟩ | hj := of_update (p := (· = CreatePhase.started)) hj
    · exact hph (.inr hnew)
    · exact .inr (.inl hj)
  · exact (hvms j hj).elim (fun hj => .inr (.inr hj)) id

omit [DecidableEq κ] [DecidableEq ς] in
theorem DistinctPorts.give {port : Nat} (h : DistinctPorts s)
    (hport : ∀ j, Live s j → s.port j ≠ some port) :
    DistinctPorts (allocate s i port) := by
  have hoth : ∀ j, j ≠ i → Live (allocate s i port) j → Live s j := by
    intro j hji hj
    simpa [Live, allocate, Function.update_of_ne hji] using hj
  intro j hj k hk heq
  simp only [allocate] at heq
  by_cases hji : j = i <;> by_cases hki : k = i
  · exact hji.trans hki.symm
  · subst hji
    rw [Function.update_self, Function.update_of_ne hki] at heq
    exact absurd heq.symm (hport k (hoth k hki hk))
  · subst hki
    rw [Function.update_self, Function.update_of_ne hji] at heq
    exact absurd heq (hport j (hoth j hji hj))
  · rw [Function.update_of_ne hji, Function.update_of_ne hki] at heq
    exact h (hoth j hji hj) (hoth k hki hk) heq

theorem DistinctPorts.step (h : DistinctPorts s) (hg : ProbesBound p s a)
    (hstep : step p s a = some s') : DistinctPorts s' := by
  have hsame : ∀ j ∈ s.vms, j ∈ s.vms ∨ Live s j := fun _ => .inl
  cases Step.of_step hstep with
  | allocateMin hi free | allocate hi free => exact h.give fun j hj => hg.ne_of_free free hj
  | early _ hi next =>
    refine h.move rfl rfl hsame ?_
    cases next <;> simp
  | start hi => exact h.move rfl rfl hsame fun _ => .inl hi
  | @register i hi room =>
    refine h.move rfl rfl (fun j hj => ?_) (by simp)
    obtain rfl | hj := Finset.mem_insert.mp hj
    · exact .inr (.inr (.inl hi))
    · exact .inl hj
  | reject hi | stopRejected hi | badTTL hi ttl | noTTL hi ttl | setTTL hi ttl | save hi
  | transition hi found => exact h.move rfl rfl hsame (by simp)
  | stopped hr =>
    exact h.mono fun j hj => hj.imp_right fun hj => hj.imp_right Finset.mem_of_mem_erase
  | clear hj unlocked =>
    refine h.mono fun j hj => hj.imp_right fun hj => hj.imp_right fun hj => ?_
    exact absurd hj (Finset.notMem_empty j)
  | crash | notFound | cancel | stopFailed | deleteRecord | fire | cancelAll | exit | tick =>
    exact h

/-- If ports are probed only while every live VM is bound to its port, then no two VMs in the map
were given the same port. -/
theorem ports_injOn_of_probesBound (hs : Initial s) (hports : Set.InjOn s.port {i | i ∈ s.vms})
    {as : List (Action ι κ ς)} {t : State ι κ ς}
    (hguard : Guarded (step p) (ProbesBound p) s as) (hrun : Lib.run (step p) s as = some t) :
    Set.InjOn t.port {i | i ∈ t.vms} := by
  have hinit : DistinctPorts s := hports.mono fun i hi => hs.mem_vms_of_live hi
  have h : DistinctPorts t := invariant_of_run DistinctPorts.step hinit hguard hrun
  exact h.mono fun i hi => .inr (.inr hi)

/-- Two calls, the second of which probes the ports when the VM of the first one is started. -/
def oneAfterTheOther (i j : ι) : List (Action ι κ ς) :=
  [.screen i, .screen j, .mount i none, .mount j none, .probeMin i, .start i none, .probeMin j,
    .probe j 6101, .start j none, .register i, .register j]

theorem ports_injOn_of_probesBound_sample : ∃ t : State (Fin 2) (Fin 1) (Fin 1),
    Lib.run (step (sampleParams 0 2 [])) emptyState (oneAfterTheOther 0 1) = some t ∧
      Set.InjOn t.port {i | i ∈ t.vms} := by
  have hsome : (Lib.run (step (sampleParams 0 2 []))
      (emptyState : State (Fin 2) (Fin 1) (Fin 1)) (oneAfterTheOther 0 1)).isSome = true := by
    decide
  have hg : Guarded (step (sampleParams 0 2 [])) (ProbesBound (sampleParams 0 2 []))
      (emptyState : State (Fin 2) (Fin 1) (Fin 1)) (oneAfterTheOther 0 1) := by
    decide
  obtain ⟨t, hrun⟩ := Option.isSome_iff_exists.mp hsome
  refine ⟨t, hrun, ports_injOn_of_probesBound initial_emptyState ?_ hg hrun⟩
  intro i hi
  exact absurd hi (Finset.notMem_empty i)

/-- Two calls that both probe the lowest port before either VM is started. -/
def bothAtOnce (i j : ι) : List (Action ι κ ς) :=
  [.screen i, .screen j, .mount i none, .mount j none, .probeMin i, .probeMin j, .start i none,
    .start j none, .register i, .register j]

theorem port_given_twice : ∃ t : State (Fin 2) (Fin 1) (Fin 1),
    Lib.run (step (sampleParams 0 2 [])) emptyState (bothAtOnce 0 1) = some t ∧
      0 ∈ t.vms ∧ 1 ∈ t.vms ∧ t.port 0 = some 6100 ∧ t.port 1 = some 6100 := by
  have hany : (Lib.run (step (sampleParams 0 2 []))
      (emptyState : State (Fin 2) (Fin 1) (Fin 1)) (bothAtOnce 0 1)).any
      (fun t => decide (0 ∈ t.vms ∧ 1 ∈ t.vms ∧ t.port 0 = some 6100 ∧ t.port 1 = some 6100)) =
        true := by
    decide
  obtain ⟨t, hrun, ht⟩ := (Option.any_eq_true _ _).mp hany
  exact ⟨t, hrun, of_decide_eq_true ht⟩

end SecureBinding.Manager.System
