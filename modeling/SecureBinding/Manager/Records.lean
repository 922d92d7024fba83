import SecureBinding.Manager.System

/-!
# Manager.Records

The map of the manager and the persisted records (`manager/service.go`).

`CreateVM` puts its VM into the map and only then, in steps of its own and without the mutex, sets
the TTL, persists the record and looks the VM up again. A removal that stops the VM in one of
these gaps takes it out of the map before the record is written: the record stays, and the call
dereferences an entry that is missing, which ends the program. A TTL that does not parse and a
failure of the persistence leave the map and the records apart as well.

If nothing of the kind happens (`Undisturbed`), no call ever misses its entry, and whenever no call
is under way, the records are those of the VMs in the map, `Shutdown` apart. The invariant says
for each VM what holds of it in the phase of the call that creates it (`Entry`).
-/

namespace SecureBinding.Manager.System

open Go Lib

variable {ι κ ς : Type}

/-! ### One VM -/

/-- The call has put its VM into the map and will look it up once more. -/
def CreatePhase.IsUnderway : CreatePhase → Prop
  | registered | timed | saved => True
  | _ => False

instance (phase : CreatePhase) : Decidable phase.IsUnderway :=
  match phase with
  | .registered | .timed | .saved => .isTrue trivial
  | .idle | .admitted | .mounted | .scanning | .allocated | .started | .rejected
  | .returned _ => .isFalse id

/-- A removal has taken the VM out of the map and has not yet deleted its record. -/
def Deleting (p : Params ι κ) (s : State ι κ ς) (i : ι) : Prop :=
  ∃ r, s.remove r = .deleting ∧ p.targetOf r = i

/-- What holds of a VM, by the phase of the call that creates it. -/
def Entry (registered persisted deleting dropped : Prop) : CreatePhase → Prop
  | .registered | .timed => registered ∧ ¬persisted ∧ ¬deleting
  | .saved => registered ∧ persisted ∧ ¬deleting
  | .returned none =>
    (¬dropped → (persisted ↔ registered ∨ deleting)) ∧ ¬(registered ∧ deleting)
  | _ => ¬registered ∧ ¬persisted ∧ ¬deleting

def HasEntry (p : Params ι κ) (s : State ι κ ς) (i : ι) : Prop :=
  Entry (i ∈ s.vms) (i ∈ s.persisted) (Deleting p s i) (i ∈ s.dropped) (s.create i)

variable {p : Params ι κ} {s s' : State ι κ ς} {a : Action ι κ ς} {i j : ι}

variable {reg pers del drop : Prop} {phase : CreatePhase}

theorem Entry.not_registered
    (h : Entry reg pers del drop phase) (hear : phase.IsEarly) : ¬reg ∧ ¬pers ∧ ¬del := by
  cases phase <;> first | exact h | exact hear.elim

theorem Entry.of_followsEarly
    (h : ¬reg ∧ ¬pers ∧ ¬del) (hnext : phase.FollowsEarly) : Entry reg pers del drop phase := by
  cases hnext <;> exact h

/-- A registered VM that is not under way is one whose call has succeeded. -/
theorem Entry.eq_returned
    (h : Entry reg pers del drop phase) (hreg : reg) (hph : ¬phase.IsUnderway) :
    phase = .returned none := by
  cases phase with
  | registered | timed | saved => exact absurd trivial hph
  | returned err =>
    cases err with
    | none => rfl
    | some err => exact absurd hreg h.1
  | _ => exact absurd hreg h.1

theorem Entry.eq_returned_of_deleting
    (h : Entry reg pers del drop phase) (hdel : del) : phase = .returned none := by
  cases phase with
  | returned err =>
    cases err with
    | none => rfl
    | some err => exact absurd hdel h.2.2
  | _ => exact absurd hdel h.2.2

theorem Locked.not_deleting (h : Locked p s) (hholder : s.holder = none) : ¬Deleting p s i := by
  intro h'
  obtain ⟨r, hr, -⟩ := h'
  have hheld : s.holder = some r := (h.held r).mpr (by rw [hr]; trivial)
  rw [hholder] at hheld
  cases hheld

/-! ### The other VMs -/

/-- Apart from `i`, all VMs are as before. -/
structure Elsewhere (p : Params ι κ) (i : ι) (s s' : State ι κ ς) : Prop where
  create : ∀ j, j ≠ i → s'.create j = s.create j
  vms : ∀ j, j ≠ i → (j ∈ s'.vms ↔ j ∈ s.vms)
  persisted : ∀ j, j ≠ i → (j ∈ s'.persisted ↔ j ∈ s.persisted)
  deleting : ∀ j, j ≠ i → (Deleting p s' j ↔ Deleting p s j)
  dropped : s'.dropped = s.dropped

theorem Elsewhere.hasEntry (h : Elsewhere p i s s') (hji : j ≠ i) (hj : HasEntry p s j) :
    HasEntry p s' j := by
  unfold HasEntry
  rw [h.create j hji, h.vms j hji, h.persisted j hji, h.deleting j hji, h.dropped]
  exact hj

theorem deleting_congr (h : s'.remove = s.remove) : Deleting p s' j ↔ Deleting p s j := by
  rw [Deleting, Deleting, h]

variable [DecidableEq ι]

theorem Elsewhere.of_create
    (hcr : s'.create = Function.update s.create i phase) (hrm : s'.remove = s.remove)
    (hvms : ∀ j, j ≠ i → (j ∈ s'.vms ↔ j ∈ s.vms))
    (hpers : ∀ j, j ≠ i → (j ∈ s'.persisted ↔ j ∈ s.persisted))
    (hdr : s'.dropped = s.dropped) : Elsewhere p i s s' where
  create j hj := by rw [hcr, Function.update_of_ne hj]
  vms := hvms
  persisted := hpers
  deleting _ _ := deleting_congr hrm
  dropped := hdr

variable [DecidableEq κ]

omit [DecidableEq ι] [DecidableEq κ] in
theorem deleting_update [DecidableEq (Remover ι κ)] {r : Remover ι κ} {phase : RemovePhase}
    (hrm : s'.remove = Function.update s.remove r phase)
    (hr : phase = .deleting ∨ s.remove r = .deleting → j ≠ p.targetOf r) :
    Deleting p s' j ↔ Deleting p s j := by
  unfold Deleting
  rw [hrm]
  refine exists_congr fun r' => and_congr_left fun htgt => ?_
  by_cases heq : r' = r
  · subst heq
    rw [Function.update_self]
    refine ⟨fun h => absurd htgt.symm (hr (.inl h)), fun h => absurd htgt.symm (hr (.inr h))⟩
  · rw [Function.update_of_ne heq]

theorem Elsewhere.of_remove {r : Remover ι κ} {phase : RemovePhase}
    (hrm : s'.remove = Function.update s.remove r phase) (hcr : s'.create = s.create)
    (hvms : ∀ j, j ≠ p.targetOf r → (j ∈ s'.vms ↔ j ∈ s.vms))
    (hpers : ∀ j, j ≠ p.targetOf r → (j ∈ s'.persisted ↔ j ∈ s.persisted))
    (hdr : s'.dropped = s.dropped) : Elsewhere p (p.targetOf r) s s' where
  create j _ := by rw [hcr]
  vms := hvms
  persisted := hpers
  deleting _ hj := deleting_update hrm fun _ => hj
  dropped := hdr

/-! ### Runs -/

/-- A VM is stopped by a removal, and dropped by `Shutdown`, only when the call that creates it
has returned; a TTL that is given parses; and the persistence does not fail. -/
def Undisturbed (p : Params ι κ) (s : State ι κ ς) : Action ι κ ς → Prop
  | .stop r .stopped => ¬(s.create (p.targetOf r)).IsUnderway
  | .clear _ => ∀ i ∈ s.vms, ¬(s.create i).IsUnderway
  | .setTTL i => (p.ttl i).isOk = true
  | .save _ ok | .deleteRecord _ ok => ok = true
  | _ => True

omit [DecidableEq ι] [DecidableEq κ] in
instance decidableUndisturbed : ∀ a, Decidable (Undisturbed p s a)
  | .stop r .stopped => inferInstanceAs (Decidable (¬(s.create (p.targetOf r)).IsUnderway))
  | .clear _ => inferInstanceAs (Decidable (∀ i ∈ s.vms, ¬(s.create i).IsUnderway))
  | .setTTL i => inferInstanceAs (Decidable ((p.ttl i).isOk = true))
  | .save _ ok | .deleteRecord _ ok => inferInstanceAs (Decidable (ok = true))
  | .stop _ (.failed _) | .screen _ | .mount _ _ | .probeMin _ | .probe _ _ | .noPort _ _
  | .start _ _ | .register _ | .stopRejected _ _ | .transition _ | .cancel _ | .fire _
  | .cancelAll _ | .exit _ | .tick _ => .isTrue trivial

/-- The invariant of undisturbed runs. -/
structure Consistent (p : Params ι κ) (s : State ι κ ς) : Prop where
  intact : s.crashed = false
  locked : Locked p s
  entry : ∀ i, HasEntry p s i

omit [DecidableEq ι] [DecidableEq κ] in
theorem Initial.consistent (h : Initial s) : Consistent p s := by
  refine ⟨h.crashed, h.locked, fun i => ?_⟩
  have hdel : ¬Deleting p s i := h.locked.not_deleting h.holder
  unfold HasEntry
  by_cases hi : i ∈ s.vms
  · rw [h.restored i hi]
    exact ⟨fun _ => by simp [h.persisted, hi], fun h' => hdel h'.2⟩
  · rw [h.fresh i hi]
    exact ⟨hi, by rwa [h.persisted], hdel⟩

omit [DecidableEq ι] [DecidableEq κ] in
theorem Consistent.move (h : Consistent p s) (hcra : s'.crashed = s.crashed)
    (hlck : Locked p s') (helse : Elsewhere p i s s') (hself : HasEntry p s' i) :
    Consistent p s' := by
  refine ⟨hcra.trans h.intact, hlck, fun j => ?_⟩
  by_cases hji : j = i
  · subst hji
    exact hself
  · exact helse.hasEntry hji (h.entry j)

omit [DecidableEq κ] in
/-- A call moves on and leaves the map and the records as they are. -/
theorem Consistent.move_create (h : Consistent p s)
    (hlck : Locked p s') (hcr : s'.create = Function.update s.create i phase)
    (hsame : s'.vms = s.vms ∧ s'.persisted = s.persisted ∧ s'.remove = s.remove ∧
      s'.dropped = s.dropped ∧ s'.crashed = s.crashed)
    (hself : Entry (i ∈ s.vms) (i ∈ s.persisted) (Deleting p s i) (i ∈ s.dropped) phase) :
    Consistent p s' := by
  obtain ⟨hvms, hpers, hrm, hdr, hcra⟩ := hsame
  refine h.move hcra hlck (.of_create hcr hrm (fun j _ => by rw [hvms])
    (fun j _ => by rw [hpers]) hdr) ?_
  unfold HasEntry
  rw [hcr, Function.update_self, hvms, hpers, hdr, deleting_congr hrm]
  exact hself

/-- A removal moves on and leaves the map and the records as they are. -/
theorem Consistent.move_remove {r : Remover ι κ} {phase : RemovePhase} (h : Consistent p s)
    (hlck : Locked p s') (hrm : s'.remove = Function.update s.remove r phase)
    (hph : phase ≠ .deleting ∧ s.remove r ≠ .deleting)
    (hsame : s'.vms = s.vms ∧ s'.persisted = s.persisted ∧ s'.create = s.create ∧
      s'.dropped = s.dropped ∧ s'.crashed = s.crashed) : Consistent p s' := by
  obtain ⟨hvms, hpers, hcr, hdr, hcra⟩ := hsame
  refine ⟨hcra.trans h.intact, hlck, fun j => ?_⟩
  have hdel : Deleting p s' j ↔ Deleting p s j :=
    deleting_update hrm fun hor => (not_or.mpr hph hor).elim
  unfold HasEntry
  rw [hvms, hpers, hcr, hdr, hdel]
  exact h.entry j

variable [DecidableEq ς]

theorem Consistent.step (h : Consistent p s) (hg : Undisturbed p s a)
    (hstep : step p s a = some s') : Consistent p s' := by
  have hlck := h.locked.step hstep
  have hent : ∀ {i phase}, s.create i = phase →
      Entry (i ∈ s.vms) (i ∈ s.persisted) (Deleting p s i) (i ∈ s.dropped) phase := by
    intro i phase hi
    rw [← hi]
    exact h.entry i
  cases Step.of_step hstep with
  | early _ hi next =>
    exact h.move_create hlck rfl ⟨rfl, rfl, rfl, rfl, rfl⟩
      (.of_followsEarly ((h.entry _).not_registered hi) next)
  | allocateMin hi free | allocate hi free =>
    exact h.move_create hlck rfl ⟨rfl, rfl, rfl, rfl, rfl⟩ ((h.entry _).not_registered hi)
  | start hi | reject hi | stopRejected hi | noTTL hi ttl | setTTL hi ttl =>
    have hself := hent hi
    exact h.move_create hlck rfl ⟨rfl, rfl, rfl, rfl, rfl⟩ hself
  | @register i hi room =>
    obtain ⟨-, hpers, hdel⟩ := hent hi
    refine h.move rfl hlck (.of_create rfl rfl (fun j hj => ?_) (fun _ _ => Iff.rfl) rfl) ?_
    · exact Finset.mem_insert.trans (or_iff_right hj)
    · simp only [HasEntry, Function.update_self]
      exact ⟨Finset.mem_insert_self i s.vms, hpers, hdel⟩
  | badTTL hi ttl =>
    -- A TTL that is given parses.
    have hok : (p.ttl _).isOk = true := hg
    rw [ttl] at hok
    cases hok
  -- The record is written after the VM is registered, and by the guard it is.
  | @save i ok hi =>
    obtain ⟨hreg, -, hdel⟩ := hent hi
    obtain rfl : ok = true := hg
    refine h.move rfl hlck (.of_create rfl rfl (fun _ _ => Iff.rfl) (fun j hj => ?_) rfl) ?_
    · exact Finset.mem_insert.trans (or_iff_right hj)
    · simp only [HasEntry, Function.update_self]
      exact ⟨hreg, Finset.mem_insert_self i s.persisted, hdel⟩
  | transition hi found =>
    obtain ⟨hreg, hpers, hdel⟩ := hent hi
    refine h.move_create hlck rfl ⟨rfl, rfl, rfl, rfl, rfl⟩ ?_
    exact ⟨fun _ => ⟨fun _ => .inl hreg, fun _ => hpers⟩, fun h' => hdel h'.2⟩
  | crash hi missing =>
    -- Until then nobody takes the VM out of the map.
    exact absurd (hent hi).1 missing
  | notFound hr missing | cancel hr unlocked found =>
    exact h.move_remove hlck rfl (by simp [hr]) ⟨rfl, rfl, rfl, rfl, rfl⟩
  | stopFailed hr => exact h.move_remove hlck rfl (by simp [hr]) ⟨rfl, rfl, rfl, rfl, rfl⟩
  | fire timer due idle =>
    exact h.move_remove hlck rfl (by simp [idle]) ⟨rfl, rfl, rfl, rfl, rfl⟩
  -- From here until its record is deleted the VM is out of the map, and counts as deleting.
  | @stopped r hr =>
    have hreg := h.locked.present r hr
    have hph := (h.entry (p.targetOf r)).eq_returned hreg hg
    obtain ⟨hpers, hdel⟩ := hent hph
    refine h.move rfl hlck (.of_remove rfl rfl (fun j hj => ?_) (fun _ _ => Iff.rfl) rfl) ?_
    · exact Finset.mem_erase.trans (and_iff_right hj)
    · have hnow : Deleting p { s with
          remove := Function.update s.remove r .deleting
          running := runningAfter s.running (p.targetOf r) .stopped
          vms := s.vms.erase (p.targetOf r) } (p.targetOf r) := ⟨r, Function.update_self .., rfl⟩
      simp only [HasEntry, hph]
      refine ⟨fun hdrop => ⟨fun _ => .inr hnow, fun _ => (hpers hdrop).mpr (.inl hreg)⟩, ?_⟩
      exact fun h' => Finset.notMem_erase _ _ h'.1
  | @deleteRecord r ok hr =>
    obtain rfl : ok = true := hg
    have hph := (h.entry (p.targetOf r)).eq_returned_of_deleting ⟨r, hr, rfl⟩
    have hreg : p.targetOf r ∉ s.vms := fun hreg => (hent hph).2 ⟨hreg, r, hr, rfl⟩
    refine h.move rfl hlck (.of_remove rfl rfl (fun _ _ => Iff.rfl) (fun j hj => ?_) rfl) ?_
    · exact Finset.mem_erase.trans (and_iff_right hj)
    · simp only [HasEntry, hph]
      refine ⟨fun _ => iff_of_false (Finset.notMem_erase _ _) ?_, fun h' => hreg h'.1⟩
      -- It was the only one that held the mutex.
      exact not_or.mpr ⟨hreg, hlck.not_deleting rfl⟩
  | clear hj unlocked =>
    refine ⟨h.intact, hlck, fun i => ?_⟩
    by_cases hi : i ∈ s.vms
    · have hph := (h.entry i).eq_returned hi (hg i hi)
      simp only [HasEntry, hph]
      refine ⟨fun hdrop => absurd (Finset.mem_union_right _ hi) hdrop, ?_⟩
      exact fun h' => Finset.notMem_empty i h'.1
    · have hent := h.entry i
      simp only [HasEntry, Finset.mem_union, Finset.notMem_empty, hi, or_false] at hent ⊢
      exact hent
  | cancelAll | exit | tick => exact ⟨h.intact, hlck, h.entry⟩

/-- No `CreateVM` and no removal is under way. -/
def Quiescent (s : State ι κ ς) : Prop :=
  (∀ i, s.create i = .idle ∨ ∃ err, s.create i = .returned err) ∧ s.holder = none

omit [DecidableEq ι] [DecidableEq κ] [DecidableEq ς] in
theorem Consistent.persisted_iff (h : Consistent p s) (hquiet : Quiescent s)
    (hi : i ∉ s.dropped) : i ∈ s.persisted ↔ i ∈ s.vms := by
  have hent := h.entry i
  have hdel : ¬Deleting p s i := h.locked.not_deleting hquiet.2
  unfold HasEntry at hent
  obtain hidle | ⟨err, hret⟩ := hquiet.1 i
  · rw [hidle] at hent
    exact iff_of_false hent.2.1 hent.1
  · rw [hret] at hent
    cases err with
    | none => exact (hent.1 hi).trans (or_iff_left hdel)
    | some err => exact iff_of_false hent.2.1 hent.1

/-- In an undisturbed run no call misses its entry of the map, and whenever no call is under way,
the persisted records are those of the VMs in the map, apart from what `Shutdown` has dropped. -/
theorem linearizable_of_undisturbed (hs : Initial s) {as : List (Action ι κ ς)}
    {t : State ι κ ς} (hguard : Guarded (step p) (Undisturbed p) s as)
    (hrun : Lib.run (step p) s as = some t) :
    t.crashed = false ∧ (Quiescent t → ∀ i ∉ t.dropped, (i ∈ t.persisted ↔ i ∈ t.vms)) := by
  have h : Consistent p t := invariant_of_run Consistent.step hs.consistent hguard hrun
  exact ⟨h.intact, fun hquiet i => h.persisted_iff hquiet⟩

theorem linearizable_of_undisturbed_sample : ∃ t : State (Fin 1) (Fin 1) (Fin 1),
    Lib.run (step (sampleParams 0 1 (lit "10ns"))) emptyState (createdThenExpired 0) = some t ∧
      t.crashed = false ∧ (Quiescent t → ∀ i ∉ t.dropped, (i ∈ t.persisted ↔ i ∈ t.vms)) := by
  have hsome : (Lib.run (step (sampleParams 0 1 (lit "10ns")))
      (emptyState : State (Fin 1) (Fin 1) (Fin 1)) (createdThenExpired 0)).isSome = true := by
    decide
  have hg : Guarded (step (sampleParams 0 1 (lit "10ns")))
      (Undisturbed (sampleParams 0 1 (lit "10ns")))
      (emptyState : State (Fin 1) (Fin 1) (Fin 1)) (createdThenExpired 0) := by
    decide
  obtain ⟨t, hrun⟩ := Option.isSome_iff_exists.mp hsome
  exact ⟨t, hrun, linearizable_of_undisturbed initial_emptyState hg hrun⟩

/-- The TTL of a VM elapses before its record is written. -/
def expiredThenSaved (i : ι) : List (Action ι κ ς) :=
  [.screen i, .mount i none, .probeMin i, .start i none, .register i, .setTTL i, .tick 10, .fire i,
    .cancel (.expiry i), .stop (.expiry i) .stopped, .deleteRecord (.expiry i) true, .save i true,
    .transition i]

/-- The call then dereferences a missing entry, and the record of the removed VM stays. -/
theorem removed_during_creation : ∃ t : State (Fin 1) (Fin 1) (Fin 1),
    Lib.run (step (sampleParams 0 1 (lit "10ns"))) emptyState (expiredThenSaved 0) = some t ∧
      t.crashed = true ∧ 0 ∈ t.persisted ∧ 0 ∉ t.vms := by
  have hany : (Lib.run (step (sampleParams 0 1 (lit "10ns")))
      (emptyState : State (Fin 1) (Fin 1) (Fin 1)) (expiredThenSaved 0)).any
      (fun t => decide (t.crashed = true ∧ 0 ∈ t.persisted ∧ 0 ∉ t.vms)) = true := by
    decide
  obtain ⟨t, hrun, ht⟩ := (Option.any_eq_true _ _).mp hany
  exact ⟨t, hrun, of_decide_eq_true ht⟩

end SecureBinding.Manager.System
