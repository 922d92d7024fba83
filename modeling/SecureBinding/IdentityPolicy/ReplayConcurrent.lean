import SecureBinding.IdentityPolicy.ReplayCacheSound

/-!
# IdentityPolicy.ReplayConcurrent

Concurrent calls of `MemoryReplayCache.MarkUsed`.

A call takes two atomic steps: it reads the clock and makes the checks that need no
lock, and later it runs its critical section. Between the two any number of other
calls may take steps and the clock may move forward. The state is that of the cache
and of every call, indexed by an arbitrary type; `used` records the readings with
which critical sections have run so far and is read by no step.

`successes_unique_of_run` is the one-shot property: it holds of every run in which
no critical section of `MarkUsed(key, E)` comes after one that used a reading past
`E`. Such a late critical section finds the map purged of its own key.
-/

namespace SecureBinding.IdentityPolicy.ReplayConcurrent

open Go MemoryReplayCache

/-! ### The system -/

/-- The arguments of a `MarkUsed` call. -/
structure Call where
  key : GoString
  expiresAt : Time

inductive Phase
  | idle
  /-- Past its checks and waiting for the lock, with the reading it made. -/
  | waiting (now : Time)
  | returned (err : Option Error)
  deriving DecidableEq

variable {ι : Type}

/-- The shared cache and clock, and the state of every call. -/
structure State (ι : Type) where
  clock : Time
  seen : GoString → Option Time
  phase : ι → Phase
  used : List Time

/-- A new cache and no call started. -/
def init (clock : Time) : State ι := ⟨clock, fun _ => none, fun _ => .idle, []⟩

inductive Action (ι : Type)
  | tick (now : Time)
  | read (i : ι)
  | commit (i : ι)

/-- The phase of a call after it has read the clock. -/
def afterRead (call : Call) (now : Time) : Phase :=
  match checkUse call.key call.expiresAt now with
  | some err => .returned (some err)
  | none => .waiting now

def step [DecidableEq ι] (calls : ι → Call) (s : State ι) : Action ι → Option (State ι)
  | .tick now => if s.clock ≤ now then some { s with clock := now } else none
  | .read i =>
    if s.phase i = .idle then
      some { s with phase := Function.update s.phase i (afterRead (calls i) s.clock) }
    else none
  | .commit i =>
    match s.phase i with
    | .waiting now =>
      let (err, seen) := MemoryReplayCache.commit (calls i).key (calls i).expiresAt now s.seen
      some { s with
        seen, phase := Function.update s.phase i (.returned err), used := now :: s.used }
    | _ => none

/-- Call `i` returned nil. -/
def Succeeded (s : State ι) (i : ι) : Prop := s.phase i = .returned none

/-- No two calls with the same arguments have returned nil. -/
def OneShot (calls : ι → Call) (s : State ι) : Prop :=
  ∀ i j, Succeeded s i → Succeeded s j → calls i = calls j → i = j

/-! ### The one-shot property -/

/-- Before a critical section of `MarkUsed(key, E)` no critical section has used a
reading past `E`. -/
def InTime (calls : ι → Call) (s : State ι) : Action ι → Prop
  | .commit i => ∀ now ∈ s.used, now ≠ 0 → now ≤ (calls i).expiresAt
  | _ => True

instance (calls : ι → Call) (s : State ι) : ∀ a, Decidable (InTime calls s a)
  | .tick _ => isTrue trivial
  | .read _ => isTrue trivial
  | .commit i => inferInstanceAs
      (Decidable (∀ now ∈ s.used, now ≠ 0 → now ≤ (calls i).expiresAt))

structure Inv (calls : ι → Call) (s : State ι) : Prop where
  oneShot : OneShot calls s
  /-- A waiting call has passed its checks with the reading it holds. -/
  checked : ∀ i now, s.phase i = .waiting now →
    checkUse (calls i).key (calls i).expiresAt now = none
  /-- A success is on record until a critical section uses a reading past it. -/
  recorded : ∀ i, Succeeded s i → s.seen (calls i).key = some (calls i).expiresAt ∨
      ∃ now ∈ s.used, now ≠ 0 ∧ (calls i).expiresAt < now

variable {calls : ι → Call} {s t : State ι} {a : Action ι} {i : ι}

theorem inv_init {clock : Time} : Inv calls (init clock) where
  oneShot i j hi := by simp [Succeeded, init] at hi
  checked i now h := by simp [init] at h
  recorded i hi := by simp [Succeeded, init] at hi

theorem afterRead_ne_returned {call : Call} {now : Time} : afterRead call now ≠ .returned none := by
  unfold afterRead
  split <;> simp

theorem checkUse_of_afterRead {call : Call} {now r : Time} (h : afterRead call now = .waiting r) :
    checkUse call.key call.expiresAt r = none := by
  unfold afterRead at h
  split at h
  · cases h
  · rename_i hchk
    cases h
    exact hchk

/-- A critical section in time refuses arguments that were accepted before: they are still
on record, and have not expired. -/
theorem Inv.refused {now : Time} {j : ι} (hi : Inv calls s) (hwait : s.phase i = .waiting now)
    (hg : InTime calls s (.commit i)) (hj : Succeeded s j) (hsame : calls j = calls i) :
    (MemoryReplayCache.commit (calls i).key (calls i).expiresAt now s.seen).1 =
      some (.sentinel .replayDetected) := by
  have hlive := expired_eq_false_of_checkUse (hi.checked i now hwait)
  obtain hseen | ⟨r, hr, hne, hlt⟩ := hi.recorded j hj
  · rw [hsame] at hseen
    exact commit_refuses hseen hlive
  · rw [hsame] at hlt
    exact absurd (hg r hr hne) (not_le.mpr hlt)

/-- What is on record stays there through a critical section, until one uses a reading past
it. -/
theorem Inv.recorded_commit {now expiresAt : Time} {key : GoString} {j : ι} (hi : Inv calls s)
    (hj : Succeeded s j) :
    (MemoryReplayCache.commit key expiresAt now s.seen).2 (calls j).key = some (calls j).expiresAt ∨
      ∃ r ∈ now :: s.used, r ≠ 0 ∧ (calls j).expiresAt < r := by
  obtain hseen | ⟨r, hr, hlt⟩ := hi.recorded j hj
  · by_cases hexp : expired now (calls j).expiresAt = true
    · exact .inr ⟨now, List.mem_cons_self, (expired_iff.mp hexp).2⟩
    · exact .inl (commit_keeps hseen (by simpa using hexp))
  · exact .inr ⟨r, List.mem_cons_of_mem _ hr, hlt⟩

variable [DecidableEq ι]

theorem step_cases (h : step calls s a = some t) :
    (∃ now, a = .tick now ∧ t = { s with clock := now }) ∨
    (∃ i, a = .read i ∧ s.phase i = .idle ∧
      t = { s with phase := Function.update s.phase i (afterRead (calls i) s.clock) }) ∨
    (∃ i now, a = .commit i ∧ s.phase i = .waiting now ∧
      t = { s with
        seen := (MemoryReplayCache.commit (calls i).key (calls i).expiresAt now s.seen).2
        phase := Function.update s.phase i (.returned
          (MemoryReplayCache.commit (calls i).key (calls i).expiresAt now s.seen).1)
        used := now :: s.used }) := by
  cases a with
  | tick now =>
    simp only [step, Lib.enabled_iff] at h
    exact .inl ⟨now, rfl, h.2.symm⟩
  | read i =>
    simp only [step, Lib.enabled_iff] at h
    exact .inr (.inl ⟨i, rfl, h.1, h.2.symm⟩)
  | commit i =>
    simp only [step] at h
    split at h
    · rename_i now hph
      exact .inr (.inr ⟨i, now, rfl, hph, (Option.some.inj h).symm⟩)
    · cases h

/-- Reading the clock makes no call succeed, and leaves the others alone. -/
theorem inv_read (hi : Inv calls s) :
    Inv calls { s with phase := Function.update s.phase i (afterRead (calls i) s.clock) } := by
  have hsucc : ∀ j, Function.update s.phase i (afterRead (calls i) s.clock) j = .returned none →
      Succeeded s j :=
    fun _ hj => Lib.of_update_of_not (p := (· = Phase.returned none)) afterRead_ne_returned hj
  exact {
    oneShot := fun j k hj hk => hi.oneShot j k (hsucc j hj) (hsucc k hk)
    checked := (Function.forall_update_iff s.phase fun j phase => ∀ now, phase = .waiting now →
      checkUse (calls j).key (calls j).expiresAt now = none).mpr
        ⟨fun _ => checkUse_of_afterRead, fun j _ => hi.checked j⟩
    recorded := fun j hj => hi.recorded j (hsucc j hj) }

/-- A critical section in time succeeds at most once for its arguments. -/
theorem inv_commit {now : Time} (hi : Inv calls s) (hwait : s.phase i = .waiting now)
    (hg : InTime calls s (.commit i)) :
    Inv calls { s with
      seen := (MemoryReplayCache.commit (calls i).key (calls i).expiresAt now s.seen).2
      phase := Function.update s.phase i (.returned
        (MemoryReplayCache.commit (calls i).key (calls i).expiresAt now s.seen).1)
      used := now :: s.used } := by
  set err := (MemoryReplayCache.commit (calls i).key (calls i).expiresAt now s.seen).1 with herr
  have hnew : ∀ j, Function.update s.phase i (.returned err) j = .returned none →
      (j = i ∧ err = none) ∨ Succeeded s j := by
    intro j hj
    obtain ⟨rfl, h⟩ | h := Lib.of_update (p := (· = Phase.returned none)) hj
    · exact .inl ⟨rfl, by simpa using h⟩
    · exact .inr h
  have hfre : err = none → ∀ j, Succeeded s j → calls j ≠ calls i := by
    intro hnone j hj hsame
    simp [herr, hi.refused hwait hg hj hsame] at hnone
  have honce : Lib.AtMostOnce calls (Succeeded s) := hi.oneShot
  refine ⟨honce.verdict hnew hfre, ?_, fun j hj => ?_⟩
  · refine (Function.forall_update_iff s.phase fun j phase => ∀ now, phase = .waiting now →
      checkUse (calls j).key (calls j).expiresAt now = none).mpr ⟨?_, fun j _ => hi.checked j⟩
    intro r h
    cases h
  · obtain ⟨rfl, hnone⟩ | hj := hnew j hj
    · exact .inl (commit_records hnone)
    · exact hi.recorded_commit hj

theorem inv_step (hi : Inv calls s) (hg : InTime calls s a) (h : step calls s a = some t) :
    Inv calls t := by
  obtain ⟨now, rfl, rfl⟩ | ⟨i, rfl, -, rfl⟩ | ⟨i, now, rfl, hwait, rfl⟩ := step_cases h
  · exact ⟨hi.oneShot, hi.checked, hi.recorded⟩
  · exact inv_read hi
  · exact inv_commit hi hwait hg

/-- For every number of callers, every interleaving and every clock schedule: if no
critical section comes after one that used a reading past its expiry, then for each
key and expiry at most one call returns nil. -/
theorem successes_unique_of_run {clock : Time} {as : List (Action ι)}
    (hguard : Lib.Guarded (step calls) (InTime calls) (init clock) as)
    (hrun : Lib.run (step calls) (init clock) as = some s) : OneShot calls s :=
  (Lib.invariant_of_run inv_step inv_init hguard hrun).oneShot

/-! ### The race -/

/-- Three calls: two with the same key and expiry `10`, and one with another key. -/
def raceCalls : Fin 3 → Call
  | 0 => ⟨lit "k", 10⟩
  | 1 => ⟨lit "k", 10⟩
  | 2 => ⟨lit "other", 20⟩

/-- Both calls for the key read the clock at time `5`, one commits; at time `11` the
third call purges the key, and then the other one commits as well. -/
def raceSchedule : List (Action (Fin 3)) :=
  [.read 0, .read 1, .commit 0, .tick 11, .read 2, .commit 2, .commit 1]

/-- Without the condition two calls with the same key and expiry return nil. -/
theorem race_succeeds_twice :
    ∃ s, Lib.run (step raceCalls) (init 5) raceSchedule = some s ∧
      Succeeded s 0 ∧ Succeeded s 1 ∧ raceCalls 0 = raceCalls 1 := by
  have h : (Lib.run (step raceCalls) (init 5) raceSchedule).map
      (fun s => (s.phase 0, s.phase 1)) = some (.returned none, .returned none) := by
    decide
  obtain ⟨s, hrun, hs⟩ := Option.map_eq_some_iff.mp h
  exact ⟨s, hrun, congrArg Prod.fst hs, congrArg Prod.snd hs, rfl⟩

/-- When the critical sections of the two calls come before the purge, the condition
holds, and one of them fails. -/
theorem successes_unique_of_early_commits :
    ∃ s, Lib.run (step raceCalls) (init 5)
        [.read 0, .read 1, .commit 0, .commit 1, .tick 11, .read 2, .commit 2] = some s ∧
      OneShot raceCalls s := by
  have hsome : (Lib.run (step raceCalls) (init 5)
      [.read 0, .read 1, .commit 0, .commit 1, .tick 11, .read 2, .commit 2]).isSome = true := by
    decide
  obtain ⟨s, hrun⟩ := Option.isSome_iff_exists.mp hsome
  exact ⟨s, hrun, successes_unique_of_run (by decide) hrun⟩

end SecureBinding.IdentityPolicy.ReplayConcurrent
