import SecureBinding.Agent.Loops

/-!
# Agent.Isolation

What one computation leaves to the next.

A goroutine of `runComputation` is not told that its computation was stopped. It goes on, with
the files, the result and the error of whatever computation is the present one. If the
goroutines have finished when `StopComputation` clears the service, and no loop is about to
start another, then what `Result` returns is always of the present computation, and so is every
goroutine that touches its files (`computations_isolated`).
-/

namespace SecureBinding.Agent

open Go Lib
open StateMachine (Loop LoopAction LoopStep)

/-! ### What the operations do to the result and the error -/

section Operations

variable {env : Env} {s : Service} {f : Files}

/-- The result is kept, and so is the error by an operation that does not fail the
computation. -/
structure KeepsRun (s : Service) (o : Outcome) : Prop where
  result : o.service.result = s.result
  error : o.event ≠ some .runFailed → o.service.runError = s.runError

theorem keepsRun_algo {c : AlgoCall} {o : Outcome} (h : AlgoResult env s f c o) :
    KeepsRun s o ∧ o.event ≠ some .runFailed := by
  cases h with
  | installed => exact ⟨⟨rfl, fun _ => rfl⟩, by simp⟩
  | _ => exact ⟨⟨rfl, fun _ => rfl⟩, nofun⟩

theorem keepsRun_downloadAlgorithm {o : Outcome} (h : DownloadAlgoResult env s f o) :
    KeepsRun s o := by
  cases h with
  | uploaded | installed => exact ⟨rfl, fun _ => rfl⟩
  | failed | stuck => exact ⟨rfl, fun hev => absurd rfl hev⟩

theorem keepsRun_data {c : DataCall} {o : Outcome} (h : DataResult env s f c o) :
    KeepsRun s o ∧ o.event ≠ some .runFailed := by
  cases h with
  | accepted => exact ⟨⟨rfl, fun _ => rfl⟩, by simp [Service.dataReceived]⟩
  | rejected => exact ⟨⟨rfl, fun _ => rfl⟩, by simp [Service.reject]⟩

theorem keepsRun_downloadDatasets {c : DataCall} {i : Nat} {o : Outcome}
    (h : DownloadResult env c s f i o) : KeepsRun s o := by
  induction h with
  | done => exact ⟨rfl, fun _ => rfl⟩
  | skip _ _ ih => exact ih
  | failed => exact ⟨rfl, fun hev => absurd rfl hev⟩
  | took _ _ _ _ ih => exact ⟨ih.result, ih.error⟩

theorem keepsRun_resultBody (currentState : AgentState) (index : Option Int) :
    (s.resultBody currentState index).2.2.result = s.result ∧
      (s.resultBody currentState index).2.2.runError = s.runError ∧
      (s.resultBody currentState index).2.1 ≠ some .runFailed := by
  unfold Service.resultBody
  split
  · exact ⟨rfl, rfl, nofun⟩
  split
  · exact ⟨rfl, rfl, nofun⟩
  split
  · exact ⟨rfl, rfl, by simp⟩
  · exact ⟨rfl, rfl, nofun⟩

/-- Only goroutines fail a computation, and only then is the error another one. -/
theorem keepsRun_outcome (env : Env) (s : Service) (f : Files) {thread : Thread} {world : World} {op : Op}
    (hop : thread.op world = some op) :
    KeepsRun s (op.outcome env s f) ∧
      ((op.outcome env s f).event = some .runFailed → ∃ owner, thread.owner = some owner) := by
  cases thread with
  -- The handlers of calls never report a failure; the two goroutines may, and have an owner.
  | algo c =>
    cases hop
    obtain ⟨hkps, hev⟩ := keepsRun_algo (algo_result env s f c)
    exact ⟨hkps, fun h => absurd h hev⟩
  | data c =>
    cases hop
    obtain ⟨hkps, hev⟩ := keepsRun_data (data_result env s f c)
    exact ⟨hkps, fun h => absurd h hev⟩
  | result currentState index =>
    cases hop
    obtain ⟨hres, herr, hev⟩ := keepsRun_resultBody (s := s) currentState index
    exact ⟨⟨hres, fun _ => herr⟩, fun h => absurd h hev⟩
  | downloadAlgorithm owner =>
    cases hop
    exact ⟨keepsRun_downloadAlgorithm (downloadAlgorithmIfRemote_result ..), fun _ => ⟨owner, rfl⟩⟩
  | downloadDatasets owner =>
    cases hop
    refine ⟨?_, fun _ => ⟨owner, rfl⟩⟩
    obtain ⟨-, h⟩ | ⟨-, h⟩ := downloadDatasetsIfRemote_cases env s f world.data
    · rw [Op.outcome, h]
      exact ⟨rfl, fun _ => rfl⟩
    · exact keepsRun_downloadDatasets h
  | _ => cases hop

end Operations

namespace System

variable {env : Env} {s t : System} {a : Action} {n : Nat} {l : LoopState}

/-! ### Computations that are over -/

/-- No goroutine is left, and no loop is about to start one. -/
def Settled (s : System) : Prop :=
  (∀ thread ∈ s.threads, thread.owner = none) ∧ ∀ l ∈ s.loops, holds l.loop = none

instance : Decidable (Settled s) := inferInstanceAs (Decidable (_ ∧ _))

structure Isolated (s : System) : Prop where
  owner : ∀ thread ∈ s.threads, ∀ owner, thread.owner = some owner → owner = s.number
  result : s.service.result = [] ∨ s.resultOf = some s.number
  error : s.service.runError = none ∨ s.errorOf = some s.number

theorem isolated_init : Isolated init where
  owner thread hth := by simp at hth
  result := .inl rfl
  error := .inl rfl

theorem owner_set {number i : Nat} {x : Thread} {threads : List Thread}
    (h : ∀ thread ∈ threads, ∀ owner, thread.owner = some owner → owner = number)
    (hx : ∀ owner, x.owner = some owner → owner = number) :
    ∀ thread ∈ threads.set i x, ∀ owner, thread.owner = some owner → owner = number := by
  intro thread hmem
  obtain hmem | rfl := List.mem_or_eq_of_mem_set hmem
  · exact h thread hmem
  · exact hx

theorem owner_spawned {loop : Loop AgentState AgentEvent} {b : LoopAction} {thread : Thread}
    (h : thread ∈ spawned n loop b) : thread.owner = some n := by
  unfold spawned at h
  split at h
  · rename_i next
    cases next <;> simp only [action, List.mem_singleton, List.not_mem_nil] at h
    all_goals
      rw [h]
      rfl
  · cases h

/-- A step that does not start another computation. -/
theorem Isolated.frame (hnum : t.number = s.number)
    (hown : ∀ thread ∈ t.threads, ∀ owner, thread.owner = some owner → owner = s.number)
    (hres : t.service.result = [] ∨ t.resultOf = some s.number)
    (herr : t.service.runError = none ∨ t.errorOf = some s.number) : Isolated t := by
  refine ⟨?_, ?_, ?_⟩
  · rw [hnum]
    exact hown
  · rw [hnum]
    exact hres
  · rw [hnum]
    exact herr

theorem Isolated.sent (h : Isolated s) {chan : Nat} {event : AgentEvent}
    (hsent : Sent s chan event t) : Isolated t := by
  have hnum := hsent.number_eq
  cases hsent <;> exact .frame hnum h.owner h.result h.error

theorem Isolated.step (h : Isolated s) (hwi : Wired s) (hidle : IdleOthers s)
    (hg : Restarts s a → Settled s) (hstep : System.step env s a = some t) : Isolated t := by
  cases Step.of_step hstep with
  | refused => exact h
  -- A call from outside has no owner.
  | request hchk =>
    refine Isolated.frame rfl (List.forall_mem_append.mpr ⟨h.owner, ?_⟩) h.result h.error
    simp only [List.mem_singleton, forall_eq]
    intro owner hown
    unfold Request.check at hchk
    split at hchk <;> split at hchk <;> cases hchk <;> cases hown
  | initStore | initRead => exact Isolated.frame rfl (owner_set h.owner nofun) h.result h.error
  | initSend _ hsent | report _ _ hsent =>
    refine Isolated.sent ?_ hsent
    exact Isolated.frame rfl (owner_set h.owner nofun) h.result h.error
  | @perform i world receiver thread op _ hi _ hop hemi =>
    have haft : Isolated (s.after env i thread op) := by
      obtain ⟨hkps, hgoroutine⟩ := keepsRun_outcome env s.service s.files hop
      refine Isolated.frame rfl (owner_set h.owner nofun) ?_ ?_
      · show (op.outcome env s.service s.files).service.result = [] ∨ s.resultOf = some s.number
        rw [hkps.result]
        exact h.result
      · show (op.outcome env s.service s.files).service.runError = none ∨
          (if (op.outcome env s.service s.files).event = some .runFailed then thread.owner
            else s.errorOf) = some s.number
        -- A download that fails stores its error, and it is of the present computation.
        by_cases hfailed : (op.outcome env s.service s.files).event = some .runFailed
        · rw [if_pos hfailed]
          obtain ⟨owner, hown⟩ := hgoroutine hfailed
          rw [hown, h.owner thread (List.mem_of_getElem? hi) owner hown]
          exact .inr rfl
        · rw [if_neg hfailed, hkps.error hfailed]
          exact h.error
    generalize (op.outcome env s.service s.files).event = event at hemi
    cases hemi with
    | nothing => exact haft
    | event hsent => exact haft.sent hsent
  | @run i owner _ phase _ hi hrun =>
    have hown : owner = s.number := h.owner _ (List.mem_of_getElem? hi) owner rfl
    have hset : ∀ next : RunPhase, ∀ thread ∈ s.threads.set i (.run owner next), ∀ owner',
        thread.owner = some owner' → owner' = s.number := by
      intro next
      refine owner_set h.owner fun owner' heq => ?_
      rw [← Option.some.inj heq]
      exact hown
    cases hrun with
    | moves => exact Isolated.frame rfl (hset _) h.result h.error
    | result => exact Isolated.frame rfl (hset _) (.inr (congrArg some hown)) h.error
    | error => exact Isolated.frame rfl (hset _) h.result (.inr (congrArg some hown))
    | panic => exact Isolated.frame rfl h.owner h.result h.error
  -- Only the last loop has an event to handle, so only it starts a goroutine.
  | @loop n l b _ _ hl hloop =>
    refine Isolated.frame (by simp [number]) ?_ h.result h.error
    refine List.forall_mem_append.mpr ⟨h.owner, fun thread hmem owner hown => ?_⟩
    rw [owner_spawned hmem] at hown
    rw [← Option.some.inj hown]
    by_cases hn : n = s.number
    · exact hn
    · rw [(hwi.idle_loop hl hloop (hidle n l hl hn)).2.2] at hmem
      cases hmem
  | cancel | stopComputation =>
    exact Isolated.frame (by simp [number]) h.owner h.result h.error
  | stopRemove | stopFail | stopReset | stopRead => exact Isolated.frame rfl h.owner h.result h.error
  -- The number changes: by the guard there is no goroutine left that would be of the old one.
  | stopRestart hstop =>
    refine ⟨fun thread hmem owner hown => ?_, .inl rfl, .inl rfl⟩
    rw [(hg ⟨rfl, hstop⟩).1 thread hmem] at hown
    cases hown
  | stopSend _ hsent =>
    refine Isolated.sent ?_ hsent
    exact Isolated.frame rfl h.owner h.result h.error

theorem isolated_step (h : Wired s ∧ IdleOthers s ∧ Isolated s)
    (hg : Restarts s a → Settled s) (hstep : step env s a = some t) :
    Wired t ∧ IdleOthers t ∧ Isolated t := by
  obtain ⟨hwi, hidle, h⟩ := h
  exact ⟨wired_step hwi hstep, idleOthers_step hwi hidle (fun hr => (hg hr).2) hstep,
    h.step hwi hidle hg hstep⟩

/-! ### What Result returns -/

theorem result_resultBody (s : Service) (currentState : AgentState) (index : Option Int) :
    (s.resultBody currentState index).1 = ([], some .errUndeclaredConsumer) ∨
      (s.resultBody currentState index).1 = (s.result, s.runError) := by
  unfold Service.resultBody
  split
  · exact .inl rfl
  split
  · exact .inl rfl
  split
  · exact .inr rfl
  · exact .inr rfl

/-- If at every restart all goroutines have finished and no loop is about to start one: what
`Result` returns was stored by a goroutine of the present computation, if it is not empty, and
no goroutine of another computation is left that could read or remove files. -/
theorem computations_isolated (env : Env) (actions : List Action) (t : System)
    (hguard : Guarded (step env) (fun s a => Restarts s a → Settled s) init actions)
    (hrun : run (step env) init actions = some t) :
    (∀ currentState index,
      ((t.service.resultBody currentState index).1.1 = [] ∨ t.resultOf = some t.number) ∧
      ((t.service.resultBody currentState index).1.2 = none ∨
        (t.service.resultBody currentState index).1.2 = some .errUndeclaredConsumer ∨
        t.errorOf = some t.number)) ∧
      ∀ (i owner : Nat) (phase : RunPhase),
        t.threads[i]? = some (.run owner phase) → owner = t.number := by
  obtain ⟨-, -, h⟩ :=
    invariant_of_run isolated_step ⟨wired_init, idleOthers_init, isolated_init⟩ hguard hrun
  refine ⟨fun currentState index => ?_, fun i owner phase hi =>
    h.owner _ (List.mem_of_getElem? hi) owner rfl⟩
  obtain heq | heq := result_resultBody t.service currentState index
  · rw [heq]
    exact ⟨.inl rfl, .inr (.inl rfl)⟩
  · rw [heq]
    exact ⟨h.result, h.error.imp_right .inr⟩

/-- A computation whose manifest is thread `i`. Its goroutine, thread `i + 3`, stores results. -/
def computed (n i : Nat) : List Action :=
  manifest n i { bare with resultConsumers := [[]] } ++
    [.perform (i + 1) offline none,
      .request (.algo { algo := { algorithm := [1] }, oci := noImages })] ++
    exchange n (.perform (i + 2) offline (some n)) ++
    [.run (i + 3) {}, .run (i + 3) {}, .run (i + 3) {}, .run (i + 3) { value := .ok [9] },
      .run (i + 3) {}]

/-- The first computation has reported before it is stopped, and the second one is running. -/
def twoComputed : List Action :=
  boot ++ computed 0 0 ++ [.run 3 {}, .run 3 {}, .run 3 {}] ++ exchange 0 (.report 3 (some 0)) ++
    halt 1 ++ computed 1 4

theorem isolated_twoComputed :
    ∃ t : System, run (step plainEnv) init twoComputed = some t ∧
      ((t.service.resultBody .running (some 0)).1.1 = [9] ∧ t.resultOf = some t.number) ∧
      (t.threads[7]?.bind Thread.owner = some 1 ∧
        ∀ (i owner : Nat) (phase : RunPhase),
          t.threads[i]? = some (.run owner phase) → owner = t.number) := by
  have hg : Guarded (step plainEnv) (fun s a => Restarts s a → Settled s) init twoComputed := by
    decide +kernel
  have hend : (run (step plainEnv) init twoComputed).map (fun t =>
      ((t.service.resultBody .running (some 0)).1.1, t.threads[7]?.bind Thread.owner)) =
      some ([9], some 1) := by decide +kernel
  obtain ⟨t, hrun, ht⟩ := Option.map_eq_some_iff.mp hend
  obtain ⟨hresult, howner⟩ := Prod.mk.inj ht
  obtain ⟨hstored, hothers⟩ := computations_isolated plainEnv twoComputed t hg hrun
  refine ⟨t, hrun, ⟨hresult, (hstored .running (some 0)).1.resolve_left ?_⟩, howner, hothers⟩
  rw [hresult]
  decide

/-- A manifest whose algorithm is to be downloaded. -/
def unavailable : Computation :=
  { algorithm := { source := some {} }, resultConsumers := [[]], kbs := { enabled := true } }

/-- The first computation is stopped when its goroutine has packed the results, and the second
one fails. -/
def leak : List Action :=
  boot ++ manifest 0 0 bare ++
    [.request (.algo { algo := { algorithm := [1] }, oci := noImages })] ++
    exchange 0 (.perform 2 offline (some 0)) ++
    [.run 3 {}, .run 3 {}, .run 3 {}, .run 3 { value := .ok [9] }] ++
    halt 1 ++ [.run 3 {}] ++ manifest 1 4 unavailable ++ exchange 1 (.perform 5 offline (some 1))

/-- A consumer of the second computation gets the results of the first. -/
theorem result_leaks :
    (run (step plainEnv) init leak).map (fun t =>
        (t.sm.currentState, (t.service.resultBody .failed (some 0)).1.1, t.resultOf, t.number)) =
      some (.failed, [9], some 0, 1) := by
  decide +kernel

end System

end SecureBinding.Agent
