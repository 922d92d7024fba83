import SecureBinding.Agent.Ledger

/-!
# Agent.Approved

What the agent finds in its files when it enters `Running`.

It is what the manifest declares, if the manifest stays the same while the pieces come and nobody
overwrites or removes what is there. This takes some conditions on the steps (`Proper`), as no
mutex covers a computation:

* `InitComputation` checks the agent's state before it takes the mutex, so that a manifest can
  replace one that is being worked on (`wrong_algorithm_runs`);
* an upload may have the name of a file that is there;
* the action that downloads the algorithm does not look if there is one;
* `StopComputation` removes the files while a loop may be about to enter `Running`, and leaves
  the agent as it is if a removal fails; goroutines and calls of the stopped computation go on
  in the next one.

Under these conditions only what the manifest declares is run (`only_approved_runs`).
-/

namespace SecureBinding.Agent

open Go Lib
open StateMachine (Loop LoopAction LoopStep)

variable {env : Env}

/-! ### The invariant -/

/-- What is known of a loop: the event it handles may have been sent, and what it has looked up
is what it would look up now. -/
structure LoopOk (sm : AgentMachine) (ok : AgentEvent → Prop)
    (loop : Loop AgentState AgentEvent) : Prop where
  event : ∀ event, holds loop = some event → ok event
  looked : ∀ currentState event next, loop = .lookedUp currentState (some event) next →
    currentState = sm.currentState ∧ next = sm.transitions currentState (some event)

variable {sm : AgentMachine}

theorem loopOk_of_holds {ok : AgentEvent → Prop}
    {loop : Loop AgentState AgentEvent} (h : holds loop = none) : LoopOk sm ok loop where
  event event heq := nomatch h.symm.trans heq
  looked currentState event next heq := by
    rw [heq] at h
    cases h

theorem LoopOk.mono {ok ok' : AgentEvent → Prop}
    {loop : Loop AgentState AgentEvent} (h : LoopOk sm ok loop)
    (hok : ∀ event, ok event → ok' event) : LoopOk sm ok' loop :=
  ⟨fun event heq => hok event (h.event event heq), h.looked⟩

/-- A call of `InitComputation` that is yet to send its event. -/
def Thread.sends : Thread → Bool
  | .initStored | .initHolding _ => true
  | _ => false

/-- A call or goroutine that would go on in the next computation. A call of `InitComputation`
that waits for the mutex is none: it brings a manifest. -/
def Thread.carriesOver : Thread → Bool
  | .finished | .initChecked _ => false
  | _ => true

namespace System

variable {s t : System} {a : Action}

/-- What is true of the agent when no call of `StopComputation` is clearing it. -/
structure Sound (env : Env) (s : System) : Prop where
  ledger : Ledger env s.sm.currentState s.service s.files s.declared s.placed
  threads : ∀ thread ∈ s.threads,
    ThreadOk s.sm.currentState s.declared s.service.algoReceived thread
  loops : ∀ l ∈ s.loops,
    LoopOk s.sm (EventOk s.sm.currentState s.declared s.service.algoReceived s.service.pending)
      l.loop
  row : ∀ ds, s.declared = some ds → ∃ dataReceived,
    Tabled s.sm (some (if ds.length = 0 then .running else .receivingData)) dataReceived

theorem sound_init : Sound env init where
  ledger := ⟨fun _ => rfl, nofun, nofun, nofun, nofun, fun hne => absurd rfl hne, nofun, nofun⟩
  threads thread hth := by simp at hth
  loops l hl := by
    rw [List.mem_singleton.mp hl]
    exact loopOk_of_holds rfl
  row ds hds := by simp at hds

variable {event : AgentEvent} {i n : Nat} {thread : Thread} {currentState : AgentState}

theorem Sound.sent {chan : Nat} (h : Sound env s) (hsent : Sent s chan event t)
    (hok : EventOk s.sm.currentState s.declared s.service.algoReceived s.service.pending event) :
    Sound env t := by
  cases hsent with
  | panic => exact ⟨h.ledger, h.threads, h.loops, h.row⟩
  | drop => exact h
  | deliver =>
    refine ⟨h.ledger, h.threads, fun l' hl' => ?_, h.row⟩
    obtain hmem | rfl := List.mem_or_eq_of_mem_set hl'
    · exact h.loops l' hmem
    · refine ⟨fun event' heq => ?_, nofun⟩
      cases heq
      exact hok

/-- One thread goes on. -/
theorem Sound.setThread (h : Sound env s)
    (hth : ThreadOk s.sm.currentState s.declared s.service.algoReceived thread) :
    Sound env { s with threads := s.threads.set i thread } := by
  refine ⟨h.ledger, fun x hx => ?_, h.loops, h.row⟩
  obtain hmem | rfl := List.mem_or_eq_of_mem_set hx
  · exact h.threads x hmem
  · exact hth

theorem Sound.request {req : Request} (h : Sound env s)
    (hchk : req.check s.sm.currentState = .ok thread) :
    Sound env { s with threads := s.threads ++ [thread] } := by
  refine ⟨h.ledger, List.forall_mem_append.mpr ⟨h.threads, ?_⟩, h.loops, h.row⟩
  rw [List.forall_mem_singleton]
  have hrdy := h.ledger.ready
  revert hrdy hchk
  generalize s.sm.currentState = currentState
  cases req with
  | initComputation cmp =>
    intro hchk _
    simp only [Request.check] at hchk
    split at hchk <;> cases hchk
    trivial
  | algo c =>
    intro hchk _
    cases currentState <;> cases hchk
    rfl
  | data c =>
    intro hchk hrdy
    cases currentState <;> cases hchk
    exact ⟨rfl, hrdy rfl⟩
  | result index =>
    intro hchk _
    cases currentState <;> cases hchk <;> rfl

/-- `InitComputation` stores its manifest while none has been accepted. -/
theorem Sound.initStore {cmp : Computation} (h : Sound env s) (hwi : Wired s)
    (hst : s.sm.currentState = .receivingManifest) :
    Sound env
      { s with
        service := { s.service with computation := cmp }
        sm := addTransitions s.sm (initTransitions cmp.datasets.len)
        threads := s.threads.set i .initStored
        declared := some cmp.datasets.toList, placed := [] } := by
  obtain ⟨_, _, htab⟩ := hwi.tabled
  obtain ⟨dataReceived, htab'⟩ := htab.init cmp.datasets.len
  -- Nothing has been accepted yet, and the old manifest is forgotten.
  have hrec : s.service.algoReceived = false := h.ledger.fresh (by rw [hst]; rfl)
  refine ⟨?_, fun thread hth => ?_, fun l hl => ?_, fun ds hds => ?_⟩
  · simp only [currentState_addTransitions, hst]
    refine ⟨fun _ => hrec, nofun, nofun, fun ds hds => ?_, nofun, fun hne => absurd rfl hne,
      nofun, nofun⟩
    obtain rfl := Option.some.inj hds
    simp [Service.pending]
  · simp only [currentState_addTransitions]
    obtain hmem | rfl := List.mem_or_eq_of_mem_set hth
    · have hok := h.threads thread hmem
      cases thread with
      | initStored | initHolding => exact Option.some_ne_none _
      | _ => exact hok
    · exact Option.some_ne_none _
  · obtain ⟨hev, hlk⟩ := h.loops l hl
    simp only [currentState_addTransitions]
    refine ⟨fun event heq => ?_, fun currentState event next heq => ?_⟩
    · -- In this state a loop can only hold the event of a manifest, which is there now.
      have hok := hev event heq
      rw [hst] at hok ⊢
      cases event with
      | manifestReceived => exact Option.some_ne_none _
      | algorithmReceived | dataReceived => cases hok.1
      | _ => trivial
    · -- The row of this state is in every table the same.
      obtain ⟨rfl, rfl⟩ := hlk currentState event next heq
      rw [currentState_addTransitions, htab'.eq, htab.eq, hst]
      exact ⟨rfl, by cases event <;> rfl⟩
  · obtain rfl := Option.some.inj hds
    refine ⟨dataReceived, ?_⟩
    rw [Slice.length_toList]
    exact htab'

theorem Sound.after {world : World} {op : Op} (h : Sound env s)
    (hi : s.threads[i]? = some thread) (hop : thread.op world = some op)
    (hpro : ProperOp env s.sm.currentState s.service s.files s.placed op) :
    Sound env (s.after env i thread op) ∧
      ∀ event, (op.outcome env s.service s.files).event = some event →
        EventOk s.sm.currentState s.declared
          (op.outcome env s.service s.files).service.algoReceived
          (op.outcome env s.service s.files).service.pending event := by
  have hprog := progress_perform h.ledger hop (h.threads thread (List.mem_of_getElem? hi)) hpro
  have hpen : s.service.pending = [] → (op.outcome env s.service s.files).service.pending = [] := by
    intro hnil
    have hspec : DatasetSpec env s.service (op.outcome env s.service s.files) :=
      datasetSpec_outcome op
    have hperm := hspec.takes.perm
    rw [show s.service.computation.datasets.toList = [] from hnil] at hperm
    exact (List.append_eq_nil_iff.mp hperm.eq_nil).1
  refine ⟨⟨hprog.ledger, fun x hx => ?_, fun l hl => ?_, h.row⟩, hprog.event⟩
  · obtain hmem | rfl := List.mem_or_eq_of_mem_set hx
    · exact (h.threads x hmem).mono hprog.received
    · trivial
  · exact (h.loops l hl).mono fun event hok => hok.mono hprog.received hpen

theorem Sound.run {owner : Nat} {phase : RunPhase} (h : Sound env s)
    (hi : s.threads[i]? = some (.run owner phase)) (hrun : RunStep s i owner phase t) :
    Sound env t := by
  have hth := h.threads _ (List.mem_of_getElem? hi)
  cases hrun with
  | @moves next files =>
    have hfs : Sound env { s with files } := by
      refine ⟨?_, h.threads, h.loops, h.row⟩
      exact h.ledger.over hth.2
    exact hfs.setThread hth
  | @result results next =>
    have hres : Sound env
        { s with service := { s.service with result := results }, resultOf := some owner } :=
      ⟨h.ledger.same rfl rfl, h.threads, h.loops, h.row⟩
    exact hres.setThread hth
  | @error err next =>
    have herr : Sound env
        { s with service := { s.service with runError := some err }, errorOf := some owner } :=
      ⟨h.ledger.same rfl rfl, h.threads, h.loops, h.row⟩
    exact herr.setThread hth
  | panic => exact ⟨h.ledger, h.threads, h.loops, h.row⟩

theorem Sound.setLoop {l' : LoopState} (h : Sound env s) (hl' : LoopOk s.sm
      (EventOk s.sm.currentState s.declared s.service.algoReceived s.service.pending) l'.loop) :
    Sound env { s with loops := s.loops.set n l', threads := s.threads ++ [] } := by
  refine ⟨h.ledger, by simpa using h.threads, fun k hk => ?_, h.row⟩
  obtain hmem | rfl := List.mem_or_eq_of_mem_set hk
  · exact h.loops k hmem
  · exact hl'

/-- The loop that has an event is the last one, so that no other loop sees the state change. -/
theorem Sound.apply {l : LoopState} {next : AgentState} (h : Sound env s) (hwi : Wired s)
    (hidle : IdleOthers s)
    (hl : s.loops[n]? = some l) (hloop : l.loop = .lookedUp currentState (some event) (some next)) :
    Sound env
      { s with
        sm := { s.sm with currentState := next }
        loops := s.loops.set n { l with loop := .top }, threads := s.threads ++ action n next } := by
  obtain ⟨hev, hlk⟩ := h.loops l (List.mem_of_getElem? hl)
  have hok := hev event (by rw [hloop]; rfl)
  obtain ⟨rfl, hnext⟩ := hlk _ _ _ hloop
  obtain ⟨_, _, htab⟩ := hwi.tabled
  -- What the ledger says of the event carries it over to the next state.
  have hadv := advance_of_table htab hnext.symm hok h.ledger.manifest
  refine ⟨h.ledger.advance hadv, ?_, fun k hk => ?_, fun ds hds => ?_⟩
  · exact List.forall_mem_append.mpr
      ⟨fun thread hmem => (h.threads thread hmem).advance hadv,
        fun thread hmem => threadOk_action hadv hmem⟩
  · refine loopOk_of_holds ?_
    -- The other loops have nothing in hand.
    have hn : n = s.number := by
      by_cases hne : n = s.number
      · exact hne
      · have hnone := hidle n l hl hne
        rw [hloop] at hnone
        cases hnone
    obtain ⟨m, hm⟩ := List.getElem?_of_mem hk
    by_cases hnm : n = m
    · subst hnm
      rw [List.getElem?_set_self (lt_of_getElem? hl)] at hm
      cases hm
      rfl
    · rw [List.getElem?_set_ne hnm] at hm
      exact hidle m k hm fun heq => hnm (hn.trans heq.symm)
  · obtain ⟨dataReceived, hrow⟩ := h.row ds hds
    exact ⟨dataReceived, hrow.eq, hrow.algorithm, hrow.data⟩

theorem Sound.loop {l : LoopState} {b : LoopAction} {loop : Loop AgentState AgentEvent}
    (h : Sound env s) (hwi : Wired s) (hidle : IdleOthers s)
    (hl : s.loops[n]? = some l) (hstep : LoopStep some l.done s.sm l.loop b loop sm) :
    Sound env
      { s with
        sm, loops := s.loops.set n { l with loop }, threads := s.threads ++ spawned n l.loop b } := by
  have hloopOk := h.loops l (List.mem_of_getElem? hl)
  have hnil := (hwi.wire n l hl).looked
  generalize hloop : l.loop = loop₀ at hstep hloopOk hnil
  cases hstep with
  | readChans | wait | recvClosed | recvReset | ctxDone | refuse =>
    exact h.setLoop (loopOk_of_holds rfl)
  | lookup =>
    refine h.setLoop ⟨fun event heq => hloopOk.event event heq, fun currentState event next heq => ?_⟩
    obtain ⟨rfl, rfl, rfl⟩ := StateMachine.Loop.lookedUp.inj heq
    exact ⟨rfl, rfl⟩
  | @apply currentState next x =>
    cases x with
    | none => cases hnil currentState (some next) rfl
    | some event => exact h.apply hwi hidle hl hloop

theorem Sound.cancel {m : Nat} (h : Sound env s) :
    Sound env { s with loops := s.loops.modify m fun l => { l with done := true } } := by
  refine ⟨h.ledger, h.threads, fun l' hl' => ?_, h.row⟩
  obtain ⟨n, hn⟩ := List.getElem?_of_mem hl'
  rw [List.getElem?_modify] at hn
  obtain ⟨l, hl, rfl⟩ := Option.map_eq_some_iff.mp hn
  have hok := h.loops l (List.mem_of_getElem? hl)
  split
  · exact hok
  · exact hok

/-! ### StopComputation -/

/-- A call of `StopComputation` is clearing the agent. -/
def Cancelled (s : System) : Prop := ∃ phase, s.stop = some phase ∧ phase.Cancelled

/-- What is true of the agent meanwhile. -/
structure Stopping (s : System) : Prop where
  loops : ∀ l ∈ s.loops, holds l.loop = none
  threads : ∀ thread ∈ s.threads, thread.sends = false
  restart : s.stop = some .restart → s.sm.currentState = .idle

theorem Cancelled.locked (h : s.Cancelled) : s.stop ≠ none := by
  obtain ⟨phase, hstop, -⟩ := h
  simp [hstop]

theorem sends_set {threads : List Thread}
    (h : ∀ x ∈ threads, x.sends = false) (hth : thread.sends = false) :
    ∀ x ∈ threads.set i thread, x.sends = false := by
  intro x hx
  obtain hmem | rfl := List.mem_or_eq_of_mem_set hx
  · exact h x hmem
  · exact hth

theorem sends_check {req : Request}
    (h : req.check currentState = .ok thread) : thread.sends = false := by
  cases req <;> simp only [Request.check] at h <;> split at h <;> cases h <;> rfl

theorem holds_modify {loops : List LoopState} {m : Nat} (h : ∀ l ∈ loops, holds l.loop = none) :
    ∀ l ∈ loops.modify m fun l => { l with done := true }, holds l.loop = none := by
  intro l' hl'
  obtain ⟨n, hn⟩ := List.getElem?_of_mem hl'
  rw [List.getElem?_modify] at hn
  obtain ⟨l, hl, rfl⟩ := Option.map_eq_some_iff.mp hn
  have hnone := h l (List.mem_of_getElem? hl)
  split
  · exact hnone
  · exact hnone

/-- Nobody can send while the mutex is held, so that the loops stay without an event. -/
theorem stopping_step (h : Stopping s) (hwi : Wired s) (hcan : s.Cancelled)
    (hstep : step env s a = some t) : Stopping t := by
  cases Step.of_step hstep with
  | refused => exact h
  | request hchk =>
    refine ⟨h.loops, List.forall_mem_append.mpr ⟨h.threads, ?_⟩, h.restart⟩
    rw [List.forall_mem_singleton]
    exact sends_check hchk
  -- Everything that needs the mutex has to wait.
  | initStore _ hlock | perform _ hlock | report _ hlock | stopComputation hlock =>
    exact absurd hlock hcan.locked
  | initRead hi | initSend hi => cases h.threads _ (List.mem_of_getElem? hi)
  | run hi hrun =>
    cases hrun with
    | moves | result | error => exact ⟨h.loops, sends_set h.threads rfl, h.restart⟩
    | panic => exact ⟨h.loops, h.threads, h.restart⟩
  -- A loop without an event neither changes the machine nor starts a goroutine.
  | @loop n l b loop sm hl hloop =>
    obtain ⟨hnone, rfl, hspawned⟩ := hwi.idle_loop hl hloop (h.loops l (List.mem_of_getElem? hl))
    refine ⟨fun k hk => ?_, ?_, h.restart⟩
    · obtain hmem | rfl := List.mem_or_eq_of_mem_set hk
      · exact h.loops k hmem
      · exact hnone
    · rw [hspawned, List.append_nil]
      exact h.threads
  | cancel => exact ⟨holds_modify h.loops, h.threads, h.restart⟩
  | stopRemove hstop hph hnext =>
    refine ⟨h.loops, h.threads, fun hc => ?_⟩
    obtain rfl := Option.some.inj hc
    exact (hnext.elim id nofun : StopPhase.Removes .restart).elim
  | stopFail => exact ⟨h.loops, h.threads, nofun⟩
  | stopReset => exact ⟨h.loops, h.threads, fun _ => rfl⟩
  | stopRestart =>
    refine ⟨List.forall_mem_append.mpr ⟨h.loops, ?_⟩, h.threads, nofun⟩
    simp [holds]
  | stopRead hstop | stopSend hstop =>
    obtain ⟨phase, hph, hc⟩ := hcan
    obtain rfl := Option.some.inj (hstop.symm.trans hph)
    exact hc.elim

/-- The next computation starts without anything of the last one. -/
theorem sound_restart (h : Stopping s) (hstop : s.stop = some .restart)
    (hthreads : ∀ thread ∈ s.threads, thread.carriesOver = false) :
    Sound env
      { s with
        service := {}, loops := s.loops ++ [{}], stop := some .readChan
        resultOf := none, errorOf := none, declared := none, placed := [] } where
  ledger := by
    rw [h.restart hstop]
    exact ⟨fun _ => rfl, nofun, nofun, nofun, nofun, fun hne => absurd rfl hne, nofun, nofun⟩
  threads thread hmem := by
    have hover := hthreads thread hmem
    cases thread with
    | finished | initChecked => trivial
    | _ => cases hover
  loops l hl := by
    refine loopOk_of_holds ?_
    obtain hmem | hmem := List.mem_append.mp hl
    · exact h.loops l hmem
    · rw [List.mem_singleton.mp hmem]
      rfl
  row := nofun

/-! ### The conditions -/

/-- The conditions on the steps: `InitComputation` stores a manifest only while the agent still
waits for one; operations overwrite nothing; when `StopComputation` is called, no event is being
handled or about to be sent by `InitComputation`, its removals do not fail, and when it starts
the next computation, the calls and goroutines of the last one have finished. -/
def Proper (env : Env) (s : System) : Action → Prop
  | .initStore _ => s.sm.currentState = .receivingManifest
  | .perform i world _ => ∀ thread op, s.threads[i]? = some thread → thread.op world = some op →
    ProperOp env s.sm.currentState s.service s.files s.placed op
  | .stopComputation =>
    (∀ l ∈ s.loops, holds l.loop = none) ∧ ∀ thread ∈ s.threads, thread.sends = false
  | .stop answer =>
    (s.stop = some .removeDatasets ∨ s.stop = some .removeResults →
      ∀ err, answer.value ≠ .error err) ∧
    (s.stop = some .restart → ∀ thread ∈ s.threads, thread.carriesOver = false)
  | _ => True

structure Approved (env : Env) (s : System) : Prop where
  wired : Wired s
  idle : IdleOthers s
  stopping : s.Cancelled → Stopping s
  sound : ¬s.Cancelled → Sound env s

theorem approved_init : Approved env init where
  wired := wired_init
  idle := idleOthers_init
  stopping h := by
    obtain ⟨phase, hstop, hph⟩ := h
    cases hstop
    exact hph.elim
  sound _ := sound_init

theorem cancelled_of_removes_or {phase : StopPhase} (h : phase.Removes ∨ phase = .reset) :
    phase.Cancelled := by
  obtain h | rfl := h
  · exact cancelled_of_removes h
  · trivial

/-- A step outside of `StopComputation`'s clearing. -/
theorem sound_step (h : Sound env s) (hwi : Wired s) (hidle : IdleOthers s)
    (hpro : Proper env s a) (hnot : ¬s.Cancelled) (hnot' : ¬t.Cancelled)
    (hstep : step env s a = some t) : Sound env t := by
  cases Step.of_step hstep with
  | refused => exact h
  | request hchk => exact h.request hchk
  | initStore => exact h.initStore hwi hpro
  | initRead hi =>
    have hdcl : s.declared ≠ none := h.threads _ (List.mem_of_getElem? hi)
    exact h.setThread hdcl
  | @initSend i _ _ _ hi hsent =>
    have hset : Sound env { s with threads := s.threads.set i .finished } := h.setThread trivial
    exact hset.sent hsent (h.threads _ (List.mem_of_getElem? hi))
  | @perform i _ _ thread op _ hi _ hop hemi =>
    obtain ⟨haft, hev⟩ := h.after hi hop (hpro thread op hi hop)
    generalize (op.outcome env s.service s.files).event = event at hemi hev
    cases hemi with
    | nothing => exact haft
    | @event event _ hsent => exact haft.sent hsent (hev event rfl)
  | run hi hrun => exact h.run hi hrun
  | @report i _ _ _ _ _ hsent =>
    have hset : Sound env { s with threads := s.threads.set i .finished } := h.setThread trivial
    refine hset.sent hsent ?_
    split <;> trivial
  | loop hl hloop => exact h.loop hwi hidle hl hloop
  | cancel => exact h.cancel
  | stopComputation => exact absurd ⟨_, rfl, trivial⟩ hnot'
  -- The rest is of the clearing itself.
  | stopRemove hstop hph => exact absurd ⟨_, hstop, cancelled_of_removes hph⟩ hnot
  | stopFail hstop hph =>
    refine absurd ⟨_, hstop, ?_⟩ hnot
    obtain rfl | rfl := hph <;> trivial
  | stopReset hstop | stopRestart hstop => exact absurd ⟨_, hstop, trivial⟩ hnot
  | stopRead => exact ⟨h.ledger, h.threads, h.loops, h.row⟩
  | @stopSend chan _ _ hstop hsent =>
    have hret : Sound env { s with stop := none, stopped := none :: s.stopped } :=
      ⟨h.ledger, h.threads, h.loops, h.row⟩
    exact hret.sent hsent trivial

/-- `StopComputation` starts to clear the agent. -/
theorem stopping_of_step (hpro : Proper env s a) (hnot : ¬s.Cancelled) (hcan : t.Cancelled)
    (hstep : step env s a = some t) : Stopping t := by
  -- Steps outside of the call leave its phase as it is.
  have hsame (hstop : t.stop = s.stop) : Stopping t := by
    unfold Cancelled at hcan
    rw [hstop] at hcan
    exact absurd hcan hnot
  cases Step.of_step hstep with
  | refused | request | initStore | initRead | cancel | loop => exact hsame rfl
  | initSend _ hsent | report _ _ hsent => exact hsame hsent.stop_eq
  | @perform i _ _ thread op _ hi _ hop hemi =>
    generalize (op.outcome env s.service s.files).event = event at hemi
    cases hemi with
    | nothing => exact hsame rfl
    | event hsent => exact hsame hsent.stop_eq
  | run _ hrun => cases hrun <;> exact hsame rfl
  | stopComputation => exact ⟨holds_modify hpro.1, hpro.2, nofun⟩
  | stopRemove hstop hph => exact absurd ⟨_, hstop, cancelled_of_removes hph⟩ hnot
  | stopFail hstop hph =>
    refine absurd ⟨_, hstop, ?_⟩ hnot
    obtain rfl | rfl := hph <;> trivial
  | stopReset hstop | stopRestart hstop => exact absurd ⟨_, hstop, trivial⟩ hnot
  | stopRead =>
    obtain ⟨phase, hph, hc⟩ := hcan
    cases hph
    exact hc.elim
  | stopSend _ hsent =>
    obtain ⟨phase, hph, -⟩ := hcan
    cases hsent.stop_eq.symm.trans hph

/-- It goes on to, or it starts the next computation. -/
theorem sound_of_stopping (h : Stopping s) (hpro : Proper env s a) (hcan : s.Cancelled)
    (hnot : ¬t.Cancelled) (hstep : step env s a = some t) : Sound env t := by
  cases Step.of_step hstep with
  | refused | request | cancel | loop => exact absurd hcan hnot
  | initStore _ hlock | perform _ hlock | report _ hlock | stopComputation hlock =>
    exact absurd hlock hcan.locked
  | initRead hi | initSend hi => cases h.threads _ (List.mem_of_getElem? hi)
  | run _ hrun => cases hrun <;> exact absurd hcan hnot
  | stopRemove _ _ hnext => exact absurd ⟨_, rfl, cancelled_of_removes_or hnext⟩ hnot
  | stopFail hstop hph herr =>
    obtain ⟨err, herr⟩ := herr
    refine absurd herr (hpro.1 ?_ err)
    obtain rfl | rfl := hph
    · exact .inl hstop
    · exact .inr hstop
  | stopReset => exact absurd ⟨_, rfl, trivial⟩ hnot
  | stopRestart hstop => exact sound_restart h hstop (hpro.2 hstop)
  | stopRead hstop | stopSend hstop =>
    obtain ⟨phase, hph, hc⟩ := hcan
    obtain rfl := Option.some.inj (hstop.symm.trans hph)
    exact hc.elim

theorem approved_step (h : Approved env s) (hpro : Proper env s a)
    (hstep : step env s a = some t) : Approved env t where
  wired := wired_step h.wired hstep
  idle := by
    refine idleOthers_step h.wired h.idle (fun hrestarts => ?_) hstep
    exact (h.stopping ⟨_, hrestarts.2, trivial⟩).loops
  stopping hcan := by
    by_cases hc : s.Cancelled
    · exact stopping_step (h.stopping hc) h.wired hc hstep
    · exact stopping_of_step hpro hc hcan hstep
  sound hnot := by
    by_cases hc : s.Cancelled
    · exact sound_of_stopping (h.stopping hc) hpro hc hnot hstep
    · exact sound_step (h.sound hc) h.wired h.idle hpro hc hnot hstep

/-! ### Entering Running -/

/-- The algorithm has the hash of the manifest. The accepted datasets are those that the manifest
declares, each for data of its hash; and unless it was unpacked, that data is in a file of the
datasets directory. -/
structure OnlyApproved (env : Env) (s : System) : Prop where
  algo : ∃ data, s.files.algo = some data ∧ env.sha3 data = s.service.computation.algorithm.hash
  declared : ∃ ds, s.declared = some ds ∧ (s.placed.map (·.dataset)).Perm ds
  hash : ∀ x ∈ s.placed, env.sha3 x.data = x.dataset.hash
  files : ∀ x ∈ s.placed, x.unpacked = false →
    ∃ dir path, s.files.datasets = some dir ∧ dir path = some x.data

/-- Everything has come when the event is there that leads to `Running`. -/
theorem Sound.complete (h : Sound env s) (hwi : Wired s)
    (hok : EventOk s.sm.currentState s.declared s.service.algoReceived s.service.pending event)
    (hnext : s.sm.transitions s.sm.currentState (some event) = some .running) :
    s.sm.currentState.gathering = true ∧ s.service.algoReceived = true ∧
      ∃ ds, s.declared = some ds ∧ (s.placed.map (·.dataset)).Perm ds := by
  obtain ⟨_, _, htab⟩ := hwi.tabled
  obtain ⟨hst, rfl, -⟩ | ⟨hst, rfl⟩ := htab.to_running hnext
  · obtain ⟨ds, hds⟩ := Option.ne_none_iff_exists'.mp (h.ledger.manifest hok.1)
    obtain ⟨_, hrow⟩ := h.row ds hds
    -- The transition leads to `Running` only if the manifest has no datasets.
    have hnil : ds = [] := by
      obtain ⟨-, -, htgt⟩ | ⟨-, hev⟩ := hrow.to_running hnext
      · by_cases hlen : ds.length = 0
        · exact List.length_eq_zero_iff.mp hlen
        · rw [if_neg hlen] at htgt
          cases htgt
      · cases hev
    subst hnil
    refine ⟨by rw [hst]; rfl, hok.2, [], hds, ?_⟩
    rw [(List.append_eq_nil_iff.mp (h.ledger.perm [] hds).eq_nil).2]
  · obtain ⟨ds, hds⟩ := Option.ne_none_iff_exists'.mp (h.ledger.manifest hok.1)
    have hperm := h.ledger.perm ds hds
    rw [hok.2.2] at hperm
    exact ⟨by rw [hst]; rfl, hok.2.1, ds, hds, hperm⟩

/-- Only a transition of a loop enters `Running`. -/
theorem entered_running (hwi : Wired s) (hold : s.sm.currentState ≠ .running)
    (hnew : t.sm.currentState = .running) (hstep : step env s a = some t) :
    ∃ l ∈ s.loops, (∃ currentState event,
        l.loop = .lookedUp currentState (some event) (some .running)) ∧
      t.files = s.files ∧ t.service = s.service ∧ t.declared = s.declared ∧
        t.placed = s.placed := by
  -- All other steps leave the state of the machine as it is.
  have hsame (hsm : t.sm.currentState = s.sm.currentState) : False := hold (hsm.symm.trans hnew)
  cases Step.of_step hstep with
  | refused | request | initRead | cancel | stopComputation | stopRemove | stopFail | stopRestart
    | stopRead => exact (hsame rfl).elim
  | initStore => exact (hsame currentState_addTransitions).elim
  | initSend _ hsent | report _ _ hsent | stopSend _ hsent =>
    exact (hsame (congrArg _ hsent.sm_eq)).elim
  | @perform i _ _ thread op _ hi _ hop hemi =>
    generalize (op.outcome env s.service s.files).event = event at hemi
    cases hemi with
    | nothing => exact (hsame rfl).elim
    | event hsent => exact (hsame (congrArg _ hsent.sm_eq)).elim
  | run _ hrun => cases hrun <;> exact (hsame rfl).elim
  | stopReset => cases hnew
  | @loop n l b loop sm hl hloop =>
    have hnil := (hwi.wire n l hl).looked
    generalize hloop₀ : l.loop = loop₀ at hloop hnil
    cases hloop with
    | @apply currentState next x =>
      obtain rfl : next = .running := hnew
      cases x with
      -- For the zero event there is no transition.
      | none => cases hnil currentState (some .running) rfl
      | some event =>
        exact ⟨l, List.mem_of_getElem? hl, ⟨currentState, event, hloop₀⟩, rfl, rfl, rfl, rfl⟩
    | _ => exact (hsame rfl).elim

/-- Along every run of the agent whose steps meet the conditions, when the agent enters
`Running`, the algorithm and the datasets are those of the manifest. -/
theorem only_approved_runs (env : Env) (as : List Action) (s t : System) (a : Action)
    (hguard : Guarded (step env) (Proper env) init as) (hrun : run (step env) init as = some s)
    (hstep : step env s a = some t) (hold : s.sm.currentState ≠ .running)
    (hnew : t.sm.currentState = .running) : OnlyApproved env t := by
  have h : Approved env s := invariant_of_run approved_step approved_init hguard hrun
  obtain ⟨l, hl, ⟨currentState, event, hloop⟩, hfs, hservice, hdcl, hplaced⟩ :=
    entered_running h.wired hold hnew hstep
  have hholds : holds l.loop = some event := by
    rw [hloop]
    rfl
  have hnot : ¬s.Cancelled := fun hc => nomatch ((h.stopping hc).loops l hl).symm.trans hholds
  have hsound := h.sound hnot
  obtain ⟨hev, hlk⟩ := hsound.loops l hl
  obtain ⟨rfl, hnext⟩ := hlk _ _ _ hloop
  obtain ⟨hgat, hrec, hall⟩ := hsound.complete h.wired (hev event hholds) hnext.symm
  constructor
  · rw [hfs, hservice]
    exact hsound.ledger.algo hgat hrec
  · rw [hdcl, hplaced]
    exact hall
  · rw [hplaced]
    exact hsound.ledger.hash
  · rw [hplaced, hfs]
    exact fun x hx hpl => (hsound.ledger.kept hgat).exists_file hx hpl

/-- Conditions that can be checked, for runs that use neither downloads nor archives and are not
stopped. -/
def plain (s : System) : Action → Bool
  | .initStore _ => s.sm.currentState = .receivingManifest
  | .perform i world _ =>
    match (s.threads[i]?).bind (·.op world) with
    | some (.algo _) => true
    | some (.data c) =>
      s.service.firstRemote.isNone && !c.decompress &&
        (target c.getwd c.decompress c.dataset.filename).all fun path => path ∉ paths s.placed
    | _ => false
  | .stopComputation => false
  | .stop _ => s.stop = some .readChan
  | _ => true

theorem properOp_upload {service : Service} {files : Files}
    {placed : List Placed} {c : DataCall} (hrem : service.firstRemote = none)
    (hpl : c.decompress = false)
    (hpath : ∀ path, target c.getwd c.decompress c.dataset.filename = some path →
      path ∉ paths placed) : ProperOp env currentState service files placed (.data c) := by
  intro _ data filename hoff
  cases hoff with
  | upload => exact ⟨fun hc => absurd (hpl.symm.trans hc) (by simp), hpath⟩
  | download hsome => cases hrem.symm.trans hsome

theorem proper_of_plain (s : System) (a : Action) (h : s.plain a = true) : Proper env s a := by
  cases a with
  | initStore i => simpa [plain, Proper] using h
  | perform i world receiver =>
    intro thread op hi hop
    simp only [plain, hi, Option.bind_some, hop] at h
    cases op with
    | algo c => trivial
    | data c =>
      simp only [Bool.and_eq_true, Option.isNone_iff_eq_none, Bool.not_eq_true'] at h
      obtain ⟨⟨hrem, hpl⟩, hpath⟩ := h
      refine properOp_upload hrem hpl fun path heq => ?_
      simpa [heq] using hpath
    | _ => cases h
  | stopComputation => cases h
  | stop answer =>
    have hstop : s.stop = some .readChan := by simpa [plain] using h
    simp [Proper, hstop]
  | _ => trivial

/-- A manifest with a dataset. -/
def oneDataset : Computation :=
  { algorithm := { hash := [1] }, datasets := .ofList [{ hash := [2], filename := [0x62] }] }

/-- It is sent to the agent, and then the algorithm and the dataset. -/
def gather : List Action :=
  boot ++ manifest 0 0 oneDataset ++
    [.request (.algo { algo := { algorithm := [1] }, oci := noImages })] ++
    exchange 0 (.perform 2 offline (some 0)) ++
    [.request (.data { dataset := { dataset := [2], filename := [0x62] }, oci := noImages }),
      .loop 0 .readChans, .loop 0 .wait, .perform 4 offline (some 0), .loop 0 .lookup]

theorem approved_gather :
    ∃ s t, run (step plainEnv) init gather = some s ∧
      step plainEnv s (.loop 0 .conclude) = some t ∧ OnlyApproved plainEnv t := by
  have hpl : Guarded (step plainEnv) (fun s a => s.plain a = true) init gather := by
    decide +kernel
  have hends : ((run (step plainEnv) init gather).bind fun s =>
      (step plainEnv s (.loop 0 .conclude)).map fun t =>
        (s.sm.currentState, t.sm.currentState)) = some (.receivingData, .running) := by
    decide +kernel
  obtain ⟨s, hrun, hends⟩ := Option.bind_eq_some_iff.mp hends
  obtain ⟨t, hstep, hends⟩ := Option.map_eq_some_iff.mp hends
  obtain ⟨hold, hnew⟩ := Prod.mk.inj hends
  exact ⟨s, t, hrun, hstep, only_approved_runs plainEnv gather s t (.loop 0 .conclude)
    (hpl.mono proper_of_plain) hrun hstep (by simp [hold]) hnew⟩

def otherAlgorithm : Computation := { algorithm := { hash := [9] } }

/-- Two calls of `InitComputation` find that the agent waits for a manifest. The second one takes
the mutex when the loop has looked up where the algorithm of the first one leads. -/
def twoManifests : List Action :=
  boot ++ [.request (.initComputation bare), .request (.initComputation otherAlgorithm),
      .initStore 0, .initRead 0] ++
    exchange 0 (.initSend 0 (some 0)) ++
    [.request (.algo { algo := { algorithm := [1] }, oci := noImages }),
      .loop 0 .readChans, .loop 0 .wait, .perform 3 offline (some 0), .loop 0 .lookup, .initStore 1]

/-- The agent then enters `Running` with an algorithm that the manifest does not name. -/
theorem wrong_algorithm_runs :
    ((run (step plainEnv) init twoManifests).bind fun s =>
      (step plainEnv s (.loop 0 .conclude)).map fun t =>
        (s.sm.currentState, t.sm.currentState, t.files.algo.map plainEnv.sha3,
          t.service.computation.algorithm.hash)) =
      some (.receivingAlgorithm, .running, some [1], [9]) := by
  decide +kernel

end System

end SecureBinding.Agent
