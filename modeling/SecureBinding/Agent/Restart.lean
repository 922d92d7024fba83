import SecureBinding.Agent.Loops

/-!
# Agent.Restart

Whether a stopped agent can be used again.

`StopComputation` leaves the agent with a new loop and sends it `Start`. The loop ends with the
first event that has no transition in the present state, and nothing starts another one but the
next `StopComputation`; it also ends with the context of the call that started it. And an event
that comes while the loop does not wait is dropped. `Orderly` is the condition on the single
steps under which none of this happens. Then the loop runs on, the agent comes to
`ReceivingManifest`, and every `InitComputation` takes it to `ReceivingAlgorithm`
(`stop_frees_agent`).
-/

namespace SecureBinding.Agent.System

open Go Lib
open StateMachine (Loop LoopAction LoopStep waitsOn_eq_true_iff)

variable {env : Env} {s t : System} {a : Action} {k n : Nat} {l : LoopState}

/-! ### The condition -/

/-- The channel and the event of the send that a step makes, if it makes one. -/
def sending (env : Env) (s : System) : Action → Option (Nat × AgentEvent)
  | .initSend i _ =>
    match s.threads[i]? with
    | some (.initHolding chan) => some (chan, .manifestReceived)
    | _ => none
  | .perform i world _ =>
    match s.threads[i]? with
    | some thread =>
      match thread.op world with
      | some op => (op.outcome env s.service s.files).event.map (s.sm.chan, ·)
      | none => none
    | none => none
  | .report _ _ =>
    some (s.sm.chan, if s.service.runError.isSome then .runFailed else .runComplete)
  | .stopSend _ =>
    match s.stop with
    | some (.send chan) => some (chan, .start)
    | _ => none
  | _ => none

/-- The last loop waits for events, and there is a transition for this one. -/
def Awaited (s : System) (event : AgentEvent) : Prop :=
  s.loops[s.number]?.any (·.loop.waitsOn s.sm.chan) = true ∧
    s.sm.transitions s.sm.currentState (some event) ≠ none

instance {event : AgentEvent} : Decidable (Awaited s event) := inferInstanceAs (Decidable (_ ∧ _))

variable {event : AgentEvent} {i : Nat}

theorem Awaited.waiting (h : Awaited s event) :
    ∃ l, s.loops[s.number]? = some l ∧ l.loop = .waiting s.sm.chan := by
  obtain ⟨l, hl, hwait⟩ := (Option.any_eq_true _ _).mp h.1
  exact ⟨l, hl, waitsOn_eq_true_iff.mp hwait⟩

/-- The step is no cancellation of the last loop's context, no `StopComputation`, and does not
log an error that is gone. -/
def undisturbed (s : System) : Action → Bool
  | .run i _ =>
    match s.threads[i]? with
    | some (.run _ .logError) => s.service.runError.isSome
    | _ => true
  | .cancel n => n != s.number
  | .stopComputation => false
  | _ => true

/-- What a step must be like for the agent to go on. -/
def Orderly (env : Env) (s : System) (a : Action) : Prop :=
  (∀ x ∈ sending env s a, x.1 = s.sm.chan ∧ Awaited s x.2) ∧ undisturbed s a = true

instance : Decidable (Orderly env s a) := inferInstanceAs (Decidable (_ ∧ _))

/-! ### A loop that runs -/

/-- The last loop can go on. -/
inductive Ready (sm : AgentMachine) : Loop AgentState AgentEvent → Prop
  | top : Ready sm .top
  | atSelect : Ready sm (.atSelect sm.chan)
  | waiting : Ready sm (.waiting sm.chan)
  | received {event : AgentEvent} (h : sm.transitions sm.currentState (some event) ≠ none) :
    Ready sm (.received (some event))
  | lookedUp {currentState next : AgentState} {event : AgentEvent} :
    Ready sm (.lookedUp currentState (some event) (some next))

theorem Ready.addTransitions {sm : AgentMachine} {loop : Loop AgentState AgentEvent}
    (h : Ready sm loop) (transitions : List Transition) :
    Ready (addTransitions sm transitions) loop := by
  cases h with
  | top => exact .top
  | atSelect =>
    rw [← chan_addTransitions]
    exact .atSelect
  | waiting =>
    rw [← chan_addTransitions]
    exact .waiting
  | received hval =>
    refine .received ?_
    rw [currentState_addTransitions]
    exact transitions_addTransitions_ne_none hval
  | lookedUp => exact .lookedUp

/-- Loop `k` is the last one and runs, and no other loop handles an event. -/
structure Running (k : Nat) (s : System) : Prop where
  wired : Wired s
  not_panicked : s.panicked = false
  number : s.number = k
  stop : ∀ phase, s.stop = some phase → ¬phase.Cancelled
  others : IdleOthers s
  last : ∃ l, s.loops[k]? = some l ∧ l.done = false ∧ Ready s.sm l.loop

/-- A step that leaves the loops and the machine alone. -/
theorem Running.frame (h : Running k s) (hwi : Wired t) (hpan : t.panicked = false)
    (hsm : t.sm = s.sm) (hls : t.loops = s.loops)
    (hstop : ∀ phase, t.stop = some phase → ¬phase.Cancelled) : Running k t := by
  refine ⟨hwi, hpan, ?_, hstop, ?_, ?_⟩
  · rw [System.number, hls]
    exact h.number
  · exact h.others.frame hls
  · rw [hls, hsm]
    exact h.last

theorem Running.set (h : Running k s) (hwi : Wired t) (hpan : t.panicked = false)
    (hl : s.loops[k]? = some l) {loop : Loop AgentState AgentEvent}
    (hls : t.loops = s.loops.set k { l with loop }) (hdone : l.done = false)
    (hrdy : Ready t.sm loop) (hstop : t.stop = s.stop) : Running k t := by
  refine ⟨hwi, hpan, ?_, by rw [hstop]; exact h.stop,
    h.others.set hls fun hn => absurd h.number.symm hn, { l with loop }, ?_, hdone, hrdy⟩
  · rw [System.number, hls, List.length_set]
    exact h.number
  · rw [hls, List.getElem?_set_self (lt_of_getElem? hl)]

/-- An event that is awaited is taken by the last loop. -/
theorem Running.sent (h : Running k s) {chan : Nat}
    (hsent : Sent s chan event t) (hchan : chan = s.sm.chan) (haw : Awaited s event) :
    Running k t ∧ t.sm = s.sm ∧ t.threads = s.threads ∧
      ∃ l, t.loops[k]? = some l ∧ l.loop = .received (some event) := by
  have hwi := h.wired.sent hsent
  subst hchan
  cases hsent with
  | panic hcls => exact absurd hcls (Nat.lt_irrefl _)
  | @deliver n l hopen hl hwait =>
    obtain rfl : n = k := (h.wired.last_of_waiting hl hopen hwait).trans h.number
    obtain ⟨l', hl', hdone, -⟩ := h.last
    obtain rfl := Option.some.inj (hl.symm.trans hl')
    refine ⟨h.set hwi h.not_panicked hl rfl hdone (.received haw.2) rfl, rfl, rfl,
      { l with loop := .received (some event) }, ?_, rfl⟩
    exact List.getElem?_set_self (lt_of_getElem? hl)
  | drop hopen hwait =>
    obtain ⟨l, hl, hw⟩ := haw.waiting
    exact absurd hw (hwait l (List.mem_of_getElem? hl))

theorem Running.loop (h : Running k s) {b : LoopAction} {loop : Loop AgentState AgentEvent}
    {sm : AgentMachine} (hl : s.loops[k]? = some l)
    (hstep : LoopStep some l.done s.sm l.loop b loop sm) : Ready sm loop := by
  obtain ⟨l', hl', hdone, hrdy⟩ := h.last
  obtain rfl := Option.some.inj (hl.symm.trans hl')
  generalize l.loop = loop₀ at hstep hrdy
  cases hstep with
  | readChans => exact .atSelect
  | wait =>
    cases hrdy
    exact .waiting
  | recvClosed hsel hcls | recvReset hsel hcls =>
    -- The channel of the last loop is open.
    cases hrdy <;> cases hsel <;> exact absurd hcls (Nat.lt_irrefl _)
  | ctxDone _ hdone' =>
    rw [hdone] at hdone'
    cases hdone'
  | lookup =>
    cases hrdy with
    | received hval =>
      obtain ⟨next, hnext⟩ := Option.ne_none_iff_exists'.mp hval
      rw [show s.sm.transitions s.sm.currentState ((some _).bind some) = some next from hnext]
      exact .lookedUp
  | apply => exact .top
  | refuse => cases hrdy

theorem running_step (h : Running k s) (hg : Orderly env s a)
    (hstep : step env s a = some t) : Running k t := by
  have hwi := wired_step h.wired hstep
  obtain ⟨hsend, hcalm⟩ := hg
  cases Step.of_step hstep with
  | refused => exact h
  | request | initRead => exact h.frame hwi h.not_panicked rfl rfl h.stop
  | initStore =>
    obtain ⟨l, hl, hdone, hrdy⟩ := h.last
    exact ⟨hwi, h.not_panicked, h.number, h.stop, h.others, l, hl, hdone, hrdy.addTransitions _⟩
  -- Orderly sends are awaited, so that the last loop takes the event and does not end.
  | @initSend i chan _ _ hi hsent =>
    obtain ⟨hchan, haw⟩ := hsend (chan, .manifestReceived) (by simp [sending, hi])
    refine (Running.sent ?_ hsent hchan haw).1
    exact h.frame (h.wired.frame rfl rfl rfl) h.not_panicked rfl rfl h.stop
  | @perform i world _ thread op _ hi _ hop hemi =>
    have haft : Running k (s.after env i thread op) :=
      h.frame (h.wired.frame rfl rfl rfl) h.not_panicked rfl rfl h.stop
    generalize hev : (op.outcome env s.service s.files).event = event at hemi
    cases hemi with
    | nothing => exact haft
    | @event event _ hsent =>
      obtain ⟨hchan, haw⟩ := hsend (s.sm.chan, event) (by simp [sending, hi, hop, hev])
      exact (haft.sent hsent rfl haw).1
  | @run i owner _ phase _ hi hrun =>
    cases hrun with
    | moves | result | error => exact h.frame hwi h.not_panicked rfl rfl h.stop
    -- In an orderly step the error is there that is to be logged.
    | panic hph hgone =>
      subst hph
      simp [undisturbed, hi, hgone] at hcalm
  | report _ _ hsent =>
    obtain ⟨hchan, haw⟩ := hsend _ rfl
    refine (Running.sent ?_ hsent hchan haw).1
    exact h.frame (h.wired.frame rfl rfl rfl) h.not_panicked rfl rfl h.stop
  -- The last loop keeps ready; another one has nothing in hand and leaves the machine alone.
  | @loop n l b loop sm hl hloop =>
    by_cases hn : n = k
    · subst hn
      obtain ⟨l', hl', hdone, -⟩ := h.last
      obtain rfl := Option.some.inj (hl.symm.trans hl')
      exact h.set hwi h.not_panicked hl rfl hdone (h.loop hl hloop) rfl
    · have hidle := h.others n l hl (by rw [h.number]; exact hn)
      obtain ⟨hnone, rfl, -⟩ := h.wired.idle_loop hl hloop hidle
      obtain ⟨l', hl', hlast⟩ := h.last
      refine ⟨hwi, h.not_panicked, ?_, h.stop, h.others.set rfl fun _ => hnone, l', ?_, hlast⟩
      · rw [System.number, List.length_set]
        exact h.number
      · rw [List.getElem?_set_ne hn]
        exact hl'
  -- Only contexts of earlier loops are cancelled in an orderly step.
  | @cancel n =>
    have hn : n ≠ k := by
      rw [← h.number]
      simpa [undisturbed] using hcalm
    obtain ⟨l, hl, hlast⟩ := h.last
    refine ⟨hwi, h.not_panicked, ?_, h.stop, h.others.modify rfl, l, ?_, hlast⟩
    · rw [System.number, List.length_modify]
      exact h.number
    · rw [List.getElem?_modify, hl]
      simp [hn]
  -- A second call of `StopComputation` is not orderly, and the first is past its cleaning.
  | stopComputation => cases hcalm
  | stopRemove hstop hph => exact absurd (cancelled_of_removes hph) (h.stop _ hstop)
  | stopFail hstop hph =>
    obtain rfl | rfl := hph
    · exact absurd trivial (h.stop _ hstop)
    · exact absurd trivial (h.stop _ hstop)
  | stopReset hstop | stopRestart hstop => exact absurd trivial (h.stop _ hstop)
  | stopRead =>
    refine h.frame hwi h.not_panicked rfl rfl fun phase hph => ?_
    cases hph
    exact id
  | @stopSend chan _ _ hstop hsent =>
    obtain ⟨hchan, haw⟩ := hsend (chan, .start) (by simp [sending, hstop])
    refine (Running.sent ?_ hsent hchan haw).1
    exact h.frame (h.wired.phase rfl rfl (by simp) (by simp) (by simp)) h.not_panicked rfl rfl
      (by simp)

/-- The new loop, if the old ones are not in the middle of something. -/
theorem running_restart (hs : Reaches (step env) init s) (hrst : Restarts s a)
    (hidle : ∀ l ∈ s.loops, holds l.loop = none) (hstep : step env s a = some t) :
    Running t.number t := by
  have hwi := wired_step (wired_of_reaches hs) hstep
  have hpan := (step_eq_some_iff.mp hstep).1
  obtain ⟨hstop, hph⟩ := hrst
  cases a with
  | stop answer =>
    have heq := (step_eq_some_iff.mp hstep).2
    rw [act, hph] at heq
    obtain rfl := Option.some.inj heq
    have hnum : System.number { s with
        service := {}, loops := s.loops ++ [{}], stop := some .readChan
        resultOf := none, errorOf := none, declared := none, placed := [] } = s.loops.length := by
      simp [System.number]
    rw [hnum]
    refine ⟨hwi, hpan, hnum, fun phase hph => ?_, fun n l hl _ => ?_, {}, by simp, rfl, .top⟩
    · cases hph
      exact id
    · obtain hmem | hmem := List.mem_append.mp (List.mem_of_getElem? hl)
      · exact hidle l hmem
      · rw [List.mem_singleton.mp hmem]
        rfl
  | _ => cases hstop

/-! ### The steps of others -/

/-- A step of loop `k`. -/
def OfLoop (k : Nat) (a : Action) : Prop := ∃ b, a = .loop k b

/-- A step of the call of `InitComputation` that is thread `i`. -/
def OfInit (i : Nat) (a : Action) : Prop :=
  a = .initStore i ∨ a = .initRead i ∨ ∃ receiver, a = .initSend i receiver

/-- While the last loop does not wait, only its own steps change it or the agent's state. -/
theorem Running.other (h : Running k s) (hg : Orderly env s a) (hoth : ¬OfLoop k a)
    (hl : s.loops[k]? = some l) (hbusy : ∀ chan, l.loop ≠ .waiting chan)
    (hstep : step env s a = some t) :
    t.sm.currentState = s.sm.currentState ∧ ∃ l', t.loops[k]? = some l' ∧ l'.loop = l.loop := by
  -- Nothing is sent: an orderly send finds the last loop waiting.
  have hno : ∀ event, ¬Awaited s event := by
    intro event haw
    obtain ⟨l', hl', hwait⟩ := haw.waiting
    rw [h.number] at hl'
    obtain rfl := Option.some.inj (hl.symm.trans hl')
    exact hbusy _ hwait
  have hsend : sending env s a = none := by
    cases hsnd : sending env s a with
    | none => rfl
    | some x => exact absurd (hg.1 x hsnd).2 (hno x.2)
  cases Step.of_step hstep with
  | refused | request | initRead | stopRemove | stopFail | stopRead => exact ⟨rfl, l, hl, rfl⟩
  | initStore => exact ⟨currentState_addTransitions, l, hl, rfl⟩
  | initSend hi => simp [sending, hi] at hsend
  | @perform i world _ thread op _ hi _ hop hemi =>
    simp only [sending, hi, hop, Option.map_eq_none_iff] at hsend
    rw [hsend] at hemi
    cases hemi
    exact ⟨rfl, l, hl, rfl⟩
  | run _ hrun => cases hrun <;> exact ⟨rfl, l, hl, rfl⟩
  | report => simp [sending] at hsend
  | @loop n l' b _ _ hl' hloop =>
    have hn : n ≠ k := by
      intro hn
      subst hn
      exact hoth ⟨b, rfl⟩
    have hidle := h.others n l' hl' (by rw [h.number]; exact hn)
    obtain ⟨-, rfl, -⟩ := h.wired.idle_loop hl' hloop hidle
    exact ⟨rfl, l, by rw [List.getElem?_set_ne hn]; exact hl, rfl⟩
  | @cancel n =>
    refine ⟨rfl, _, by rw [List.getElem?_modify, hl]; rfl, ?_⟩
    split
    · rfl
    · rfl
  | stopComputation => cases hg.2
  | stopReset hstop | stopRestart hstop => exact absurd trivial (h.stop _ hstop)
  | stopSend hstop => simp [sending, hstop] at hsend

/-- A call of `InitComputation` is moved on by its own steps only. -/
theorem thread_of_other {x : Thread} (hi : s.threads[i]? = some x)
    (hop : ∀ world, x.op world = none) (hrun : ∀ owner phase, x ≠ .run owner phase)
    (hoth : ¬OfInit i a) (hstep : step env s a = some t) : t.threads[i]? = some x := by
  have hset : ∀ {j : Nat} {y : Thread}, i ≠ j → (s.threads.set j y)[i]? = some x := by
    intro j y hj
    rw [List.getElem?_set_ne (Ne.symm hj)]
    exact hi
  have happ : ∀ {threads : List Thread}, (s.threads ++ threads)[i]? = some x := by
    intro threads
    rw [List.getElem?_append_left (List.getElem?_eq_some_iff.mp hi).1]
    exact hi
  -- A step writes to one thread, or appends new ones.
  cases Step.of_step hstep with
  | refused | cancel | stopComputation | stopRemove | stopFail | stopReset | stopRestart | stopRead =>
    exact hi
  | request => exact happ
  | @initStore j _ _ _ => exact hset fun hj => hoth (.inl (by rw [hj]))
  | @initRead j _ => exact hset fun hj => hoth (.inr (.inl (by rw [hj])))
  | @initSend j _ receiver _ _ hsent =>
    rw [hsent.threads_eq]
    exact hset fun hj => hoth (.inr (.inr ⟨receiver, by rw [hj]⟩))
  | @perform j world _ thread op _ hj _ hop' hemi =>
    -- The thread is no call that takes the mutex to operate, so it is another one that does.
    have hne : i ≠ j := by
      intro heq
      subst heq
      obtain rfl := Option.some.inj (hi.symm.trans hj)
      simp [hop] at hop'
    generalize (op.outcome env s.service s.files).event = event at hemi
    cases hemi with
    | nothing => exact hset hne
    | event hsent =>
      rw [hsent.threads_eq]
      exact hset hne
  | @run j owner _ phase _ hj hrun' =>
    have hne : i ≠ j := by
      intro heq
      subst heq
      exact hrun owner phase (Option.some.inj (hi.symm.trans hj))
    cases hrun' with
    | panic => exact hi
    | _ => exact hset hne
  | @report j owner _ _ hj _ hsent =>
    rw [hsent.threads_eq]
    refine hset fun heq => ?_
    subst heq
    exact hrun owner _ (Option.some.inj (hi.symm.trans hj))
  | loop => exact happ
  | stopSend _ hsent =>
    rw [hsent.threads_eq]
    exact hi

/-! The steps of a call of `InitComputation` come in their order. -/

theorem stored_of_checked {cmp : Computation}
    (hi : s.threads[i]? = some (.initChecked cmp)) (hof : OfInit i a)
    (hstep : step env s a = some t) : t.threads[i]? = some .initStored := by
  have hlt := (List.getElem?_eq_some_iff.mp hi).1
  obtain rfl | rfl | ⟨receiver, rfl⟩ := hof
  · cases Step.of_step hstep with
    | initStore => exact List.getElem?_set_self hlt
  · cases Step.of_step hstep with
    | initRead hi' => simp [hi] at hi'
  · cases Step.of_step hstep with
    | initSend hi' => simp [hi] at hi'

theorem checked_of_request {cmp : Computation}
    (hst : s.sm.currentState = .receivingManifest) (hstop : s.stop = none)
    (hstep : step env s (.request (.initComputation cmp)) = some t) :
    t.stop = none ∧ ∃ cmp, t.threads[s.threads.length]? = some (.initChecked cmp) := by
  have hact := (step_eq_some_iff.mp hstep).2
  rw [act, hst] at hact
  obtain rfl := Option.some.inj hact
  exact ⟨hstop, cmp, by simp⟩

theorem holding_of_stored (hi : s.threads[i]? = some .initStored) (hof : OfInit i a)
    (hstep : step env s a = some t) : ∃ chan, t.threads[i]? = some (.initHolding chan) := by
  have hlt := (List.getElem?_eq_some_iff.mp hi).1
  obtain rfl | rfl | ⟨receiver, rfl⟩ := hof
  · cases Step.of_step hstep with
    | initStore hi' => simp [hi] at hi'
  · cases Step.of_step hstep with
    | initRead => exact ⟨_, List.getElem?_set_self hlt⟩
  · cases Step.of_step hstep with
    | initSend hi' => simp [hi] at hi'

theorem initSend_of_holding {chan : Nat} (hi : s.threads[i]? = some (.initHolding chan))
    (hof : OfInit i a) (hstep : step env s a = some t) :
    ∃ receiver, a = .initSend i receiver := by
  obtain rfl | rfl | h := hof
  · cases Step.of_step hstep with
    | initStore hi' => simp [hi] at hi'
  · cases Step.of_step hstep with
    | initRead hi' => simp [hi] at hi'
  · exact h

/-- Once `StopComputation` has returned, the mutex is free until the next one. -/
theorem stop_of_none (hstop : s.stop = none) (hnot : a ≠ .stopComputation)
    (hstep : step env s a = some t) : t.stop = none := by
  cases Step.of_step hstep with
  | refused | request | initStore | initRead | loop | cancel => exact hstop
  | initSend _ hsent | report _ _ hsent => rw [hsent.stop_eq]; exact hstop
  | perform _ _ _ hemi =>
    generalize (Op.outcome _ _ _ _).event = event at hemi
    cases hemi with
    | nothing => exact hstop
    | event hsent => rw [hsent.stop_eq]; exact hstop
  | run _ hrun => cases hrun <;> exact hstop
  | stopComputation => exact absurd rfl hnot
  | stopRemove h | stopFail h | stopReset h | stopRestart h | stopRead h => simp [hstop] at h
  | stopSend _ hsent => rw [hsent.stop_eq]

/-! ### Progress -/

section Progress

variable {r : Schedule (step env)} {receiver : Option Nat}

/-- The last loop is about to look the event up. -/
def Taken (k : Nat) (currentState : AgentState) (event : AgentEvent) (s : System) : Prop :=
  s.sm.currentState = currentState ∧ ∃ l, s.loops[k]? = some l ∧ l.loop = .received (some event)

/-- And to enter the next state. -/
def Decided (k : Nat) (next : AgentState) (s : System) : Prop :=
  ∃ l, s.loops[k]? = some l ∧ ∃ currentState event,
    l.loop = .lookedUp currentState (some event) (some next)

theorem Running.step_loop (h : Running k s) (hl : s.loops[k]? = some l) {b : LoopAction}
    (hsome : (l.loop.step some l.done s.sm b).isSome = true) :
    Schedule.Enabled (step env) (OfLoop k) s := by
  refine ⟨.loop k b, ⟨b, rfl⟩, ?_⟩
  simp only [step, h.not_panicked, Bool.false_eq_true, if_false, act, hl, Option.isSome_map]
  exact hsome

variable {next : AgentState}

theorem decided_of_taken {currentState : AgentState} (h : Taken k currentState event s)
    (hrow : s.sm.transitions currentState (some event) = some next) (hof : OfLoop k a)
    (hstep : step env s a = some t) : Decided k next t := by
  obtain ⟨hst, l, hl, hloop⟩ := h
  obtain ⟨b, rfl⟩ := hof
  cases Step.of_step hstep with
  | @loop _ l' _ _ _ hl' hmove =>
    obtain rfl := Option.some.inj (hl.symm.trans hl')
    rw [hloop] at hmove
    cases hmove with
    | lookup =>
      refine ⟨_, List.getElem?_set_self (lt_of_getElem? hl), currentState, event, ?_⟩
      show Loop.lookedUp s.sm.currentState (some event)
        (s.sm.transitions s.sm.currentState (some event)) = _
      rw [hst, hrow]
    | recvClosed hsel | recvReset hsel | ctxDone hsel => cases hsel

theorem state_of_decided (h : Decided k next s) (hof : OfLoop k a)
    (hstep : step env s a = some t) : t.sm.currentState = next := by
  obtain ⟨l, hl, currentState, event, hloop⟩ := h
  obtain ⟨b, rfl⟩ := hof
  cases Step.of_step hstep with
  | @loop _ l' _ _ _ hl' hmove =>
    obtain rfl := Option.some.inj (hl.symm.trans hl')
    rw [hloop] at hmove
    cases hmove with
    | apply => rfl
    | recvClosed hsel | recvReset hsel | ctxDone hsel => cases hsel

/-- An event that the last loop has taken, and for which there is always a transition, takes the
agent to its target. -/
theorem state_of_taken (hrun : ∀ n, Running k (r.state n))
    (hg : ∀ n, Orderly env (r.state n) (r.action n)) (hfair : r.WeaklyFair (OfLoop k))
    {currentState : AgentState}
    (hrow : ∀ n, (r.state n).sm.transitions currentState (some event) = some next) :
    r.LeadsTo (Taken k currentState event) fun s => s.sm.currentState = next := by
  -- Two turns of the loop: it looks the transition up, and then enters the state.
  have hlkp : r.LeadsTo (Taken k currentState event) (Decided k next) := by
    refine Schedule.leadsTo_of_weaklyFair hfair (fun n hp hof => ?_) (fun n hp => ?_)
      fun n hp hof => decided_of_taken hp (hrow n) hof (r.next n)
    · -- Until its turn the loop stays where it is, since it does not wait.
      obtain ⟨hst, l, hl, hloop⟩ := hp
      obtain ⟨hsame, l', hl', hloop'⟩ := (hrun n).other (hg n) hof hl
        (by rw [hloop]; nofun) (r.next n)
      exact ⟨hsame.trans hst, l', hl', hloop'.trans hloop⟩
    · obtain ⟨-, l, hl, hloop⟩ := hp
      exact (hrun n).step_loop hl (b := .lookup) (by rw [hloop]; rfl)
  have hconclude : r.LeadsTo (Decided k next) fun s => s.sm.currentState = next := by
    refine Schedule.leadsTo_of_weaklyFair hfair (fun n hp hof => ?_) (fun n hp => ?_)
      fun n hp hof => state_of_decided hp hof (r.next n)
    · obtain ⟨l, hl, currentState, event, hloop⟩ := hp
      obtain ⟨-, l', hl', hloop'⟩ := (hrun n).other (hg n) hof hl
        (by rw [hloop]; nofun) (r.next n)
      exact ⟨l', hl', currentState, event, hloop'.trans hloop⟩
    · obtain ⟨l, hl, currentState, event, hloop⟩ := hp
      exact (hrun n).step_loop hl (b := .conclude) (by rw [hloop]; rfl)
  exact hlkp.trans hconclude

/-- The two transitions that every table has. -/
theorem Running.row_start (h : Running k s) :
    s.sm.transitions .idle (some .start) = some .receivingManifest := by
  obtain ⟨_, _, htab⟩ := h.wired.tabled
  rw [htab.eq]
  rfl

theorem Running.row_manifestReceived (h : Running k s) :
    s.sm.transitions .receivingManifest (some .manifestReceived) = some .receivingAlgorithm := by
  obtain ⟨_, _, htab⟩ := h.wired.tabled
  rw [htab.eq]
  rfl

/-- An event that is awaited in one state only says which state the agent is in. -/
theorem Running.state_of_awaited {only : AgentState} (h : Running k s) (haw : Awaited s event)
    (honly : ∀ algorithmReceived dataReceived currentState,
      table algorithmReceived dataReceived currentState (some event) ≠ none →
        currentState = only) : s.sm.currentState = only := by
  obtain ⟨_, _, htab⟩ := h.wired.tabled
  have hval := haw.2
  rw [htab.eq] at hval
  exact honly _ _ _ hval

theorem Running.idle_of_start (h : Running k s) (haw : Awaited s .start) :
    s.sm.currentState = .idle := by
  refine h.state_of_awaited haw fun _ _ currentState hval => ?_
  cases currentState <;> first | rfl | exact absurd rfl hval

theorem Running.receivingManifest_of_awaited (h : Running k s)
    (haw : Awaited s .manifestReceived) : s.sm.currentState = .receivingManifest := by
  refine h.state_of_awaited haw fun _ _ currentState hval => ?_
  cases currentState <;> first | rfl | exact absurd rfl hval

/-- `Start` is taken. -/
theorem taken_of_stopSend (h : Running k s) (hg : Orderly env s (.stopSend receiver))
    (hstep : step env s (.stopSend receiver) = some t) : Taken k .idle .start t ∧ t.stop = none := by
  cases Step.of_step hstep with
  | @stopSend chan _ _ hstop hsent =>
    obtain ⟨hchan, haw⟩ := hg.1 (chan, .start) (by simp [sending, hstop])
    have hfr : Running k { s with stop := none, stopped := none :: s.stopped } :=
      h.frame (h.wired.phase rfl rfl nofun nofun (by simp)) h.not_panicked rfl rfl nofun
    obtain ⟨-, hsm, -, hl⟩ := hfr.sent hsent hchan haw
    refine ⟨⟨?_, hl⟩, hsent.stop_eq⟩
    rw [hsm]
    exact h.idle_of_start haw

/-- `ManifestReceived` is taken. -/
theorem taken_of_initSend (h : Running k s) (hg : Orderly env s (.initSend i receiver))
    (hstep : step env s (.initSend i receiver) = some t) :
    Taken k .receivingManifest .manifestReceived t := by
  cases Step.of_step hstep with
  | @initSend _ chan _ _ hi hsent =>
    obtain ⟨hchan, haw⟩ := hg.1 (chan, .manifestReceived) (by simp [sending, hi])
    have hfr : Running k { s with threads := s.threads.set i .finished } :=
      h.frame (h.wired.frame rfl rfl rfl) h.not_panicked rfl rfl h.stop
    obtain ⟨-, hsm, -, hl⟩ := hfr.sent hsent hchan haw
    refine ⟨?_, hl⟩
    rw [hsm]
    exact h.receivingManifest_of_awaited haw

/-! ### InitComputation -/

theorem send_enabled (s : System) (chan : Nat) (event : AgentEvent) :
    ∃ receiver, (s.send chan event receiver).isSome = true := by
  unfold send
  -- A send panics on a closed channel, finds a loop that waits, or is dropped.
  by_cases hcls : chan < s.sm.chan
  · exact ⟨none, by rw [if_pos hcls]; rfl⟩
  by_cases hany : s.loops.any (·.loop.waitsOn chan) = true
  · obtain ⟨l, hmem, hwait⟩ := List.any_eq_true.mp hany
    obtain ⟨n, hn⟩ := List.mem_iff_getElem?.mp hmem
    exact ⟨some n, by simp [hcls, hn, hwait]⟩
  · exact ⟨none, by simp [hcls, hany]⟩

/-- A call that has passed its check gets its event to the loop. -/
theorem taken_of_checked (hrun : ∀ n, Running k (r.state n))
    (hg : ∀ n, Orderly env (r.state n) (r.action n)) (hfair : r.WeaklyFair (OfInit i)) :
    r.LeadsTo (fun s => s.stop = none ∧ ∃ cmp, s.threads[i]? = some (.initChecked cmp))
      (Taken k .receivingManifest .manifestReceived) := by
  -- The call stores its manifest under the mutex, which is free until the next stop,
  have hsto : r.LeadsTo
      (fun s => s.stop = none ∧ ∃ cmp, s.threads[i]? = some (.initChecked cmp))
      (fun s => s.threads[i]? = some .initStored) := by
    refine Schedule.leadsTo_of_weaklyFair hfair (fun n hp hof => ?_) (fun n hp => ?_)
      fun n hp hof => ?_
    · obtain ⟨hstop, cmp, hi⟩ := hp
      refine ⟨stop_of_none hstop (fun ha => ?_) (r.next n), cmp,
        thread_of_other hi (fun _ => rfl) (by simp) hof (r.next n)⟩
      have hcalm := (hg n).2
      rw [ha] at hcalm
      cases hcalm
    · obtain ⟨hstop, cmp, hi⟩ := hp
      refine ⟨.initStore i, .inl rfl, ?_⟩
      simp [step, (hrun n).not_panicked, act, hi, hstop]
    · obtain ⟨-, cmp, hi⟩ := hp
      exact stored_of_checked hi hof (r.next n)
  -- reads the channel,
  have hread : r.LeadsTo (fun s => s.threads[i]? = some .initStored)
      (fun s => ∃ chan, s.threads[i]? = some (.initHolding chan)) := by
    refine Schedule.leadsTo_of_weaklyFair hfair
      (fun n hi hof => thread_of_other hi (fun _ => rfl) (by simp) hof (r.next n)) (fun n hi => ?_)
      fun n hi hof => holding_of_stored hi hof (r.next n)
    refine ⟨.initRead i, .inr (.inl rfl), ?_⟩
    simp [step, (hrun n).not_panicked, act, hi]
  -- and sends; the send is orderly, hence awaited.
  have hsend : r.LeadsTo (fun s => ∃ chan, s.threads[i]? = some (.initHolding chan))
      (Taken k .receivingManifest .manifestReceived) := by
    refine Schedule.leadsTo_of_weaklyFair hfair (fun n hp hof => ?_) (fun n hp => ?_)
      fun n hp hof => ?_
    · obtain ⟨chan, hi⟩ := hp
      exact ⟨chan, thread_of_other hi (fun _ => rfl) (by simp) hof (r.next n)⟩
    · obtain ⟨chan, hi⟩ := hp
      obtain ⟨receiver, hsome⟩ :=
        send_enabled { r.state n with threads := (r.state n).threads.set i .finished } chan
          .manifestReceived
      refine ⟨.initSend i receiver, .inr (.inr ⟨receiver, rfl⟩), ?_⟩
      simpa [step, (hrun n).not_panicked, act, hi] using hsome
    · obtain ⟨chan, hi⟩ := hp
      obtain ⟨receiver, ha⟩ := initSend_of_holding hi hof (r.next n)
      have hok := hg n
      have hnext := r.next n
      rw [ha] at hok hnext
      exact taken_of_initSend (hrun n) hok hnext
  exact (hsto.trans hread).trans hsend

end Progress

/-! ### A call of StopComputation that frees the agent -/

/-- The agent of `New` is stopped, up to the start of the new loop. -/
def stopping : List Action :=
  boot ++ [.stopComputation, .stop {}, .stop {}, .stop {}, .stop {}]

def halted : System := (run (step plainEnv) init stopping).get (by decide +kernel)

def restarted : System := (step plainEnv halted (.stop {})).get (by decide +kernel)

/-- The rest of the call, a call of `InitComputation`, and the loop waits again. -/
def resuming : List Action :=
  .stop {} :: exchange 1 (.stopSend (some 1)) ++ manifest 1 0 bare ++
    [.loop 1 .readChans, .loop 1 .wait]

def resumed : System := (run (step plainEnv) restarted resuming).get (by decide +kernel)

theorem run_stopping : run (step plainEnv) init stopping = some halted := (Option.some_get _).symm

theorem step_halted : step plainEnv halted (.stop {}) = some restarted := (Option.some_get _).symm

theorem run_resuming : run (step plainEnv) restarted resuming = some resumed :=
  (Option.some_get _).symm

/-- A call that is refused. -/
theorem step_resumed : step plainEnv resumed (.request (.result none)) = some resumed := by
  have hst : resumed.sm.currentState = .receivingAlgorithm := by decide +kernel
  have hpan : resumed.panicked = false := by decide +kernel
  simp [step, hpan, act, Request.check, hst]

def resumedSchedule : Schedule (step plainEnv) := .ofRun run_resuming step_resumed

theorem weaklyFair_loop : resumedSchedule.WeaklyFair (OfLoop restarted.number) := by
  have hl : resumed.loops[1]? = some { loop := .waiting 1 } := by decide +kernel
  refine Schedule.weaklyFair_ofRun run_resuming step_resumed fun h => ?_
  obtain ⟨a, ⟨b, rfl⟩, hsome⟩ := h
  obtain ⟨t, hstep⟩ := Option.isSome_iff_exists.mp hsome
  cases Step.of_step hstep with
  | loop hl' hmove =>
    obtain rfl := Option.some.inj (hl.symm.trans hl')
    cases hmove with
    | recvClosed hsel hcls | recvReset hsel hcls =>
      obtain rfl := Option.some.inj hsel
      exact absurd hcls (Nat.lt_irrefl 1)
    | ctxDone _ hdone => cases hdone

theorem weaklyFair_init (i : Nat) : resumedSchedule.WeaklyFair (OfInit i) := by
  have hthreads : resumed.threads = [.finished, .downloadAlgorithm 1] := rfl
  have hnone : ∀ thread, resumed.threads[i]? = some thread →
      thread = .finished ∨ thread = .downloadAlgorithm 1 := by
    intro thread hi
    simpa [hthreads] using List.mem_of_getElem? hi
  -- In the last state no thread is a call of `InitComputation`, so none of its steps is due.
  refine Schedule.weaklyFair_ofRun run_resuming step_resumed fun h => ?_
  obtain ⟨a, hof, hsome⟩ := h
  obtain ⟨t, hstep⟩ := Option.isSome_iff_exists.mp hsome
  obtain rfl | rfl | ⟨receiver, rfl⟩ := hof
  · cases Step.of_step hstep with
    | initStore hi => exact absurd (hnone _ hi) (by simp)
  · cases Step.of_step hstep with
    | initRead hi => exact absurd (hnone _ hi) (by simp)
  · cases Step.of_step hstep with
    | initSend hi => exact absurd (hnone _ hi) (by simp)

/-! ### StopComputation frees the agent -/

/-- From a restart at which no loop handles an event, in all runs of orderly steps: the new loop
runs on and nothing panics; and if the loop and the calls of `InitComputation` get their turn,
then after `StopComputation` has returned nil the agent comes to `ReceivingManifest`, and every
`InitComputation` that it then accepts takes it to `ReceivingAlgorithm`. -/
theorem stop_frees_agent (env : Env) (s u : System) (a : Action)
    (hs : Reaches (step env) init s) (hrestart : Restarts s a)
    (hidle : ∀ l ∈ s.loops, holds l.loop = none) (hstep : step env s a = some u) :
    (∀ actions t, Guarded (step env) (Orderly env) u actions → run (step env) u actions = some t →
        t.panicked = false ∧ t.number = u.number ∧
          ∃ l, t.loops[t.number]? = some l ∧ ∀ how, l.loop ≠ .ended how) ∧
    ∀ r : Schedule (step env), r.state 0 = u →
      (∀ n, Orderly env (r.state n) (r.action n)) → r.WeaklyFair (OfLoop u.number) →
      (∀ i, r.WeaklyFair (OfInit i)) → ∀ n receiver, r.action n = .stopSend receiver →
        (∃ m, n < m ∧ (r.state m).sm.currentState = .receivingManifest) ∧
        ∀ m cmp, n < m → r.action m = .request (.initComputation cmp) →
          (r.state m).sm.currentState = .receivingManifest →
            ∃ m', m < m' ∧ (r.state m').sm.currentState = .receivingAlgorithm := by
  -- The new loop is the last one, and it runs as long as the steps are orderly.
  have hu := running_restart hs hrestart hidle hstep
  refine ⟨fun actions t hg hrun => ?_, fun r h0 hg hloop hinit n receiver hn => ?_⟩
  · have ht := invariant_of_run running_step hu hg hrun
    obtain ⟨l, hl, -, hrdy⟩ := ht.last
    refine ⟨ht.not_panicked, ht.number, l, by rw [ht.number]; exact hl, fun how hended => ?_⟩
    rw [hended] at hrdy
    cases hrdy
  -- So it does all along the schedule.
  have hrng : ∀ n, Running u.number (r.state n) := fun n =>
    Schedule.holds_from (fun m h => running_step h (hg m) (r.next m)) (Nat.zero_le n)
      (h0 ▸ hu)
  have hg' := hg n
  have hnext := r.next n
  rw [hn] at hg' hnext
  -- The last send of the call delivers `Start`, and the call has then returned.
  obtain ⟨htak, hfree⟩ := taken_of_stopSend (hrng n) hg' hnext
  refine ⟨?_, fun m cmp hnm hm hst => ?_⟩
  · exact state_of_taken hrng hg hloop (fun n => (hrng n).row_start) (n + 1) htak
  · -- From then on the mutex is free, since the next call would not be orderly.
    have hstop : (r.state m).stop = none := by
      refine Schedule.holds_from (p := fun s : System => s.stop = none) (fun k hk => ?_) hnm hfree
      refine stop_of_none hk (fun hc => ?_) (r.next k)
      have hcalm := (hg k).2
      rw [hc] at hcalm
      cases hcalm
    -- `InitComputation` gets its event to the loop, and the loop makes the transition.
    obtain ⟨m₁, hm₁, htak⟩ := taken_of_checked hrng hg (hinit (r.state m).threads.length)
      (m + 1) (checked_of_request hst hstop (hm ▸ r.next m))
    obtain ⟨m₂, hm₂, hra⟩ := state_of_taken hrng hg hloop
      (fun n => (hrng n).row_manifestReceived) m₁ htak
    exact ⟨m₂, Nat.lt_of_lt_of_le hm₁ hm₂, hra⟩

theorem stop_frees_halted :
    ∃ m, (resumedSchedule.state m).sm.currentState = .receivingAlgorithm := by
  have hidle : ∀ l ∈ halted.loops, holds l.loop = none := by decide +kernel
  have hg : Guarded (step plainEnv) (Orderly plainEnv) restarted resuming := by decide +kernel
  have hrestarts : Restarts halted (.stop {}) := by decide +kernel
  obtain ⟨-, hm⟩ := (stop_frees_agent plainEnv halted restarted (.stop {}) ⟨stopping, run_stopping⟩
    hrestarts hidle step_halted).2 resumedSchedule rfl
    (Schedule.guard_ofRun run_resuming step_resumed hg ⟨nofun, rfl⟩) weaklyFair_loop
    weaklyFair_init 3 (some 1) rfl
  obtain ⟨m, -, hra⟩ := hm 6 bare (by decide) rfl (by decide +kernel)
  exact ⟨m, hra⟩

/-- A computation whose goroutine has still to report is stopped, and the report ends the new
loop. Or the context of the call of `StopComputation` is cancelled later. -/
theorem stop_leaves_dead_loop :
    (run (step plainEnv) init
        (boot ++ manifest 0 0 bare ++
          [.request (.algo { algo := { algorithm := [1] }, oci := noImages })] ++
          exchange 0 (.perform 2 offline (some 0)) ++
          [.run 3 {}, .run 3 {}, .run 3 {}, .run 3 {}, .run 3 {}, .run 3 {}, .run 3 {}, .run 3 {}] ++
          halt 1 ++ exchange 1 (.report 3 (some 1)))).map
        (fun t => (t.stopped, t.loops[t.number]?.map (·.loop))) =
      some ([none, none], some (.ended (.invalid .receivingManifest (some .runComplete)))) ∧
    (run (step plainEnv) init
        (boot ++ halt 1 ++ [.loop 1 .readChans, .loop 1 .wait, .cancel 1, .loop 1 .ctxDone])).map
        (fun t => (t.stopped, t.loops[t.number]?.map (·.loop))) =
      some ([none, none], some (.ended .done)) := by
  decide +kernel

end SecureBinding.Agent.System
