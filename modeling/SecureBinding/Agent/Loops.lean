import SecureBinding.Agent.System

/-!
# Agent.Loops

What is true of the loops in every reachable state of the agent (`wired_of_reaches`).

There may be several loops at a time, as nobody waits for the one that `StopComputation` has
cancelled. But only the last one can take an event: the context of every earlier one is done,
so that it does not enter its `select` again, and the channel that it waits on is closed.
-/

namespace SecureBinding.Agent

open Go Lib
open StateMachine (Loop LoopAction LoopStep)

/-- The event that a loop has taken and not concluded. -/
def holds : Loop AgentState AgentEvent → Option AgentEvent
  | .received event | .lookedUp _ event _ => event
  | _ => none

/-- The call of `StopComputation` has cancelled the last loop, and has not started the next. -/
def StopPhase.Cancelled : StopPhase → Prop
  | .readChan | .send _ => False
  | _ => True

/-- A step of `StopComputation` before its last. -/
def Action.isStop : Action → Bool
  | .stop _ => true
  | _ => false

namespace System

/-- The step clears the service for the next computation, and starts a loop. -/
def Restarts (s : System) (a : Action) : Prop := a.isStop = true ∧ s.stop = some .restart

instance {s : System} {a : Action} : Decidable (Restarts s a) := inferInstanceAs (Decidable (_ ∧ _))

/-- What is known of loop `n` of `count` loops. -/
structure Wire (sm : AgentMachine) (count : Nat) (stop : Option StopPhase) (n : Nat)
    (l : LoopState) : Prop where
  le : ∀ chan, l.loop.selects = some chan → chan ≤ sm.chan
  /-- No transition is found for the zero event. -/
  looked : ∀ currentState next, l.loop = .lookedUp currentState none next → next = none
  done : n + 1 < count ∨ (∃ phase, stop = some phase ∧ phase.Cancelled) → l.done = true
  closed : n + 1 < count ∨ stop = some .restart → ∀ chan, l.loop = .waiting chan → chan < sm.chan

structure Wired (s : System) : Prop where
  tabled : ∃ algorithmReceived dataReceived, Tabled s.sm algorithmReceived dataReceived
  nonempty : 0 < s.loops.length
  wire : ∀ n l, s.loops[n]? = some l → Wire s.sm s.loops.length s.stop n l
  sending : ∀ chan, s.stop = some (.send chan) → chan = s.sm.chan

section Wired

variable {env : Env} {s t : System} {a : Action} {n : Nat} {l : LoopState}

theorem lt_of_getElem? (hl : s.loops[n]? = some l) : n < s.loops.length :=
  (List.getElem?_eq_some_iff.mp hl).1

theorem Wired.nil_event (h : Wired s) (currentState : AgentState) :
    s.sm.transitions currentState none = none := by
  obtain ⟨_, _, htab⟩ := h.tabled
  rw [htab.eq]
  cases currentState <;> rfl

theorem wired_init : Wired init where
  tabled := ⟨none, none, tabled_newMachine⟩
  nonempty := Nat.one_pos
  wire n l hl := by
    obtain rfl : l = {} := by
      have := List.mem_of_getElem? hl
      simpa [init] using this
    refine ⟨nofun, nofun, fun h => ?_, nofun⟩
    obtain h | ⟨phase, hph, hcan⟩ := h
    · have hlt : n + 1 < 1 := h
      omega
    · cases hph
      exact hcan.elim
  sending chan h := nomatch h

/-- A step that leaves the machine, the loops and `StopComputation` alone. -/
theorem Wired.frame (h : Wired s) (hsm : t.sm = s.sm) (hls : t.loops = s.loops)
    (hstop : t.stop = s.stop) : Wired t := by
  constructor
  · rw [hsm]
    exact h.tabled
  · rw [hls]
    exact h.nonempty
  · rw [hsm, hls, hstop]
    exact h.wire
  · rw [hsm, hstop]
    exact h.sending

/-- One loop moves on, and possibly the state of the machine. -/
theorem Wired.set (h : Wired s) {l' : LoopState} (hl : s.loops[n]? = some l)
    (hls : t.loops = s.loops.set n l') (htable : t.sm.transitions = s.sm.transitions)
    (hchan : t.sm.chan = s.sm.chan) (hstop : t.stop = s.stop) (hdone : l'.done = l.done)
    (hle : ∀ chan, l'.loop.selects = some chan → chan ≤ s.sm.chan)
    (hlk : ∀ currentState next, l'.loop = .lookedUp currentState none next → next = none)
    (hwait : ∀ chan, l'.loop = .waiting chan → l.done = false) : Wired t := by
  refine ⟨?_, ?_, fun m k hk => ?_, ?_⟩
  · obtain ⟨_, _, htab⟩ := h.tabled
    exact ⟨_, _, htable.trans htab.eq, htab.algorithm, htab.data⟩
  · rw [hls, List.length_set]
    exact h.nonempty
  · rw [hls] at hk
    rw [hls, List.length_set, hstop]
    -- The loop that moves is judged by where it goes, the others as before.
    by_cases hm : n = m
    · subst hm
      obtain rfl : l' = k := by
        rw [List.getElem?_set_self (lt_of_getElem? hl)] at hk
        exact Option.some.inj hk
      refine ⟨by rw [hchan]; exact hle, hlk, ?_, fun hold chan hc => ?_⟩
      · rw [hdone]
        exact (h.wire n l hl).done
      · -- A loop that is old does not come to wait.
        have htrue : l.done = true :=
          (h.wire n l hl).done (hold.imp_right fun hr => ⟨.restart, hr, trivial⟩)
        rw [hwait chan hc] at htrue
        cases htrue
    · rw [List.getElem?_set_ne hm] at hk
      obtain ⟨hle, hlk, hdone, hcls⟩ := h.wire m k hk
      exact ⟨by rw [hchan]; exact hle, hlk, hdone, by rw [hchan]; exact hcls⟩
  · rw [hstop, hchan]
    exact h.sending

theorem Wired.sent (h : Wired s) {chan : Nat} {event : AgentEvent} (hsent : Sent s chan event t) :
    Wired t := by
  cases hsent with
  | panic => exact h.frame rfl rfl rfl
  | drop => exact h
  | deliver hopen hl hwait => exact h.set hl rfl rfl rfl rfl rfl nofun nofun nofun

theorem Wired.loop (h : Wired s) {b : LoopAction} {loop : Loop AgentState AgentEvent}
    {sm : AgentMachine} (hl : s.loops[n]? = some l)
    (hstep : LoopStep some l.done s.sm l.loop b loop sm) {threads : List Thread} :
    Wired { s with sm, loops := s.loops.set n { l with loop }, threads } := by
  generalize hloop : l.loop = loop₀ at hstep
  cases hstep with
  | readChans => exact h.set hl rfl rfl rfl rfl rfl (by simp [Loop.selects]) nofun nofun
  | wait hopen hdone =>
    refine h.set hl rfl rfl rfl rfl rfl (fun chan hc => ?_) nofun fun _ _ => hdone
    exact (h.wire n l hl).le chan (by rw [hloop]; exact hc)
  | recvClosed | recvReset | ctxDone | refuse | apply =>
    exact h.set hl rfl rfl rfl rfl rfl nofun nofun nofun
  | lookup =>
    refine h.set hl rfl rfl rfl rfl rfl nofun (fun currentState next hc => ?_) (by simp)
    obtain ⟨-, rfl, rfl⟩ := StateMachine.Loop.lookedUp.inj hc
    exact h.nil_event _

theorem Wired.modify (h : Wired s) (m : Nat) :
    Wired { s with loops := s.loops.modify m fun l => { l with done := true } } where
  tabled := h.tabled
  nonempty := by
    rw [List.length_modify]
    exact h.nonempty
  sending := h.sending
  wire k l' hk := by
    rw [List.length_modify]
    rw [List.getElem?_modify] at hk
    obtain ⟨l, hl, rfl⟩ := Option.map_eq_some_iff.mp hk
    obtain ⟨hle, hlk, hdone, hcls⟩ := h.wire k l hl
    by_cases hm : m = k
    · simp only [if_pos hm]
      exact ⟨hle, hlk, fun _ => rfl, hcls⟩
    · simp only [if_neg hm]
      exact ⟨hle, hlk, hdone, hcls⟩

/-- `StopComputation` goes from one phase to another. -/
theorem Wired.phase (h : Wired s) (hsm : t.sm = s.sm) (hls : t.loops = s.loops)
    (hrst : t.stop ≠ some .restart) (hsend : ∀ chan, t.stop = some (.send chan) → chan = s.sm.chan)
    (hcan : (∃ phase, t.stop = some phase ∧ phase.Cancelled) →
      ∃ phase, s.stop = some phase ∧ phase.Cancelled) : Wired t := by
  refine ⟨by rw [hsm]; exact h.tabled, by rw [hls]; exact h.nonempty, fun n l hl => ?_,
    by rw [hsm]; exact hsend⟩
  rw [hsm, hls]
  rw [hls] at hl
  obtain ⟨hle, hlk, hdone, hcls⟩ := h.wire n l hl
  exact ⟨hle, hlk, fun hold => hdone (hold.imp_right hcan),
    fun hold => hcls (.inl (hold.resolve_right hrst))⟩

theorem cancelled_of_removes {phase : StopPhase} (h : phase.Removes) : phase.Cancelled := by
  cases phase <;> trivial

theorem wired_step (h : Wired s) (hstep : step env s a = some t) : Wired t := by
  cases Step.of_step hstep with
  | refused => exact h
  | request | initRead => exact h.frame rfl rfl rfl
  -- The table of the new manifest replaces the old one.
  | @initStore i cmp =>
    refine ⟨?_, h.nonempty, fun n l hl => ?_, fun chan hc => ?_⟩
    · obtain ⟨_, _, htab⟩ := h.tabled
      exact ⟨_, htab.init cmp.datasets.len⟩
    · obtain ⟨hle, hlk, hdone, hcls⟩ := h.wire n l hl
      exact ⟨by simpa using hle, hlk, hdone, by simpa using hcls⟩
    · simpa using h.sending chan hc
  | initSend _ hsent | report _ _ hsent =>
    refine Wired.sent ?_ hsent
    exact h.frame rfl rfl rfl
  | @perform i world receiver thread op _ _ _ _ hemi =>
    have haft : Wired (s.after env i thread op) := h.frame rfl rfl rfl
    generalize (op.outcome env s.service s.files).event = event at hemi
    cases hemi with
    | nothing => exact haft
    | event hsent => exact haft.sent hsent
  | run _ hrun => cases hrun <;> exact h.frame rfl rfl rfl
  | loop hl hloop => exact h.loop hl hloop
  | cancel => exact h.modify _
  | stopComputation hlock =>
    obtain ⟨htab, hnonempty, hwire, hsnd⟩ := h.modify (s.loops.length - 1)
    refine ⟨htab, hnonempty, fun n l' hl' => ?_, nofun⟩
    obtain ⟨hle, hlk, hdone, hcls⟩ := hwire n l' hl'
    refine ⟨hle, hlk, fun _ => ?_, fun hold => hcls (.inl (hold.resolve_right nofun))⟩
    by_cases hlast : n + 1 < s.loops.length
    · exact hdone (.inl (by rw [List.length_modify]; exact hlast))
    · -- The last loop is the one whose context was just cancelled.
      rw [List.getElem?_modify] at hl'
      obtain ⟨l, hl, rfl⟩ := Option.map_eq_some_iff.mp hl'
      have := lt_of_getElem? hl
      rw [if_pos (by omega)]
  | stopRemove hstop hph hnext =>
    refine h.phase rfl rfl (fun hc => ?_) (fun chan hc => ?_)
      fun _ => ⟨_, hstop, cancelled_of_removes hph⟩
    · obtain rfl := Option.some.inj hc
      exact hnext.elim id nofun
    · obtain rfl := Option.some.inj hc
      exact absurd hnext (by simp [StopPhase.Removes])
  | stopFail => exact h.phase rfl rfl nofun nofun (by simp)
  -- Every channel that was made so far is closed now, and all contexts are cancelled.
  | stopReset hstop =>
    obtain ⟨_, _, htab⟩ := h.tabled
    refine ⟨⟨_, _, htab.eq, htab.algorithm, htab.data⟩, h.nonempty, fun n l hl => ?_, nofun⟩
    obtain ⟨hle, hlk, hdone, hcls⟩ := h.wire n l hl
    refine ⟨fun chan hc => Nat.le_succ_of_le (hle chan hc), hlk, fun _ => ?_, fun _ chan hc => ?_⟩
    · exact hdone (.inr ⟨_, hstop, trivial⟩)
    · exact Nat.lt_succ_of_le (hle chan (by rw [hc]; rfl))
  | stopRestart hstop =>
    refine ⟨h.tabled, by simp, fun n l hl => ?_, nofun⟩
    -- The loops there were are old; the new one is at its top and knows no channel.
    by_cases hn : n < s.loops.length
    · rw [List.getElem?_append_left hn] at hl
      obtain ⟨hle, hlk, hdone, hcls⟩ := h.wire n l hl
      exact ⟨hle, hlk, fun _ => hdone (.inr ⟨_, hstop, trivial⟩), fun _ => hcls (.inr hstop)⟩
    · rw [List.getElem?_append_right (Nat.le_of_not_lt hn)] at hl
      obtain rfl : l = {} := by
        have := List.mem_of_getElem? hl
        simpa using this
      refine ⟨nofun, nofun, fun hold => ?_, nofun⟩
      obtain hold | ⟨phase, ⟨⟩, hph⟩ := hold
      · rw [List.length_append, List.length_singleton] at hold
        omega
      · exact hph.elim
  | stopRead =>
    refine h.phase rfl rfl nofun (fun chan hc => ?_) fun hc => ?_
    · cases hc
      rfl
    · obtain ⟨phase, heq, hph⟩ := hc
      cases heq
      exact hph.elim
  | stopSend _ hsent =>
    refine Wired.sent ?_ hsent
    exact h.phase rfl rfl nofun nofun (by simp)

theorem wired_of_reaches (h : Reaches (step env) init s) : Wired s :=
  invariant_of_reaches wired_step wired_init h

/-- A loop that waits on the open channel is the last one. -/
theorem Wired.last_of_waiting (h : Wired s) {chan : Nat} (hl : s.loops[n]? = some l)
    (hopen : ¬chan < s.sm.chan) (hwait : l.loop = .waiting chan) : n = s.number := by
  have hlt := lt_of_getElem? hl
  by_cases hold : n + 1 < s.loops.length
  · exact absurd ((h.wire n l hl).closed (.inl hold) chan hwait) hopen
  · unfold number
    omega

/-- However `StopComputation` interleaves with the loops it has left behind: only the loop that
was started last can take an event, and the contexts of the others are done. -/
theorem last_loop_takes_events (h : Reaches (step env) init s) {chan : Nat}
    (hl : s.loops[n]? = some l) (hwait : l.loop = .waiting chan) (hopen : ¬chan < s.sm.chan) :
    n = s.number ∧ ∀ m k, s.loops[m]? = some k → m ≠ n → k.done = true := by
  have hwi := wired_of_reaches h
  have hn := hwi.last_of_waiting hl hopen hwait
  refine ⟨hn, fun m k hk hm => (hwi.wire m k hk).done (.inl ?_)⟩
  have hlt := lt_of_getElem? hk
  unfold number at hn
  omega

/-- After a call of `StopComputation`. -/
theorem last_loop_takes_events_sample : ∃ s, Reaches (step plainEnv) init s ∧
    1 = s.number ∧ ∀ m k, s.loops[m]? = some k → m ≠ 1 → k.done = true := by
  have hrun : (run (step plainEnv) init (boot ++ (halt 1).take 9)).map
      (fun s => (s.loops, s.sm.chan)) = some ([⟨.top, true⟩, ⟨.waiting 1, false⟩], 1) := by
    decide +kernel
  obtain ⟨s, hs, heq⟩ := Option.map_eq_some_iff.mp hrun
  obtain ⟨hls, hchan⟩ := Prod.mk.inj heq
  refine ⟨s, ⟨_, hs⟩, ?_⟩
  exact last_loop_takes_events ⟨_, hs⟩ (by rw [hls]; rfl) rfl (by rw [hchan]; decide)

/-! ### Loops that handle nothing -/

/-- A loop with no event in hand gets none, changes nothing and starts nothing. -/
theorem Wired.idle_loop (h : Wired s) {b : LoopAction} {loop : Loop AgentState AgentEvent}
    {sm : AgentMachine} (hl : s.loops[n]? = some l)
    (hstep : LoopStep some l.done s.sm l.loop b loop sm) (hnone : holds l.loop = none) :
    holds loop = none ∧ sm = s.sm ∧ spawned n l.loop b = [] := by
  have hlk := (h.wire n l hl).looked
  generalize l.loop = loop₀ at hstep hnone hlk
  cases hstep with
  | lookup => exact ⟨hnone, rfl, rfl⟩
  | apply =>
    obtain rfl : _ = none := hnone
    cases hlk _ _ rfl
  | _ => exact ⟨rfl, rfl, rfl⟩

/-- Only the last loop handles events. -/
def IdleOthers (s : System) : Prop :=
  ∀ n l, s.loops[n]? = some l → n ≠ s.number → holds l.loop = none

theorem idleOthers_init : IdleOthers init := by
  intro n l hl _
  obtain rfl : l = {} := by
    have := List.mem_of_getElem? hl
    simpa [init] using this
  rfl

theorem IdleOthers.frame (h : IdleOthers s) (hls : t.loops = s.loops) : IdleOthers t := by
  unfold IdleOthers number
  rw [hls]
  exact h

theorem IdleOthers.set (h : IdleOthers s) {l' : LoopState} (hls : t.loops = s.loops.set n l')
    (hl' : n ≠ s.number → holds l'.loop = none) : IdleOthers t := by
  intro m k hk hm
  rw [number, hls, List.length_set] at hm
  rw [hls] at hk
  by_cases hnm : n = m
  · subst hnm
    obtain ⟨hlt, rfl⟩ := List.getElem?_eq_some_iff.mp hk
    rw [List.getElem_set_self]
    exact hl' hm
  · rw [List.getElem?_set_ne hnm] at hk
    exact h m k hk hm

theorem IdleOthers.modify (h : IdleOthers s) {m : Nat}
    (hls : t.loops = s.loops.modify m fun l => { l with done := true }) : IdleOthers t := by
  intro n l' hn hne
  rw [number, hls, List.length_modify] at hne
  rw [hls, List.getElem?_modify] at hn
  obtain ⟨l, hl, rfl⟩ := Option.map_eq_some_iff.mp hn
  have hnone := h n l hl hne
  split
  · exact hnone
  · exact hnone

theorem IdleOthers.sent (h : IdleOthers s) (hwi : Wired s) {chan : Nat} {event : AgentEvent}
    (hsent : Sent s chan event t) : IdleOthers t := by
  cases hsent with
  | panic => exact h.frame rfl
  | drop => exact h
  | deliver hopen hl hwait =>
    exact h.set rfl fun hn => absurd (hwi.last_of_waiting hl hopen hwait) hn

/-- It stays so if no loop handles an event when the next one is started. -/
theorem idleOthers_step (hwi : Wired s) (h : IdleOthers s)
    (hg : Restarts s a → ∀ l ∈ s.loops, holds l.loop = none)
    (hstep : step env s a = some t) : IdleOthers t := by
  cases Step.of_step hstep with
  | refused => exact h
  | request | initStore | initRead | stopRemove | stopFail | stopReset | stopRead =>
    exact h.frame rfl
  | initSend _ hsent | report _ _ hsent =>
    refine IdleOthers.sent (h.frame ?_) (hwi.frame ?_ ?_ ?_) hsent <;> rfl
  | @perform i _ _ thread op _ _ _ _ hemi =>
    have haft : IdleOthers (s.after env i thread op) := h.frame rfl
    generalize (op.outcome env s.service s.files).event = event at hemi
    cases hemi with
    | nothing => exact haft
    | event hsent =>
      refine haft.sent ?_ hsent
      exact hwi.frame rfl rfl rfl
  | run _ hrun => cases hrun <;> exact h.frame rfl
  | @loop n l _ _ _ hl hloop =>
    exact h.set rfl fun hn => (hwi.idle_loop hl hloop (h n l hl hn)).1
  | cancel | stopComputation => exact h.modify rfl
  -- The loop that was the last is now one of the others: this is what the guard is for.
  | stopRestart hstop =>
    intro n l hl _
    obtain hmem | hmem := List.mem_append.mp (List.mem_of_getElem? hl)
    · exact hg ⟨rfl, hstop⟩ l hmem
    · rw [List.mem_singleton.mp hmem]
      rfl
  | stopSend _ hsent =>
    refine IdleOthers.sent ?_ ?_ hsent
    · exact h.frame rfl
    · exact hwi.phase rfl rfl nofun nofun (by simp)

end Wired

end System

end SecureBinding.Agent
