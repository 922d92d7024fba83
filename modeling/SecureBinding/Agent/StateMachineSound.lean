import SecureBinding.Agent.Lifecycle
import Mathlib.Data.List.Count

/-!
# Agent.StateMachineSound

What becomes of an event, and what `Reset` does to the loop and to calls of `SendEvent`.

An event is handled only if its send finds the loop waiting in its `select`; at any other
moment it is dropped without a trace (`handled_once_iff`). A `Reset` closes the channel that
a waiting loop waits on and that a call of `SendEvent` may hold, so it restarts the machine
cleanly only while the loop is between two rounds and no call holds the channel
(`reset_clean_iff`), and otherwise a call that holds the channel panics
(`reset_panics_iff`). All three rest on one invariant, `Inv`: every channel in use is an
old or the present one, and what the loop has received and handled is what was delivered.
-/

namespace SecureBinding.Agent.StateMachine

open Lib

/-- What the loop has received and not handled yet. -/
def Loop.inHand {S M : Type} : Loop S M → List (Option M)
  | .received x | .lookedUp _ x _ => [x]
  | _ => []

/-- The channel a call has read. -/
def Sender.chan : Sender → Option Nat
  | .idle => none
  | .holding chan | .delivered chan | .dropped chan => some chan

def Sender.isDelivered : Sender → Bool
  | .delivered _ => true
  | _ => false

section Invariant

variable {S E ι : Type} [DecidableEq ι]

/-- What holds in every reachable state. -/
structure Inv (s : State S E ι) : Prop where
  loop_le : ∀ chan, s.loop.selects = some chan → chan ≤ s.sm.chan
  sender_le : ∀ i chan, (s.sender i).chan = some chan → chan ≤ s.sm.chan
  count : ∀ i, (s.loop.inHand ++ s.handled).count (some i) = (s.sender i).isDelivered.toNat

theorem inv_init (sm : Machine S E) : Inv (init sm : State S E ι) where
  loop_le _ h := by cases h
  sender_le _ _ h := by cases h
  count _ := rfl

variable {s t : State S E ι}

/-- A call changes its place without being delivered. -/
theorem Inv.update_sender (h : Inv s) {i : ι} {x : Sender}
    (hchan : ∀ chan, x.chan = some chan → chan ≤ s.sm.chan)
    (hdel : x.isDelivered = (s.sender i).isDelivered) :
    Inv { s with sender := Function.update s.sender i x } where
  loop_le := h.loop_le
  sender_le := (Function.forall_update_iff s.sender
      (fun _ y => ∀ chan, y.chan = some chan → chan ≤ s.sm.chan)).mpr
      ⟨hchan, fun j _ => h.sender_le j⟩
  count := by
    refine (Function.forall_update_iff s.sender
      (fun j y => (s.loop.inHand ++ s.handled).count (some j) = y.isDelivered.toNat)).mpr
      ⟨?_, fun j _ => h.count j⟩
    rw [hdel]
    exact h.count i

theorem Inv.move (h : Inv s) {loop : Loop S ι} (hin : loop.inHand = s.loop.inHand)
    (hle : ∀ chan, loop.selects = some chan → chan ≤ s.sm.chan) : Inv { s with loop } where
  loop_le := hle
  sender_le := h.sender_le
  count i := by
    show (loop.inHand ++ s.handled).count (some i) = _
    rw [hin]
    exact h.count i

theorem Inv.deliver (h : Inv s) {i : ι} {chan : Nat} (hhold : s.sender i = .holding chan)
    (hwait : s.loop = .waiting chan) :
    Inv { s with
      loop := .received (some i), sender := Function.update s.sender i (.delivered chan) } where
  loop_le _ hc := by cases hc
  sender_le := by
    refine (Function.forall_update_iff s.sender
      (fun _ y => ∀ chan, y.chan = some chan → chan ≤ s.sm.chan)).mpr
      ⟨?_, fun j _ => h.sender_le j⟩
    intro c hc
    exact h.sender_le i c (by rw [hhold]; exact hc)
  count := by
    have hcnt : ∀ j, s.handled.count (some j) = (s.sender j).isDelivered.toNat := by
      intro j
      have hj := h.count j
      rwa [hwait] at hj
    refine (Function.forall_update_iff s.sender (fun j y =>
      ([some i] ++ s.handled).count (some j) = y.isDelivered.toNat)).mpr ⟨?_, ?_⟩
    · rw [List.singleton_append, List.count_cons_self, hcnt i, hhold]
      rfl
    · intro j hji
      rw [List.singleton_append,
        List.count_cons_of_ne (fun he => hji (Option.some.inj he).symm), hcnt j]

/-- Nothing was delivered on a channel that is still to be made. -/
theorem Inv.not_delivered (hinv : Inv s) (i : ι) : s.sender i ≠ .delivered (s.sm.chan + 1) := by
  intro hi
  exact absurd (hinv.sender_le i _ (by rw [hi]; rfl)) (Nat.not_succ_le_self _)

omit [DecidableEq ι] in
theorem inHand_of_selects {loop : Loop S ι} {chan : Nat} (h : loop.selects = some chan) :
    loop.inHand = [] := by
  cases loop <;> first | rfl | cases h

variable [DecidableEq S] [DecidableEq E] {event : ι → Option E} {a : Action S E ι}

theorem inv_step (h : Inv s) (hstep : step event s a = some t) : Inv t := by
  cases Step.of_step hstep with
  | call hidle =>
    refine h.update_sender (fun c hc => ?_) (by rw [hidle]; rfl)
    cases hc
    exact Nat.le_refl _
  | panic | addTransition | cancel => exact ⟨h.loop_le, h.sender_le, h.count⟩
  | deliver hhold hopen hwait => exact h.deliver hhold hwait
  | drop hhold hopen hwait =>
    exact h.update_sender (fun c hc => h.sender_le _ c (by rw [hhold]; exact hc))
      (by rw [hhold]; rfl)
  | readChans hloop =>
    refine h.move (by rw [hloop]; rfl) (fun c hc => ?_)
    cases hc
    exact Nat.le_refl _
  | wait hloop hopen hdone =>
    exact h.move (by rw [hloop]; rfl) (fun c hc => h.loop_le c (by rw [hloop]; exact hc))
  | recvClosed hloop hcls =>
    refine ⟨fun _ hc => (nomatch hc), h.sender_le, fun i => ?_⟩
    have hi := h.count i
    rw [inHand_of_selects hloop, List.nil_append] at hi
    -- What comes from a closed channel is no one's event.
    simpa [Loop.inHand] using hi
  | recvReset hloop hcls | ctxDone hloop hdone =>
    exact h.move (inHand_of_selects hloop).symm (fun c hc => by cases hc)
  | lookup hloop => exact h.move (by rw [hloop]; rfl) (fun c hc => by cases hc)
  | apply hloop | refuse hloop =>
    refine ⟨fun _ hc => (nomatch hc), h.sender_le, fun i => ?_⟩
    have hi := h.count i
    rwa [hloop] at hi
  | reset =>
    exact ⟨fun c hc => Nat.le_succ_of_le (h.loop_le c hc),
      fun i c hc => Nat.le_succ_of_le (h.sender_le i c hc), h.count⟩

theorem inv_of_reaches {sm : Machine S E} (h : Reaches (step event) (init sm) s) : Inv s :=
  invariant_of_reaches inv_step (inv_init sm) h

/-! ### What steps leave alone -/

theorem step_addTransition_of_mem {source target : S} {e : Option E} (hp : s.panicked = false)
    (h : s.sm.transitions source e = some target) :
    step event s (.addTransition source e target) = some s := by
  have hsm : s.sm.addTransition source e target = s.sm := by
    have htab : (s.sm.addTransition source e target).transitions = s.sm.transitions := by
      funext state x
      show (if state = source ∧ x = e then some target else s.sm.transitions state x) = _
      split
      · rename_i hsx
        rw [hsx.1, hsx.2, h]
      · rfl
    exact congrArg (fun transitions => { s.sm with transitions }) htab
  refine step_eq_some_iff.mpr ⟨hp, ?_⟩
  exact congrArg (fun sm => some { s with sm }) hsm

theorem sender_of_step {i : ι} (hidle : s.sender i ≠ .idle)
    (hhold : ∀ chan, s.sender i ≠ .holding chan) (hstep : step event s a = some t) :
    t.sender i = s.sender i := by
  cases Step.of_step hstep with
  | call hj => exact Function.update_of_ne (by rintro rfl; exact hidle hj) _ _
  | deliver hj | drop hj => exact Function.update_of_ne (by rintro rfl; exact hhold _ hj) _ _
  | _ => rfl

theorem count_handled_le_of_step {x : Option ι} (hstep : step event s a = some t) :
    s.handled.count x ≤ t.handled.count x := by
  cases Step.of_step hstep with
  | apply | refuse => exact List.count_le_count_cons
  | _ => exact Nat.le_refl _

/-- A step of the loop itself. -/
def IsLoop (a : Action S E ι) : Prop := ∃ b, a = .loop b

theorem loop_of_step (hwait : ∀ chan, s.loop ≠ .waiting chan) (hnot : ¬IsLoop a)
    (hstep : step event s a = some t) : t.loop = s.loop := by
  cases Step.of_step hstep with
  | call | panic | drop | addTransition | reset | cancel => rfl
  | deliver hhold hopen h => exact absurd h (hwait _)
  | _ => exact absurd ⟨_, rfl⟩ hnot

theorem loop_of_received {x : Option ι} {b : LoopAction} (hloop : s.loop = .received x)
    (hstep : step event s (.loop b) = some t) :
    ∃ currentState next, t.loop = .lookedUp currentState x next := by
  cases Step.of_step hstep with
  | lookup h =>
    obtain rfl : x = _ := Loop.received.inj (hloop.symm.trans h)
    exact ⟨_, _, rfl⟩
  | _ => simp_all [Loop.selects]

theorem handled_of_lookedUp {x : Option ι} {currentState : S} {next : Option S} {b : LoopAction}
    (hloop : s.loop = .lookedUp currentState x next)
    (hstep : step event s (.loop b) = some t) : t.handled = x :: s.handled := by
  cases Step.of_step hstep with
  | apply h | refuse h =>
    obtain rfl : x = _ := (Loop.lookedUp.inj (hloop.symm.trans h)).2.1
    rfl
  | _ => simp_all [Loop.selects]

end Invariant

/-! ### No event is lost? -/

section Delivery

variable {S E ι : Type} [DecidableEq S] [DecidableEq E] [DecidableEq ι] {event : ι → Option E}
  {sm : Machine S E} {r : Schedule (step (S := S) event)} {n : Nat} {i : ι}

theorem panicked_state (r : Schedule (step (S := S) event)) (n : Nat) : (r.state n).panicked = false :=
  (step_eq_some_iff.mp (r.next n)).1

theorem inv_state (h0 : r.state 0 = init sm) (n : Nat) : Inv (r.state n) :=
  Schedule.holds_from (fun m h => inv_step h (r.next m)) (Nat.zero_le n) (h0 ▸ inv_init sm)

/-- What the loop has received it looks up, and what it has looked up it handles. -/
theorem received_leadsTo_handled (hfair : r.WeaklyFair IsLoop) :
    r.LeadsTo (fun s => s.loop = .received (some i)) (fun s => 0 < s.handled.count (some i)) := by
  -- Nobody but the loop moves it on from either place, and its own step is enabled there.
  refine Schedule.LeadsTo.trans
    (q := fun s => ∃ currentState next, s.loop = .lookedUp currentState (some i) next) ?_ ?_
  · refine Schedule.leadsTo_of_weaklyFair hfair ?_ ?_ ?_
    · intro m hm hl
      exact (loop_of_step (by simp [hm]) hl (r.next m)).trans hm
    · intro m hm
      refine ⟨.loop .lookup, ⟨_, rfl⟩, ?_⟩
      simp [step, panicked_state, State.act, Loop.step, hm]
    · intro m hm hl
      obtain ⟨b, hb⟩ := hl
      exact loop_of_received hm (hb ▸ r.next m)
  · refine Schedule.leadsTo_of_weaklyFair hfair ?_ ?_ ?_
    · intro m hm hl
      obtain ⟨currentState, next, hm⟩ := hm
      exact ⟨currentState, next, (loop_of_step (by simp [hm]) hl (r.next m)).trans hm⟩
    · intro m hm
      obtain ⟨currentState, next, hm⟩ := hm
      refine ⟨.loop .conclude, ⟨_, rfl⟩, ?_⟩
      cases next <;> simp [step, panicked_state, State.act, Loop.step, hm]
    · intro m hm hl
      obtain ⟨currentState, next, hm⟩ := hm
      obtain ⟨b, hb⟩ := hl
      rw [handled_of_lookedUp hm (hb ▸ r.next m), List.count_cons_self]
      exact Nat.succ_pos _

/-- The event of a call that found the loop waiting is handled in the end. -/
theorem handled_of_waiting (hfair : r.WeaklyFair IsLoop) {chan : Nat}
    (hsend : r.action n = .send i) (hhold : (r.state n).sender i = .holding chan)
    (hwait : (r.state n).loop = .waiting chan) :
    ∃ m, n ≤ m ∧ 0 < (r.state m).handled.count (some i) := by
  -- The channel is open, for otherwise the send panics, and the schedule goes on.
  have hrec : (r.state (n + 1)).loop = .received (some i) := by
    have hstep := hsend ▸ r.next n
    have hpan := panicked_state r (n + 1)
    generalize r.state (n + 1) = t at hstep hpan
    cases Step.of_step hstep with
    | panic => cases hpan
    | deliver => rfl
    | drop hhold' hopen hnot =>
      obtain rfl := Sender.holding.inj (hhold.symm.trans hhold')
      exact absurd hwait hnot
  obtain ⟨m, hm, hcnt⟩ := received_leadsTo_handled hfair (n + 1) hrec
  exact ⟨m, Nat.le_of_succ_le hm, hcnt⟩

/-- Any other event is not, and no later step makes up for it. -/
theorem not_handled_of_not_waiting (h0 : r.state 0 = init sm) (hsend : r.action n = .send i)
    (hnot : ¬∃ chan, (r.state n).sender i = .holding chan ∧ (r.state n).loop = .waiting chan)
    {m : Nat} (hm : n < m) : (r.state m).handled.count (some i) = 0 := by
  have hdr : ∃ chan, (r.state (n + 1)).sender i = .dropped chan := by
    have hstep := hsend ▸ r.next n
    have hpan := panicked_state r (n + 1)
    generalize r.state (n + 1) = t at hstep hpan
    cases Step.of_step hstep with
    | panic => cases hpan
    | deliver hhold hopen hwait => exact absurd ⟨_, hhold, hwait⟩ hnot
    | drop => exact ⟨_, Function.update_self ..⟩
  obtain ⟨chan, hdr⟩ := hdr
  have hsty : (r.state m).sender i = .dropped chan := by
    refine Schedule.holds_from (r := r) (p := fun s => s.sender i = .dropped chan) ?_ hm hdr
    intro k hk
    exact (sender_of_step (by simp [hk]) (by simp [hk]) (r.next k)).trans hk
  -- What is handled or in hand is what was delivered, and a dropped event was not.
  have hcnt := (inv_state h0 m).count i
  rw [hsty, List.count_append] at hcnt
  exact Nat.eq_zero_of_add_eq_zero_left hcnt

end Delivery

/-! ### A run that fails as soon as it is started -/

/-- The agent's machine in `ReceivingData`, after a manifest with one dataset. -/
def receivingDataMachine : AgentMachine :=
  { addTransitions newMachine (initTransitions 1) with currentState := .receivingData }

/-- Call 0 is that of `Data`, and call 1 that of `runComputation`. -/
def runEvents : Fin 2 → Option AgentEvent
  | 0 => some .dataReceived
  | 1 => some .runFailed

/-- The agent enters `Running`, and its action sends `RunFailed` before the loop waits
again. -/
def runFailedEarly : List (Action AgentState AgentEvent (Fin 2)) :=
  [.loop .readChans, .loop .wait, .call 0, .send 0, .loop .lookup, .loop .conclude,
    .call 1, .send 1, .loop .readChans, .loop .wait]

/-- Where that ends. -/
def afterRunFailed : State AgentState AgentEvent (Fin 2) :=
  (run (step runEvents) (init receivingDataMachine) runFailedEarly).getD
    (init receivingDataMachine)

/-- The step that goes on for ever, and changes nothing. -/
def addRunFailed : Action AgentState AgentEvent (Fin 2) :=
  .addTransition .running (some .runFailed) .failed

theorem run_runFailedEarly :
    run (step runEvents) (init receivingDataMachine) runFailedEarly = some afterRunFailed := rfl

theorem step_addRunFailed : step runEvents afterRunFailed addRunFailed = some afterRunFailed :=
  step_addTransition_of_mem rfl rfl

/-- The run, and then nothing but the step that changes nothing. -/
def runFailedSchedule : Schedule (step (S := AgentState) runEvents) :=
  .ofRun run_runFailedEarly step_addRunFailed

theorem weaklyFair_runFailedSchedule : runFailedSchedule.WeaklyFair IsLoop := by
  refine Schedule.weaklyFair_ofRun run_runFailedEarly step_addRunFailed ?_
  intro h
  obtain ⟨a, ⟨b, rfl⟩, h⟩ := h
  -- The loop waits, and its context is not done.
  cases b <;> cases h

section Delivery

variable {S E ι : Type} [DecidableEq S] [DecidableEq E] [DecidableEq ι]

/-- In a schedule that is fair to the loop, the event of a call of `SendEvent` is handled
exactly once if and only if the loop waits in its `select`, on the channel that the call has
read, when the call comes to send. -/
theorem handled_once_iff (event : ι → Option E) (sm : Machine S E)
    (r : Schedule (step (S := S) event)) (h0 : r.state 0 = init sm) (hfair : r.WeaklyFair IsLoop)
    (n : Nat) (i : ι) (hsend : r.action n = .send i) :
    (∃ N, ∀ m, N ≤ m → (r.state m).handled.count (some i) = 1) ↔
      ∃ chan, (r.state n).sender i = .holding chan ∧ (r.state n).loop = .waiting chan := by
  refine ⟨fun h => ?_, fun h => ?_⟩
  · obtain ⟨N, hN⟩ := h
    by_cases hwait :
        ∃ chan, (r.state n).sender i = .holding chan ∧ (r.state n).loop = .waiting chan
    · exact hwait
    · have hzero := not_handled_of_not_waiting h0 hsend hwait
        (Nat.lt_of_lt_of_le (Nat.lt_succ_self n) (Nat.le_max_right N (n + 1)))
      rw [hN _ (Nat.le_max_left N (n + 1))] at hzero
      cases hzero
  · obtain ⟨chan, hhold, hwait⟩ := h
    obtain ⟨N, -, hN⟩ := handled_of_waiting hfair hsend hhold hwait
    refine ⟨N, fun m hm => ?_⟩
    have hpos : 0 < (r.state m).handled.count (some i) :=
      Schedule.holds_from (r := r) (p := fun s => 0 < s.handled.count (some i))
        (fun k hk => Nat.lt_of_lt_of_le hk (count_handled_le_of_step (r.next k))) hm hN
    have hcnt := (inv_state h0 m).count i
    rw [List.count_append] at hcnt
    have hle := Bool.toNat_le ((r.state m).sender i).isDelivered
    omega

theorem handled_once_dataReceived :
    ∃ N, ∀ m, N ≤ m → (runFailedSchedule.state m).handled.count (some 0) = 1 :=
  (handled_once_iff runEvents receivingDataMachine runFailedSchedule rfl
    weaklyFair_runFailedSchedule 3 0 rfl).mpr ⟨0, rfl, rfl⟩

/-- `RunFailed` is sent by the action of `Running`, and the agent stays in `Running`. -/
theorem runFailed_lost :
    runFailedSchedule.state 0 = init receivingDataMachine ∧ runFailedSchedule.WeaklyFair IsLoop ∧
      runFailedSchedule.action 7 = .send 1 ∧ runEvents 1 = some .runFailed ∧
      ∀ m, 7 ≤ m → (runFailedSchedule.state m).sm.currentState = .running ∧
        (runFailedSchedule.state m).handled.count (some 1) = 0 := by
  refine ⟨rfl, weaklyFair_runFailedSchedule, rfl, rfl, fun m hm => ?_⟩
  by_cases hend : 10 ≤ m
  · have hst : runFailedSchedule.state m = afterRunFailed :=
      Schedule.restState_of_length_le run_runFailedEarly step_addRunFailed hend
    rw [hst]
    exact ⟨rfl, rfl⟩
  · obtain rfl | rfl | rfl : m = 7 ∨ m = 8 ∨ m = 9 := by omega
    all_goals exact ⟨rfl, rfl⟩

end Delivery

/-! ### Reset and the calls that hold a channel -/

section Reset

variable {S E ι : Type}

/-- No call of `SendEvent` has read a channel without having sent. -/
def NoneHolding (s : State S E ι) : Prop := ∀ i chan, s.sender i ≠ .holding chan

def IsReset (a : Action S E ι) : Prop := ∃ initialState, a = .reset initialState

/-- Whoever holds a channel holds the present one. -/
structure Open (s : State S E ι) : Prop where
  not_panicked : s.panicked = false
  holding : ∀ i chan, s.sender i = .holding chan → chan = s.sm.chan

variable [DecidableEq ι] {s t u : State S E ι}

theorem Open.update (h : Open s) {i : ι} {x : Sender} {loop : Loop S ι}
    (hx : ∀ chan, x = .holding chan → chan = s.sm.chan) :
    Open { s with loop, sender := Function.update s.sender i x } where
  not_panicked := h.not_panicked
  holding := (Function.forall_update_iff s.sender
      (fun _ y => ∀ chan, y = .holding chan → chan = s.sm.chan)).mpr
      ⟨hx, fun j _ => h.holding j⟩

variable [DecidableEq S] [DecidableEq E] {event : ι → Option E} {a : Action S E ι}
  {initialState : S}

theorem open_step (h : Open s) (hg : IsReset a → NoneHolding s)
    (hstep : step event s a = some t) : Open t := by
  cases Step.of_step hstep with
  | call hidle => exact h.update (fun c hc => (Sender.holding.inj hc).symm)
  | panic hhold hcls =>
    rw [h.holding _ _ hhold] at hcls
    exact absurd hcls (Nat.lt_irrefl _)
  | deliver | drop => exact h.update (fun c hc => nomatch hc)
  | reset => exact ⟨h.not_panicked, fun i c hc => absurd hc (hg ⟨_, rfl⟩ i c)⟩
  | _ => exact ⟨h.not_panicked, h.holding⟩

theorem step_reset (h : step event s (.reset initialState) = some t) :
    s.panicked = false ∧ t = { s with sm := s.sm.reset initialState, applied := [] } := by
  have hpan := (step_eq_some_iff.mp h).1
  cases Step.of_step h
  exact ⟨hpan, rfl⟩

/-- A call that holds the channel at a `Reset` panics if it comes to send after it. -/
theorem panics_of_holding (hinv : Inv s) {i : ι} {chan : Nat} (hhold : s.sender i = .holding chan)
    (hrse : step event s (.reset initialState) = some u) :
    ∃ t, step event u (.send i) = some t ∧ t.panicked = true := by
  obtain ⟨hpan, rfl⟩ := step_reset hrse
  have hcls : chan < s.sm.chan + 1 := Nat.lt_succ_of_le (hinv.sender_le i chan (by rw [hhold]; rfl))
  refine ⟨{ s with sm := s.sm.reset initialState, applied := [], panicked := true },
    step_eq_some_iff.mpr ⟨hpan, ?_⟩, rfl⟩
  simp only [State.act, hhold]
  exact if_pos hcls

/-- No call panics in a run in which no call holds a channel at a `Reset`. And at a `Reset`
this is what counts: no call panics after it, unless for a later `Reset`, if and only if no
call holds the channel. -/
theorem never_panics_iff (event : ι → Option E) (sm : Machine S E) :
    (∀ (as : List (Action S E ι)) (t : State S E ι),
      Guarded (step event) (fun s a => IsReset a → NoneHolding s) (init sm) as →
        run (step event) (init sm) as = some t → t.panicked = false) ∧
      ∀ (s u : State S E ι) (initialState : S), Reaches (step event) (init sm) s →
        step event s (.reset initialState) = some u →
        ((∀ as t, Guarded (step event) (fun _ a => ¬IsReset a) u as →
            run (step event) u as = some t → t.panicked = false) ↔ NoneHolding s) := by
  refine ⟨?_, ?_⟩
  · intro as t hgd hrun
    have hinit : Open (init sm : State S E ι) := ⟨rfl, fun _ _ hc => nomatch hc⟩
    exact (invariant_of_run open_step hinit hgd hrun).not_panicked
  · intro s u initialState hs hrse
    have hinv := inv_of_reaches hs
    refine ⟨fun h => ?_, fun h => ?_⟩
    · -- A call that holds a channel at the reset panics if it sends right after it.
      intro i chan hhold
      obtain ⟨t, hsend, hpan⟩ := panics_of_holding hinv hhold hrse
      have := h [.send i] t ⟨fun hr => (nomatch hr), fun _ _ => trivial⟩
        (run_cons_eq_some_iff.mpr ⟨t, hsend, rfl⟩)
      rw [hpan] at this
      cases this
    · intro as t hgd hrun
      have hopen : Open u := by
        obtain ⟨hpan, rfl⟩ := step_reset hrse
        exact ⟨hpan, fun i c hc => absurd hc (h i c)⟩
      exact (invariant_of_run (fun hs hg => open_step hs (fun hr => absurd hr hg)) hopen hgd
        hrun).not_panicked

/-- The machine of the agent handles its first event. -/
def startHandled : List (Action AgentState AgentEvent Unit) :=
  [.loop .readChans, .loop .wait, .call (), .send (), .loop .lookup, .loop .conclude]

/-- No call is under way when the machine of the agent is reset after that event. -/
theorem never_panics_startHandled :
    ∃ s u, run (step fun _ : Unit => some .start) (init newMachine) startHandled = some s ∧
      s.handled = [some ()] ∧ step (fun _ => some .start) s (.reset .idle) = some u ∧
      ∀ as t, Guarded (step fun _ => some .start) (fun _ a => ¬IsReset a) u as →
        run (step fun _ : Unit => some .start) u as = some t → t.panicked = false := by
  refine ⟨_, _, rfl, rfl, rfl, ((never_panics_iff (fun _ : Unit => some .start) newMachine).2 _ _
    .idle ⟨startHandled, rfl⟩ rfl).mpr ?_⟩
  intro _ _ hc
  cases hc

/-- A call of `SendEvent` reads the channel, `Reset` closes it, and the call sends. -/
theorem sendEvent_panics :
    (run (step fun _ : Unit => some .start) (init newMachine)
      [.call (), .reset .idle, .send ()]).map (·.panicked) = some true := rfl

end Reset

/-! ### Reset and the loop -/

section Restart

variable {S E ι : Type}

/-- The transitions made, latest first, lead from the initial state to this one. -/
def Linked {M : Type} (initialState : S) : List (Applied S M) → S → Prop
  | [], currentState => currentState = initialState
  | a :: as, currentState => a.next = currentState ∧ Linked initialState as a.currentState

/-- The restart was clean so far, with `chan` the channel made by the `Reset`. -/
structure Clean (chan : Nat) (initialState : S) (s : State S E ι) : Prop where
  not_panicked : s.panicked = false
  linked : Linked initialState s.applied s.sm.currentState
  /-- No zero event and no event sent before was applied. -/
  sent : ∀ b ∈ s.applied, ∃ i, b.x = some i ∧ s.sender i = .delivered chan
  /-- If the loop ended, its context was done or an event sent since was not valid. -/
  running : ∀ how, s.loop = .ended how → how = .done ∨
    ∃ currentState i, how = .invalid currentState (some i) ∧ s.sender i = .delivered chan

/-- What is true after a clean `Reset`, until the next one. -/
structure Restarted (chan : Nat) (initialState : S) (s : State S E ι) : Prop
    extends Clean chan initialState s, Open s where
  chan_eq : s.sm.chan = chan
  selects : ∀ c, s.loop.selects = some c → c = chan
  inHand : ∀ x ∈ s.loop.inHand, ∃ i, x = some i ∧ s.sender i = .delivered chan
  lookedUp : ∀ currentState x next, s.loop = .lookedUp currentState x next →
    currentState = s.sm.currentState

variable {s t u : State S E ι} {initialState : S}

/-- Steps that make no transition: what is to be shown is about the loop. -/
theorem Restarted.move {chan : Nat} (h : Restarted chan initialState s) (hopen : Open t)
    (hkeep : ∀ i, s.sender i = .delivered chan → t.sender i = .delivered chan)
    (hsm : t.sm.chan = s.sm.chan ∧ t.sm.currentState = s.sm.currentState)
    (hapl : t.applied = s.applied)
    (hrun : ∀ how, t.loop = .ended how → how = .done ∨ s.loop = .ended how)
    (hsel : ∀ c, t.loop.selects = some c → c = chan)
    (hinHand : ∀ x ∈ t.loop.inHand, ∃ i, x = some i ∧ t.sender i = .delivered chan)
    (hlookedUp : ∀ currentState x next, t.loop = .lookedUp currentState x next →
      currentState = t.sm.currentState) : Restarted chan initialState t where
  not_panicked := hopen.not_panicked
  linked := by
    rw [hapl, hsm.2]
    exact h.linked
  sent b hb := by
    obtain ⟨i, hx, hi⟩ := h.sent b (hapl ▸ hb)
    exact ⟨i, hx, hkeep i hi⟩
  running how hhow := by
    obtain hdone | hhow := hrun how hhow
    · exact .inl hdone
    · obtain hdone | ⟨currentState, i, rfl, hi⟩ := h.running how hhow
      · exact .inl hdone
      · exact .inr ⟨currentState, i, rfl, hkeep i hi⟩
  holding := hopen.holding
  chan_eq := hsm.1.trans h.chan_eq
  selects := hsel
  inHand := hinHand
  lookedUp := hlookedUp

theorem Restarted.frame {chan : Nat} (h : Restarted chan initialState s) (hopen : Open t)
    (hkeep : ∀ i, s.sender i = .delivered chan → t.sender i = .delivered chan)
    (hsm : t.sm.chan = s.sm.chan ∧ t.sm.currentState = s.sm.currentState)
    (hapl : t.applied = s.applied) (hloop : t.loop = s.loop) :
    Restarted chan initialState t := by
  refine h.move hopen hkeep hsm hapl (fun how hhow => .inr (hloop ▸ hhow))
    (fun c hc => h.selects c (hloop ▸ hc)) ?_ ?_
  · intro x hx
    obtain ⟨i, hxi, hi⟩ := h.inHand x (hloop ▸ hx)
    exact ⟨i, hxi, hkeep i hi⟩
  · intro currentState x next hlk
    rw [hsm.2]
    exact h.lookedUp currentState x next (hloop ▸ hlk)

theorem Restarted.not_closed {chan c : Nat} (h : Restarted chan initialState s)
    (hloop : s.loop.selects = some c) : ¬c < s.sm.chan := by
  rw [h.selects c hloop, h.chan_eq]
  exact Nat.lt_irrefl _

variable [DecidableEq ι] [DecidableEq S] [DecidableEq E] {event : ι → Option E}
  {a : Action S E ι}

theorem restarted_step {chan : Nat} (h : Restarted chan initialState s) (hnot : ¬IsReset a)
    (hstep : step event s a = some t) : Restarted chan initialState t := by
  have hopen := open_step h.toOpen (fun hr => absurd hr hnot) hstep
  have hkeep : ∀ i, s.sender i = .delivered chan → t.sender i = .delivered chan :=
    fun i hi => (sender_of_step (by simp [hi]) (by simp [hi]) hstep).trans hi
  cases Step.of_step hstep with
  | call | drop | addTransition | cancel => exact h.frame hopen hkeep ⟨rfl, rfl⟩ rfl rfl
  | panic => cases hopen.not_panicked
  -- Calls hold the present channel, so what is delivered now is delivered on it.
  | deliver hhold hcls hwait =>
    refine h.move hopen hkeep ⟨rfl, rfl⟩ rfl (fun _ hc => nomatch hc) (fun _ hc => nomatch hc)
      (fun x hx => ?_) (fun _ _ _ hc => nomatch hc)
    obtain rfl := List.mem_singleton.mp hx
    refine ⟨_, rfl, ?_⟩
    rw [← h.chan_eq, ← h.holding _ _ hhold]
    exact Function.update_self ..
  | readChans hloop =>
    refine h.move hopen hkeep ⟨rfl, rfl⟩ rfl (fun _ hc => nomatch hc) (fun c hc => ?_)
      (fun _ hx => nomatch hx) (fun _ _ _ hc => nomatch hc)
    exact (Option.some.inj hc).symm.trans h.chan_eq
  | wait hloop hcls hdone =>
    refine h.move hopen hkeep ⟨rfl, rfl⟩ rfl (fun _ hc => nomatch hc) (fun c hc => ?_)
      (fun _ hx => nomatch hx) (fun _ _ _ hc => nomatch hc)
    exact h.selects c (by rw [hloop]; exact hc)
  -- The loop selects on the present channel, which is open.
  | recvClosed hloop hcls | recvReset hloop hcls => exact absurd hcls (h.not_closed hloop)
  | ctxDone hloop hdone =>
    exact h.move hopen hkeep ⟨rfl, rfl⟩ rfl (fun _ hc => .inl (Loop.ended.inj hc).symm)
      (fun _ hc => nomatch hc) (fun _ hx => nomatch hx) (fun _ _ _ hc => nomatch hc)
  | lookup hloop =>
    refine h.move hopen hkeep ⟨rfl, rfl⟩ rfl (fun _ hc => nomatch hc) (fun _ hc => nomatch hc)
      (fun x hx => h.inHand x (by rw [hloop]; exact hx)) (fun _ _ _ hc => ?_)
    exact (Loop.lookedUp.inj hc).1.symm
  -- The event in hand came after the restart, and the state has not changed since the lookup.
  | @apply currentState next x hloop =>
    have hx : ∃ i, x = some i ∧ s.sender i = .delivered chan :=
      h.inHand x (by rw [hloop]; exact List.mem_singleton_self x)
    have hlinked : Linked initialState s.applied currentState := by
      rw [h.lookedUp _ _ _ hloop]
      exact h.linked
    exact { not_panicked := hopen.not_panicked
            linked := ⟨rfl, hlinked⟩
            sent := List.forall_mem_cons.mpr ⟨hx, h.sent⟩
            running := fun _ hc => nomatch hc
            holding := hopen.holding
            chan_eq := h.chan_eq
            selects := fun _ hc => nomatch hc
            inHand := fun _ hc => nomatch hc
            lookedUp := fun _ _ _ hc => nomatch hc }
  | @refuse currentState x hloop =>
    obtain ⟨i, rfl, hi⟩ : ∃ i, x = some i ∧ s.sender i = .delivered chan :=
      h.inHand x (by rw [hloop]; exact List.mem_singleton_self x)
    exact { not_panicked := hopen.not_panicked
            linked := h.linked
            sent := h.sent
            running := fun how hc => .inr ⟨currentState, i, (Loop.ended.inj hc).symm, hi⟩
            holding := hopen.holding
            chan_eq := h.chan_eq
            selects := fun _ hc => nomatch hc
            inHand := fun _ hc => nomatch hc
            lookedUp := fun _ _ _ hc => nomatch hc }
  | reset => exact absurd ⟨_, rfl⟩ hnot

/-- Whatever happens from here until the next `Reset`, the restart is clean. -/
def StaysClean (event : ι → Option E) (chan : Nat) (initialState : S) (s : State S E ι) : Prop :=
  ∀ as t, Guarded (step event) (fun _ a => ¬IsReset a) s as → run (step event) s as = some t →
    Clean chan initialState t

theorem StaysClean.after {chan : Nat} (h : StaysClean event chan initialState s)
    (hnot : ¬IsReset a) (hstep : step event s a = some t) :
    StaysClean event chan initialState t := by
  intro as u hg hrun
  refine h (a :: as) u ⟨hnot, fun t' ht' => ?_⟩ (run_cons_eq_some_iff.mpr ⟨t, hstep, hrun⟩)
  obtain rfl := Option.some.inj (hstep.symm.trans ht')
  exact hg

omit [DecidableEq ι] [DecidableEq S] [DecidableEq E] in
theorem not_isReset_loop {b : LoopAction} : ¬IsReset (.loop b : Action S E ι) :=
  fun h => nomatch h

/-- The loop handles what it has looked up, so that must have been sent after the `Reset`. -/
theorem StaysClean.sent_of_lookedUp {chan : Nat} (h : StaysClean event chan initialState s)
    (hpan : s.panicked = false) {currentState : S} {x : Option ι} {next : Option S}
    (hloop : s.loop = .lookedUp currentState x next) :
    ∃ i, x = some i ∧ s.sender i = .delivered chan := by
  cases next with
  | some next =>
    have hstep : step event s (.loop .conclude) = some
        { s with
          loop := .top, sm := { s.sm with currentState := next }, handled := x :: s.handled
          applied := ⟨currentState, x, next⟩ :: s.applied } := by
      refine step_eq_some_iff.mpr ⟨hpan, ?_⟩
      simp [State.act, State.record, Loop.step, hloop]
    exact ((h.after not_isReset_loop hstep) [] _ trivial rfl).sent _ List.mem_cons_self
  | none =>
    have hstep : step event s (.loop .conclude) = some
        { s with loop := .ended (.invalid currentState x), handled := x :: s.handled } := by
      refine step_eq_some_iff.mpr ⟨hpan, ?_⟩
      simp [State.act, State.record, Loop.step, hloop]
    obtain hdone | ⟨_, i, hi, hsent⟩ :=
      ((h.after not_isReset_loop hstep) [] _ trivial rfl).running _ rfl
    · cases hdone
    · exact ⟨i, (Ended.invalid.inj hi).2, hsent⟩

theorem StaysClean.sent_of_received {chan : Nat} (h : StaysClean event chan initialState s)
    (hpan : s.panicked = false) {x : Option ι} (hloop : s.loop = .received x) :
    ∃ i, x = some i ∧ s.sender i = .delivered chan := by
  have hstep : step event s (.loop .lookup) = some
      { s with loop := .lookedUp s.sm.currentState x
                 (s.sm.transitions s.sm.currentState (x.bind event)) } := by
    refine step_eq_some_iff.mpr ⟨hpan, ?_⟩
    simp [State.act, Loop.step, hloop]
  exact (h.after not_isReset_loop hstep).sent_of_lookedUp hpan rfl

/-- A loop in its `select` can receive the zero event from a closed channel. -/
theorem StaysClean.not_closed {chan c : Nat} (h : StaysClean event chan initialState s)
    (hpan : s.panicked = false) (hloop : s.loop.selects = some c) : ¬c < s.sm.chan := by
  intro hcls
  have hstep : step event s (.loop .recvClosed) = some { s with loop := .received none } := by
    refine step_eq_some_iff.mpr ⟨hpan, ?_⟩
    simp [State.act, Loop.step, hloop, hcls]
  obtain ⟨i, hi, -⟩ := (h.after not_isReset_loop hstep).sent_of_received hpan rfl
  cases hi

/-- A `Reset` of a machine whose loop runs is a clean restart if and only if the loop is
between two rounds and no call of `SendEvent` holds the channel. -/
theorem reset_clean_iff (event : ι → Option E) (sm : Machine S E) (s u : State S E ι)
    (initialState : S) (hs : Reaches (step event) (init sm) s)
    (hrunning : ∀ how, s.loop ≠ .ended how) (hreset : step event s (.reset initialState) = some u) :
    StaysClean event u.sm.chan initialState u ↔ s.loop = .top ∧ NoneHolding s := by
  have hinv := inv_of_reaches hs
  refine ⟨fun h => ?_, fun h => ?_⟩
  · refine ⟨?_, ?_⟩
    · obtain ⟨hpan, rfl⟩ := step_reset hreset
      have hstale : ∀ {x : Option ι},
          ¬∃ i, x = some i ∧ s.sender i = .delivered (s.sm.chan + 1) := by
        intro x hx
        obtain ⟨i, -, hi⟩ := hx
        exact hinv.not_delivered i hi
      cases hloop : s.loop with
      | top => rfl
      | atSelect c | waiting c =>
        have hc : s.loop.selects = some c := by rw [hloop]; rfl
        exact absurd (Nat.lt_succ_of_le (hinv.loop_le c hc)) (h.not_closed hpan hc)
      | received x => exact absurd (h.sent_of_received hpan hloop) hstale
      | lookedUp currentState x next =>
        exact absurd (h.sent_of_lookedUp hpan hloop) hstale
      | ended how => exact absurd hloop (hrunning how)
    · intro i chan hhold
      obtain ⟨t, hsend, ht⟩ := panics_of_holding hinv hhold hreset
      have hclean := h [.send i] t ⟨fun hr => (nomatch hr), fun _ _ => trivial⟩
        (run_cons_eq_some_iff.mpr ⟨t, hsend, rfl⟩)
      rw [hclean.not_panicked] at ht
      cases ht
  · -- At the top nothing is selected or in hand, and no call holds the old channel.
    obtain ⟨htop, hnone⟩ := h
    obtain ⟨hpan, rfl⟩ := step_reset hreset
    have hstart : Restarted (s.sm.chan + 1) initialState
        { s with sm := s.sm.reset initialState, applied := [] } :=
      { not_panicked := hpan
        linked := rfl
        sent := fun _ hb => nomatch hb
        running := fun how hhow => absurd hhow (hrunning how)
        holding := fun i c hc => absurd hc (hnone i c)
        chan_eq := rfl
        selects := fun c hc => by simp [htop, Loop.selects] at hc
        inHand := fun x hx => by simp [htop, Loop.inHand] at hx
        lookedUp := fun _ _ _ hl => by simp [htop] at hl }
    intro as t hg hrun
    exact (invariant_of_run restarted_step hstart hg hrun).toClean

/-- The agent's machine when its loop has handled an event and not yet read the channels
again. -/
theorem reset_clean_startHandled :
    ∃ s u, run (step fun _ : Unit => some .start) (init newMachine) startHandled = some s ∧
      s.handled = [some ()] ∧ step (fun _ => some .start) s (.reset .idle) = some u ∧
      StaysClean (fun _ : Unit => some .start) u.sm.chan .idle u := by
  refine ⟨_, _, rfl, rfl, rfl, (reset_clean_iff (fun _ : Unit => some .start) newMachine _ _ .idle
    ⟨startHandled, rfl⟩ ?_ rfl).mpr ⟨rfl, ?_⟩⟩
  · intro _ hc
    cases hc
  · intro _ _ hc
    cases hc

/-- A loop that waits takes the zero event from the closed channel and ends; and a transition
looked up before the `Reset` is stored after it. -/
theorem reset_not_clean :
    (run (step fun _ : Unit => some .start) (init newMachine)
      [.loop .readChans, .loop .wait, .reset .idle, .loop .recvClosed, .loop .lookup,
        .loop .conclude]).map (·.loop) = some (.ended (.invalid .idle none)) ∧
      (run (step fun _ : Unit => some .start) (init newMachine)
        [.loop .readChans, .loop .wait, .call (), .send (), .loop .lookup, .reset .idle,
          .loop .conclude]).map (·.sm.currentState) = some .receivingManifest :=
  ⟨rfl, rfl⟩

end Restart

end SecureBinding.Agent.StateMachine
