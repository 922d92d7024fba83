import SecureBinding.Lib.Fair

/-!
# Agent.StateMachine

The model of `agent/statemachine`: a state machine whose events go through a channel from
`SendEvent` to the loop of `Start`.

Every critical section of the machine's mutex is one atomic step, and so is every channel
operation. Design points:

* The event channel and the reset channel are made together and closed together, by
  `Reset`. `chan` numbers the pair in use; the pairs with a smaller number are closed.
* The channel is unbuffered and `SendEvent` does not wait, so an event is handed over only
  to a loop that waits in its `select` at that moment. A loop that has read the channels
  and has not come to its `select` does not wait yet.
* A receive from a closed channel gives the zero value of `Event`, which is nil. Nil is
  `none` here, also as an argument of `SendEvent`.
* A send to a closed channel panics, and ends the process.
-/

namespace SecureBinding.Agent.StateMachine

open Lib

/-! ### The machine -/

/-- `stateMachine`, without the actions, which only start goroutines. -/
structure Machine (S E : Type) where
  currentState : S
  transitions : S → Option E → Option S
  chan : Nat := 0

section Machine

variable {S E M : Type}

def Machine.addTransition [DecidableEq S] [DecidableEq E] (sm : Machine S E) (source : S)
    (event : Option E) (target : S) : Machine S E :=
  { sm with transitions := fun s e =>
      if s = source ∧ e = event then some target else sm.transitions s e }

def Machine.reset (sm : Machine S E) (initialState : S) : Machine S E :=
  { sm with currentState := initialState, chan := sm.chan + 1 }

/-! ### The loop of Start -/

/-- How a loop ended: `handleEvent` reported an invalid transition, or the context was
done. -/
inductive Ended (S M : Type)
  | invalid (currentState : S) (x : Option M)
  | done
  deriving Repr, DecidableEq

/-- Where a loop is. What it receives is of type `M`; `none` comes from a closed channel. -/
inductive Loop (S M : Type)
  | top
  /-- It has read the channels. -/
  | atSelect (chan : Nat)
  /-- It waits in its `select`. -/
  | waiting (chan : Nat)
  | received (x : Option M)
  /-- `handleEvent` has left its first critical section. -/
  | lookedUp (currentState : S) (x : Option M) (next : Option S)
  | ended (how : Ended S M)
  deriving Repr, DecidableEq

inductive LoopAction
  | readChans
  | wait
  | recvClosed
  | recvReset
  | ctxDone
  | lookup
  | conclude
  deriving Repr, DecidableEq

/-- The channels that a loop has read and not left yet. -/
def Loop.selects : Loop S M → Option Nat
  | .atSelect chan | .waiting chan => some chan
  | _ => none

/-- The loop can take an event from this channel. -/
def Loop.waitsOn (chan : Nat) : Loop S M → Bool
  | .waiting chan' => chan' == chan
  | _ => false

/-- A step of the loop of `Start`, if it is enabled: the loop and the machine after it. The
context is done or not, and `event` is what was sent. -/
def Loop.step (event : M → Option E) (done : Bool) (sm : Machine S E) (loop : Loop S M) :
    LoopAction → Option (Loop S M × Machine S E)
  | .readChans =>
    match loop with
    | .top => some (.atSelect sm.chan, sm)
    | _ => none
  | .wait =>
    match loop with
    | .atSelect chan =>
      if chan < sm.chan ∨ done = true then none else some (.waiting chan, sm)
    | _ => none
  | .recvClosed =>
    match loop.selects with
    | some chan => if chan < sm.chan then some (.received none, sm) else none
    | none => none
  | .recvReset =>
    match loop.selects with
    | some chan => if chan < sm.chan then some (.top, sm) else none
    | none => none
  | .ctxDone =>
    match loop.selects with
    | some _ => if done = true then some (.ended .done, sm) else none
    | none => none
  | .lookup =>
    match loop with
    | .received x =>
      some (.lookedUp sm.currentState x (sm.transitions sm.currentState (x.bind event)), sm)
    | _ => none
  | .conclude =>
    match loop with
    | .lookedUp _ _ (some next) => some (.top, { sm with currentState := next })
    | .lookedUp currentState x none => some (.ended (.invalid currentState x), sm)
    | _ => none

/-- The steps of a loop as a relation, with what is known before each. -/
inductive LoopStep (event : M → Option E) (done : Bool) (sm : Machine S E) :
    Loop S M → LoopAction → Loop S M → Machine S E → Prop
  | readChans : LoopStep event done sm .top .readChans (.atSelect sm.chan) sm
  | wait {chan : Nat} (hopen : ¬chan < sm.chan) (hdone : done = false) :
    LoopStep event done sm (.atSelect chan) .wait (.waiting chan) sm
  | recvClosed {loop : Loop S M} {chan : Nat} (hselects : loop.selects = some chan)
      (hclosed : chan < sm.chan) : LoopStep event done sm loop .recvClosed (.received none) sm
  | recvReset {loop : Loop S M} {chan : Nat} (hselects : loop.selects = some chan)
      (hclosed : chan < sm.chan) : LoopStep event done sm loop .recvReset .top sm
  | ctxDone {loop : Loop S M} {chan : Nat} (hselects : loop.selects = some chan)
      (hdone : done = true) : LoopStep event done sm loop .ctxDone (.ended .done) sm
  | lookup {x : Option M} :
    LoopStep event done sm (.received x) .lookup
      (.lookedUp sm.currentState x (sm.transitions sm.currentState (x.bind event))) sm
  | apply {currentState next : S} {x : Option M} :
    LoopStep event done sm (.lookedUp currentState x (some next)) .conclude .top
      { sm with currentState := next }
  | refuse {currentState : S} {x : Option M} :
    LoopStep event done sm (.lookedUp currentState x none) .conclude
      (.ended (.invalid currentState x)) sm

theorem LoopStep.of_step {event : M → Option E} {done : Bool} {sm sm' : Machine S E}
    {loop loop' : Loop S M} {a : LoopAction} (h : loop.step event done sm a = some (loop', sm')) :
    LoopStep event done sm loop a loop' sm' := by
  cases a with
  | readChans =>
    cases loop <;> cases h
    exact .readChans
  | wait =>
    cases loop <;> simp only [Loop.step, reduceCtorEq] at h
    split at h
    · cases h
    · rename_i hrdy
      cases h
      exact .wait (fun hc => hrdy (.inl hc)) (by simpa using fun hd => hrdy (.inr hd))
  | recvClosed =>
    cases hs : loop.selects <;>
      simp only [Loop.step, hs, reduceCtorEq, Option.ite_none_right_eq_some] at h
    obtain ⟨hcls, heq⟩ := h
    cases heq
    exact .recvClosed hs hcls
  | recvReset =>
    cases hs : loop.selects <;>
      simp only [Loop.step, hs, reduceCtorEq, Option.ite_none_right_eq_some] at h
    obtain ⟨hcls, heq⟩ := h
    cases heq
    exact .recvReset hs hcls
  | ctxDone =>
    cases hs : loop.selects <;>
      simp only [Loop.step, hs, reduceCtorEq, Option.ite_none_right_eq_some] at h
    obtain ⟨hdone, heq⟩ := h
    cases heq
    exact .ctxDone hs hdone
  | lookup =>
    cases loop <;> cases h
    exact .lookup
  | conclude =>
    cases loop with
    | lookedUp currentState x next =>
      cases next with
      | none =>
        cases h
        exact .refuse
      | some next =>
        cases h
        exact .apply
    | _ => cases h

end Machine

/-! ### Calls of SendEvent -/

/-- Where a call of `SendEvent` is; the number is that of the channel it has read. -/
inductive Sender
  | idle
  | holding (chan : Nat)
  | delivered (chan : Nat)
  /-- It took the `default` case. -/
  | dropped (chan : Nat)

structure Applied (S M : Type) where
  currentState : S
  x : Option M
  next : S

/-- A machine, its loop, and any number of calls of `SendEvent`. -/
structure State (S E ι : Type) where
  sm : Machine S E
  /-- `ctx.Done` is closed. -/
  done : Bool := false
  loop : Loop S ι := .top
  sender : ι → Sender := fun _ => .idle
  panicked : Bool := false
  /-- What the loop has handled, latest first. Read by no step. -/
  handled : List (Option ι) := []
  /-- The transitions since the last `Reset`, latest first. Read by no step. -/
  applied : List (Applied S ι) := []

/-- The atomic steps. `SendEvent` takes two. -/
inductive Action (S E ι : Type)
  | call (i : ι)
  | send (i : ι)
  | loop (a : LoopAction)
  | addTransition (source : S) (event : Option E) (target : S)
  | reset (initialState : S)
  | cancel

section System

variable {S E ι : Type}

/-- What is recorded when the loop leaves `handleEvent`. -/
def State.record (s : State S E ι) : State S E ι :=
  match s.loop with
  | .lookedUp currentState x (some next) =>
    { s with handled := x :: s.handled, applied := ⟨currentState, x, next⟩ :: s.applied }
  | .lookedUp _ x none => { s with handled := x :: s.handled }
  | _ => s

/-- The effect of a step in a process that runs, if the step is enabled. -/
def State.act [DecidableEq S] [DecidableEq E] [DecidableEq ι] (event : ι → Option E)
    (s : State S E ι) (a : Action S E ι) : Option (State S E ι) :=
  match a with
  | .call i =>
    match s.sender i with
    | .idle => some { s with sender := Function.update s.sender i (.holding s.sm.chan) }
    | _ => none
  | .send i =>
    match s.sender i with
    | .holding chan =>
      if chan < s.sm.chan then some { s with panicked := true }
      else if s.loop.waitsOn chan then
        some { s with
          loop := .received (some i), sender := Function.update s.sender i (.delivered chan) }
      else some { s with sender := Function.update s.sender i (.dropped chan) }
    | _ => none
  | .loop a =>
    (s.loop.step event s.done s.sm a).map fun (loop, sm) =>
      { (if a = .conclude then s.record else s) with loop, sm }
  | .addTransition source event target =>
    some { s with sm := s.sm.addTransition source event target }
  | .reset initialState => some { s with sm := s.sm.reset initialState, applied := [] }
  | .cancel => some { s with done := true }

/-- A step of the process. None is taken after a panic. -/
def step [DecidableEq S] [DecidableEq E] [DecidableEq ι] (event : ι → Option E) (s : State S E ι)
    (a : Action S E ι) : Option (State S E ι) :=
  if s.panicked then none else s.act event a

/-- A machine with its loop started and no event sent. -/
def init (sm : Machine S E) : State S E ι := { sm }

/-! ### What a step can do -/

variable [DecidableEq S] [DecidableEq E] [DecidableEq ι]

/-- The steps as a relation, with what is known before each. -/
inductive Step (event : ι → Option E) (s : State S E ι) : Action S E ι → State S E ι → Prop
  | call {i : ι} (hidle : s.sender i = .idle) :
    Step event s (.call i) { s with sender := Function.update s.sender i (.holding s.sm.chan) }
  | panic {i : ι} {chan : Nat} (hhold : s.sender i = .holding chan) (hclosed : chan < s.sm.chan) :
    Step event s (.send i) { s with panicked := true }
  | deliver {i : ι} {chan : Nat} (hhold : s.sender i = .holding chan) (hopen : ¬chan < s.sm.chan)
      (hwait : s.loop = .waiting chan) :
    Step event s (.send i)
      { s with
        loop := .received (some i), sender := Function.update s.sender i (.delivered chan) }
  | drop {i : ι} {chan : Nat} (hhold : s.sender i = .holding chan) (hopen : ¬chan < s.sm.chan)
      (hwait : s.loop ≠ .waiting chan) :
    Step event s (.send i) { s with sender := Function.update s.sender i (.dropped chan) }
  | readChans (hloop : s.loop = .top) :
    Step event s (.loop .readChans) { s with loop := .atSelect s.sm.chan }
  | wait {chan : Nat} (hloop : s.loop = .atSelect chan) (hopen : ¬chan < s.sm.chan)
      (hdone : s.done = false) :
    Step event s (.loop .wait) { s with loop := .waiting chan }
  | recvClosed {chan : Nat} (hloop : s.loop.selects = some chan) (hclosed : chan < s.sm.chan) :
    Step event s (.loop .recvClosed) { s with loop := .received none }
  | recvReset {chan : Nat} (hloop : s.loop.selects = some chan) (hclosed : chan < s.sm.chan) :
    Step event s (.loop .recvReset) { s with loop := .top }
  | ctxDone {chan : Nat} (hloop : s.loop.selects = some chan) (hdone : s.done = true) :
    Step event s (.loop .ctxDone) { s with loop := .ended .done }
  | lookup {x : Option ι} (hloop : s.loop = .received x) :
    Step event s (.loop .lookup)
      { s with loop := .lookedUp s.sm.currentState x
                 (s.sm.transitions s.sm.currentState (x.bind event)) }
  | apply {currentState next : S} {x : Option ι}
      (hloop : s.loop = .lookedUp currentState x (some next)) :
    Step event s (.loop .conclude)
      { s with
        loop := .top, sm := { s.sm with currentState := next }, handled := x :: s.handled
        applied := ⟨currentState, x, next⟩ :: s.applied }
  | refuse {currentState : S} {x : Option ι} (hloop : s.loop = .lookedUp currentState x none) :
    Step event s (.loop .conclude)
      { s with loop := .ended (.invalid currentState x), handled := x :: s.handled }
  | addTransition {source target : S} {e : Option E} :
    Step event s (.addTransition source e target)
      { s with sm := s.sm.addTransition source e target }
  | reset {initialState : S} :
    Step event s (.reset initialState) { s with sm := s.sm.reset initialState, applied := [] }
  | cancel : Step event s .cancel { s with done := true }

variable {event : ι → Option E} {s t : State S E ι} {a : Action S E ι} {b : LoopAction}

omit [DecidableEq S] [DecidableEq E] [DecidableEq ι] in
theorem waitsOn_eq_true_iff {chan : Nat} {loop : Loop S ι} :
    loop.waitsOn chan = true ↔ loop = .waiting chan := by
  cases loop <;> simp [Loop.waitsOn]

theorem step_eq_some_iff :
    step event s a = some t ↔ s.panicked = false ∧ s.act event a = some t := by
  cases hpan : s.panicked <;> simp [step, hpan]

theorem Step.of_send {i : ι} (h : s.act event (.send i) = some t) : Step event s (.send i) t := by
  simp only [State.act] at h
  split at h
  · rename_i chan hhold
    by_cases hcls : chan < s.sm.chan
    · rw [if_pos hcls] at h
      cases h
      exact .panic hhold hcls
    rw [if_neg hcls] at h
    by_cases hwait : s.loop = .waiting chan
    · rw [if_pos (waitsOn_eq_true_iff.mpr hwait)] at h
      cases h
      exact .deliver hhold hcls hwait
    · rw [if_neg (fun hw => hwait (waitsOn_eq_true_iff.mp hw))] at h
      cases h
      exact .drop hhold hcls hwait
  · cases h

theorem Step.of_loop (h : s.act event (.loop b) = some t) : Step event s (.loop b) t := by
  simp only [State.act, Option.map_eq_some_iff] at h
  obtain ⟨⟨loop, sm⟩, hloop, rfl⟩ := h
  have hstep := LoopStep.of_step hloop
  generalize hs : s.loop = loop₀ at hstep
  cases hstep with
  | readChans => exact .readChans hs
  | wait hopen hdone => exact .wait hs hopen hdone
  | recvClosed hsel hcls => exact .recvClosed (hs ▸ hsel) hcls
  | recvReset hsel hcls => exact .recvReset (hs ▸ hsel) hcls
  | ctxDone hsel hdone => exact .ctxDone (hs ▸ hsel) hdone
  | lookup => exact .lookup hs
  | apply =>
    simp only [State.record, hs]
    exact .apply hs
  | refuse =>
    simp only [State.record, hs]
    exact .refuse hs

theorem Step.of_step (h : step event s a = some t) : Step event s a t := by
  have h := (step_eq_some_iff.mp h).2
  cases a with
  | call i =>
    simp only [State.act] at h
    split at h
    · cases h
      exact .call ‹_›
    · cases h
  | send i => exact .of_send h
  | loop b => exact .of_loop h
  | addTransition source e target =>
    cases h
    exact .addTransition
  | reset initialState =>
    cases h
    exact .reset
  | cancel =>
    cases h
    exact .cancel

end System

end SecureBinding.Agent.StateMachine
