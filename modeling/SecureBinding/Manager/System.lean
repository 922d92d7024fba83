import Mathlib.Data.Finset.Card
import SecureBinding.Lib.Transition
import SecureBinding.Manager.Request

/-!
# Manager.System

The manager (`manager/service.go`, `manager/ttl.go`) as a system: any number of `CreateVM` calls,
of `RemoveVM` calls, of expiry callbacks and of `Shutdown` calls, step by step.

* `CreateVM` checks the limit under the mutex, prepares and starts its VM without it, checks the
  limit again and registers the VM under it, then sets the TTL and persists the record without
  it, and at last looks up its VM in the map, under the mutex.
* `RemoveVM` holds the mutex from beginning to end: it cancels the timer, looks up the VM, stops
  it, takes it out of the map and deletes the record.
* `Shutdown` cancels all timers and then, under the mutex, empties the map.
* The process of a VM may also end by itself.

An id is generated for each `CreateVM` call and never again, so the calls themselves serve as
ids. `Step` lists what a step can do; every invariant is proved by cases on it.
-/

namespace SecureBinding.Manager.System

open Go Lib

/-! ### The parties -/

/-- Who removes a VM: a caller of `RemoveVM`, or the callback of the timer of a VM. -/
inductive Remover (ι κ : Type)
  | caller (k : κ)
  | expiry (i : ι)
  deriving Repr, DecidableEq

/-- A `CreateVM` call, by the last thing that it has done. -/
inductive CreatePhase
  | idle
  | admitted
  | mounted
  /-- The lowest port is taken, and all ports are probed. -/
  | scanning
  | allocated
  | started
  /-- The limit was reached in the meantime. -/
  | rejected
  | registered
  | timed
  | saved
  | returned (err : Option CreateError)
  deriving Repr, DecidableEq

inductive RemoveError
  | notFound
  | stop
  deriving Repr, DecidableEq

/-- A `RemoveVM` call; it is `ready` before it has the mutex. -/
inductive RemovePhase
  | idle
  | ready
  | cancelled
  | deleting
  | returned (err : Option RemoveError)
  deriving Repr, DecidableEq

inductive ShutdownPhase
  | idle
  | cancelled
  | returned
  deriving Repr, DecidableEq

/-- The timer of a VM in the TTL manager. -/
inductive Timer
  | none
  | pending (deadline : Time)
  | fired
  deriving Repr, DecidableEq

/-- What comes of `Stop`; if it fails, the process may have ended or not. -/
inductive StopOutcome
  | stopped
  | failed (ended : Bool)

/-- The service and what it is asked: a request for each `CreateVM` call, an id for each
`RemoveVM` call. -/
structure Params (ι κ : Type) where
  maxVMs : Int
  portRangeMin : Nat
  portRangeMax : Nat
  parseDuration : GoString → Except GoString Duration
  request : ι → CreateReq
  target : κ → ι

/-- The VM that a remover is about. -/
def Params.targetOf {ι κ : Type} (p : Params ι κ) : Remover ι κ → ι
  | .caller k => p.target k
  | .expiry i => i

def Params.ttl {ι κ : Type} (p : Params ι κ) (i : ι) : Except CreateError (Option Duration) :=
  parseTTL p.parseDuration (p.request i)

structure State (ι κ ς : Type) where
  vms : Finset ι
  /-- The ids with a persisted record. -/
  persisted : Finset ι
  /-- The VMs whose process runs. -/
  running : Finset ι
  /-- The port that a call was given. -/
  port : ι → Option Nat
  timers : ι → Timer
  clock : Time
  /-- The removal that holds the mutex between two steps. -/
  holder : Option (Remover ι κ)
  create : ι → CreatePhase
  remove : Remover ι κ → RemovePhase
  shutdown : ς → ShutdownPhase
  /-- A call has dereferenced a missing entry of the map, which ends the program. -/
  crashed : Bool
  /-- For the statements: the VMs that a call has started, those on which it has invoked
  `Stop` itself, those that `Shutdown` has dropped, and when the TTL of a VM elapses. -/
  launched : Finset ι
  selfStopped : Finset ι
  dropped : Finset ι
  deadline : ι → Option Time

inductive Action (ι κ ς : Type)
  /-- `CreateVM`: the first critical section. -/
  | screen (i : ι)
  /-- `tempCertMount` and `tmpEnvironment`. -/
  | mount (i : ι) (err : Option CreateError)
  /-- `getFreePort`: the lowest port; another one; none. -/
  | probeMin (i : ι)
  | probe (i : ι) (port : Nat)
  | noPort (i : ι) (err : GoString)
  | start (i : ι) (err : Option GoString)
  /-- The second critical section. -/
  | register (i : ι)
  | stopRejected (i : ι) (outcome : StopOutcome)
  | setTTL (i : ι)
  | save (i : ι) (ok : Bool)
  /-- The third critical section. -/
  | transition (i : ι)
  /-- `RemoveVM`: it takes the mutex, cancels the timer and looks up the VM. -/
  | cancel (r : Remover ι κ)
  | stop (r : Remover ι κ) (outcome : StopOutcome)
  | deleteRecord (r : Remover ι κ) (ok : Bool)
  | fire (i : ι)
  | cancelAll (j : ς)
  | clear (j : ς)
  /-- The process of a VM ends by itself. -/
  | exit (i : ι)
  | tick (now : Time)

variable {ι κ ς : Type} [DecidableEq ι] [DecidableEq κ] [DecidableEq ς]

/-! ### Steps -/

/-- A port is free if no started VM is bound to it. -/
def Free (s : State ι κ ς) (port : Nat) : Prop := ∀ j ∈ s.running, s.port j ≠ some port

instance (s : State ι κ ς) (port : Nat) : Decidable (Free s port) :=
  inferInstanceAs (Decidable (∀ j ∈ s.running, s.port j ≠ some port))

def setCreate (s : State ι κ ς) (i : ι) (phase : CreatePhase) : State ι κ ς :=
  { s with create := Function.update s.create i phase }

/-- The phase after a step that may fail. -/
def phaseAfter (err : Option CreateError) (phase : CreatePhase) : CreatePhase :=
  match err with
  | none => phase
  | some err => .returned (some err)

/-- The VMs that run after `Stop` of one of them. -/
def runningAfter (running : Finset ι) (i : ι) : StopOutcome → Finset ι
  | .stopped | .failed true => running.erase i
  | .failed false => running

/-- `getFreePort` returns a port. -/
def allocate (s : State ι κ ς) (i : ι) (port : Nat) : State ι κ ς :=
  { s with
    create := Function.update s.create i .allocated
    port := Function.update s.port i (some port) }

/-- The effect of a step of the program, if it is enabled. -/
def act (p : Params ι κ) (s : State ι κ ς) : Action ι κ ς → Option (State ι κ ς)
  | .screen i =>
    if s.create i = .idle ∧ s.holder = none then
      match Manager.screen p.maxVMs s.vms.card (p.request i) with
      | .ok _ => some (setCreate s i .admitted)
      | .error err => some (setCreate s i (.returned (some err)))
    else none
  | .mount i err =>
    if s.create i = .admitted then some (setCreate s i (phaseAfter err .mounted)) else none
  | .probeMin i =>
    if s.create i = .mounted then
      if Free s p.portRangeMin then some (allocate s i p.portRangeMin)
      else some (setCreate s i .scanning)
    else none
  | .probe i port =>
    if s.create i = .scanning ∧ (p.portRangeMin ≤ port ∧ port ≤ p.portRangeMax) ∧ Free s port then
      some (allocate s i port)
    else none
  | .noPort i err =>
    if s.create i = .scanning then
      some (setCreate s i (.returned (some (.allocatePort err))))
    else none
  | .start i err =>
    if s.create i = .allocated then
      match err with
      | some err => some (setCreate s i (.returned (some (.other err))))
      | none =>
        some { s with
          create := Function.update s.create i .started
          running := insert i s.running
          launched := insert i s.launched }
    else none
  | .register i =>
    if s.create i = .started ∧ s.holder = none then
      if limitReached p.maxVMs s.vms.card then some (setCreate s i .rejected)
      else
        some { s with
          create := Function.update s.create i .registered
          vms := insert i s.vms }
    else none
  | .stopRejected i outcome =>
    if s.create i = .rejected then
      some { s with
        create := Function.update s.create i (.returned (some .maxVMsExceeded))
        running := runningAfter s.running i outcome
        selfStopped := insert i s.selfStopped }
    else none
  | .setTTL i =>
    if s.create i = .registered then
      match p.ttl i with
      | .error err => some (setCreate s i (.returned (some err)))
      | .ok none => some (setCreate s i .timed)
      | .ok (some ttl) =>
        some { s with
          create := Function.update s.create i .timed
          timers := Function.update s.timers i (.pending (s.clock + ttl))
          deadline := Function.update s.deadline i (some (s.clock + ttl)) }
    else none
  | .save i ok =>
    if s.create i = .timed then
      some { s with
        create := Function.update s.create i .saved
        persisted := if ok then insert i s.persisted else s.persisted }
    else none
  | .transition i =>
    if s.create i = .saved ∧ s.holder = none then
      if i ∈ s.vms then some (setCreate s i (.returned none)) else some { s with crashed := true }
    else none
  | .cancel r =>
    if s.remove r = .ready ∧ s.holder = none then
      if p.targetOf r ∈ s.vms then
        some { s with
          remove := Function.update s.remove r .cancelled
          timers := Function.update s.timers (p.targetOf r) .none
          holder := some r }
      else
        some { s with
          remove := Function.update s.remove r (.returned (some .notFound))
          timers := Function.update s.timers (p.targetOf r) .none }
    else none
  | .stop r outcome =>
    if s.remove r = .cancelled then
      match outcome with
      | .stopped =>
        some { s with
          remove := Function.update s.remove r .deleting
          running := runningAfter s.running (p.targetOf r) .stopped
          vms := s.vms.erase (p.targetOf r) }
      | .failed ended =>
        some { s with
          remove := Function.update s.remove r (.returned (some .stop))
          running := runningAfter s.running (p.targetOf r) (.failed ended)
          holder := none }
    else none
  | .deleteRecord r ok =>
    if s.remove r = .deleting then
      some { s with
        remove := Function.update s.remove r (.returned none)
        holder := none
        persisted := if ok then s.persisted.erase (p.targetOf r) else s.persisted }
    else none
  | .fire i =>
    match s.timers i with
    | .pending deadline =>
      if deadline ≤ s.clock ∧ s.remove (.expiry i) = .idle then
        some { s with
          remove := Function.update s.remove (.expiry i) .ready
          timers := Function.update s.timers i .fired }
      else none
    | _ => none
  | .cancelAll j =>
    if s.shutdown j = .idle then
      some { s with
        timers := fun _ => .none, shutdown := Function.update s.shutdown j .cancelled }
    else none
  | .clear j =>
    if s.shutdown j = .cancelled ∧ s.holder = none then
      some { s with
        vms := ∅
        dropped := s.dropped ∪ s.vms
        shutdown := Function.update s.shutdown j .returned }
    else none
  | .exit i => if i ∈ s.running then some { s with running := s.running.erase i } else none
  | .tick _ => none

/-- The effect of a step, if it is enabled. After a crash only time passes. -/
def step (p : Params ι κ) (s : State ι κ ς) : Action ι κ ς → Option (State ι κ ς)
  | .tick now => if s.clock ≤ now then some { s with clock := now } else none
  | a => if s.crashed then none else act p s a

/-! ### What a step can do -/

/-- The call has not started its VM. -/
def CreatePhase.IsEarly : CreatePhase → Prop
  | idle | admitted | mounted | scanning | allocated => True
  | _ => False

/-- A phase that a call can get to without having started its VM or having been given a port. -/
inductive CreatePhase.FollowsEarly : CreatePhase → Prop
  | admitted : FollowsEarly .admitted
  | mounted : FollowsEarly .mounted
  | scanning : FollowsEarly .scanning
  | failed (err : CreateError) : FollowsEarly (.returned (some err))

/-- An action of a call that has not started its VM. -/
def Action.IsEarly : Action ι κ ς → Prop
  | screen _ | mount _ _ | probeMin _ | noPort _ _ | start _ _ => True
  | _ => False

inductive Step (p : Params ι κ) (s : State ι κ ς) : Action ι κ ς → State ι κ ς → Prop
  | early {a : Action ι κ ς} {i : ι} {phase : CreatePhase} (isEarly : a.IsEarly)
      (h : (s.create i).IsEarly) (next : phase.FollowsEarly) : Step p s a (setCreate s i phase)
  | allocateMin {i : ι} (h : (s.create i).IsEarly) (free : Free s p.portRangeMin) :
      Step p s (.probeMin i) (allocate s i p.portRangeMin)
  | allocate {i : ι} {port : Nat} (h : (s.create i).IsEarly) (free : Free s port) :
      Step p s (.probe i port) (allocate s i port)
  | start {i : ι} (h : s.create i = .allocated) :
      Step p s (.start i none) { s with
        create := Function.update s.create i .started
        running := insert i s.running
        launched := insert i s.launched }
  | reject {i : ι} (h : s.create i = .started) :
      Step p s (.register i) (setCreate s i .rejected)
  | register {i : ι} (h : s.create i = .started)
      (room : limitReached p.maxVMs s.vms.card = false) :
      Step p s (.register i) { s with
        create := Function.update s.create i .registered
        vms := insert i s.vms }
  | stopRejected {i : ι} {outcome : StopOutcome} (h : s.create i = .rejected) :
      Step p s (.stopRejected i outcome)
        { s with
          create := Function.update s.create i (.returned (some .maxVMsExceeded))
          running := runningAfter s.running i outcome
          selfStopped := insert i s.selfStopped }
  | badTTL {i : ι} {err : CreateError} (h : s.create i = .registered) (ttl : p.ttl i = .error err) :
      Step p s (.setTTL i) (setCreate s i (.returned (some err)))
  | noTTL {i : ι} (h : s.create i = .registered) (ttl : p.ttl i = .ok none) :
      Step p s (.setTTL i) (setCreate s i .timed)
  | setTTL {i : ι} {d : Duration} (h : s.create i = .registered) (ttl : p.ttl i = .ok (some d)) :
      Step p s (.setTTL i) { s with
        create := Function.update s.create i .timed
        timers := Function.update s.timers i (.pending (s.clock + d))
        deadline := Function.update s.deadline i (some (s.clock + d)) }
  | save {i : ι} {ok : Bool} (h : s.create i = .timed) :
      Step p s (.save i ok) { s with
        create := Function.update s.create i .saved
        persisted := if ok then insert i s.persisted else s.persisted }
  | transition {i : ι} (h : s.create i = .saved) (found : i ∈ s.vms) :
      Step p s (.transition i) (setCreate s i (.returned none))
  | crash {i : ι} (h : s.create i = .saved) (missing : i ∉ s.vms) :
      Step p s (.transition i) { s with crashed := true }
  | notFound {r : Remover ι κ} (h : s.remove r = .ready) (missing : p.targetOf r ∉ s.vms) :
      Step p s (.cancel r) { s with
        remove := Function.update s.remove r (.returned (some .notFound))
        timers := Function.update s.timers (p.targetOf r) .none }
  | cancel {r : Remover ι κ} (h : s.remove r = .ready) (unlocked : s.holder = none)
      (found : p.targetOf r ∈ s.vms) :
      Step p s (.cancel r) { s with
        remove := Function.update s.remove r .cancelled
        timers := Function.update s.timers (p.targetOf r) .none
        holder := some r }
  | stopped {r : Remover ι κ} (h : s.remove r = .cancelled) :
      Step p s (.stop r .stopped) { s with
        remove := Function.update s.remove r .deleting
        running := runningAfter s.running (p.targetOf r) .stopped
        vms := s.vms.erase (p.targetOf r) }
  | stopFailed {r : Remover ι κ} {ended : Bool} (h : s.remove r = .cancelled) :
      Step p s (.stop r (.failed ended)) { s with
        remove := Function.update s.remove r (.returned (some .stop))
        running := runningAfter s.running (p.targetOf r) (.failed ended)
        holder := none }
  | deleteRecord {r : Remover ι κ} {ok : Bool} (h : s.remove r = .deleting) :
      Step p s (.deleteRecord r ok) { s with
        remove := Function.update s.remove r (.returned none)
        holder := none
        persisted := if ok then s.persisted.erase (p.targetOf r) else s.persisted }
  | fire {i : ι} {deadline : Time} (h : s.timers i = .pending deadline)
      (due : deadline ≤ s.clock) (idle : s.remove (.expiry i) = .idle) :
      Step p s (.fire i) { s with
        remove := Function.update s.remove (.expiry i) .ready
        timers := Function.update s.timers i .fired }
  | cancelAll {j : ς} (h : s.shutdown j = .idle) :
      Step p s (.cancelAll j) { s with
        timers := fun _ => .none, shutdown := Function.update s.shutdown j .cancelled }
  | clear {j : ς} (h : s.shutdown j = .cancelled) (unlocked : s.holder = none) :
      Step p s (.clear j) { s with
        vms := ∅
        dropped := s.dropped ∪ s.vms
        shutdown := Function.update s.shutdown j .returned }
  | exit {i : ι} : Step p s (.exit i) { s with running := s.running.erase i }
  | tick {now : Time} (h : s.clock ≤ now) : Step p s (.tick now) { s with clock := now }

variable {p : Params ι κ} {s s' : State ι κ ς} {a : Action ι κ ς}

theorem followsEarly_phaseAfter {err : Option CreateError} {phase : CreatePhase}
    (h : phase.FollowsEarly) : (phaseAfter err phase).FollowsEarly := by
  cases err with
  | none => exact h
  | some err => exact .failed err

theorem Step.of_act (h : act p s a = some s') : Step p s a s' := by
  cases a with simp only [act, Option.ite_none_right_eq_some, Option.some.injEq] at h
  | screen i =>
    obtain ⟨⟨hi, -⟩, h⟩ := h
    have hear : (s.create i).IsEarly := by rw [hi]; trivial
    split at h
    · cases h
      exact .early trivial hear .admitted
    · cases h
      exact .early trivial hear (.failed _)
  | mount i err =>
    obtain ⟨hi, rfl⟩ := h
    exact .early trivial (by rw [hi]; trivial) (followsEarly_phaseAfter .mounted)
  | probeMin i =>
    obtain ⟨hi, h⟩ := h
    have hear : (s.create i).IsEarly := by rw [hi]; trivial
    split at h
    · cases h
      exact .allocateMin hear ‹_›
    · cases h
      exact .early trivial hear .scanning
  | probe i port =>
    obtain ⟨⟨hi, -, hfree⟩, rfl⟩ := h
    exact .allocate (by rw [hi]; trivial) hfree
  | noPort i err =>
    obtain ⟨hi, rfl⟩ := h
    exact .early trivial (by rw [hi]; trivial) (.failed _)
  | start i err =>
    obtain ⟨hi, h⟩ := h
    cases err with
    | none =>
      cases h
      exact .start hi
    | some err =>
      cases h
      exact .early trivial (by rw [hi]; trivial) (.failed _)
  | register i =>
    obtain ⟨⟨hi, -⟩, h⟩ := h
    split at h
    · cases h
      exact .reject hi
    · cases h
      exact .register hi (Bool.eq_false_of_not_eq_true ‹_›)
  | stopRejected i outcome =>
    obtain ⟨hi, rfl⟩ := h
    exact .stopRejected hi
  | setTTL i =>
    obtain ⟨hi, h⟩ := h
    split at h
    · cases h
      exact .badTTL hi ‹_›
    · cases h
      exact .noTTL hi ‹_›
    · cases h
      exact .setTTL hi ‹_›
  | save i ok =>
    obtain ⟨hi, rfl⟩ := h
    exact .save hi
  | transition i =>
    obtain ⟨⟨hi, -⟩, h⟩ := h
    split at h
    · cases h
      exact .transition hi ‹_›
    · cases h
      exact .crash hi ‹_›
  | cancel r =>
    obtain ⟨⟨hr, hfree⟩, h⟩ := h
    split at h
    · cases h
      exact .cancel hr hfree ‹_›
    · cases h
      exact .notFound hr ‹_›
  | stop r outcome =>
    obtain ⟨hr, h⟩ := h
    cases outcome with
    | stopped =>
      cases h
      exact .stopped hr
    | failed ended =>
      cases h
      exact .stopFailed hr
  | deleteRecord r ok =>
    obtain ⟨hr, rfl⟩ := h
    exact .deleteRecord hr
  | fire i =>
    split at h
    · rw [enabled_iff] at h
      obtain ⟨⟨hdue, hidle⟩, rfl⟩ := h
      exact .fire ‹_› hdue hidle
    · cases h
  | cancelAll j =>
    obtain ⟨hj, rfl⟩ := h
    exact .cancelAll hj
  | clear j =>
    obtain ⟨⟨hj, hfree⟩, rfl⟩ := h
    exact .clear hj hfree
  | exit i =>
    obtain ⟨-, rfl⟩ := h
    exact .exit
  | tick now => cases h

theorem Step.of_step (h : step p s a = some s') : Step p s a s' := by
  unfold step at h
  split at h
  · rw [enabled_iff] at h
    obtain ⟨hle, rfl⟩ := h
    exact .tick hle
  · rw [Option.ite_none_left_eq_some] at h
    exact .of_act h.2

/-- A manager that has been set up: the VMs in the map are restored ones, with their records,
and nothing is under way. -/
structure Initial (s : State ι κ ς) : Prop where
  restored : ∀ i ∈ s.vms, s.create i = .returned none
  fresh : ∀ i ∉ s.vms, s.create i = .idle
  persisted : s.persisted = s.vms
  callers : ∀ k, s.remove (.caller k) = .ready
  expiries : ∀ i, s.remove (.expiry i) = .idle
  shutdown : ∀ j, s.shutdown j = .idle
  holder : s.holder = none
  timers : ∀ i, s.timers i = .none
  crashed : s.crashed = false
  launched : s.launched = ∅
  dropped : s.dropped = ∅
  deadline : ∀ i, s.deadline i = none

def emptyState : State ι κ ς where
  vms := ∅
  persisted := ∅
  running := ∅
  port _ := none
  timers _ := .none
  clock := 0
  holder := none
  create _ := .idle
  remove
    | .caller _ => .ready
    | .expiry _ => .idle
  shutdown _ := .idle
  crashed := false
  launched := ∅
  selfStopped := ∅
  dropped := ∅
  deadline _ := none

omit [DecidableEq ι] [DecidableEq κ] [DecidableEq ς] in
theorem initial_emptyState : Initial (emptyState : State ι κ ς) where
  restored i hi := absurd hi (Finset.notMem_empty i)
  fresh _ _ := rfl
  persisted := rfl
  callers _ := rfl
  expiries _ := rfl
  shutdown _ := rfl
  holder := rfl
  timers _ := rfl
  crashed := rfl
  launched := rfl
  dropped := rfl
  deadline _ := rfl

/-- Requests without parameters; every removal is about the VM `i`, and every TTL that is given
is ten nanoseconds. -/
def sampleParams (i : ι) (maxVMs : Int) (ttl : GoString) : Params ι κ where
  maxVMs
  portRangeMin := 6100
  portRangeMax := 6200
  parseDuration _ := .ok 10
  request _ := { ttl }
  target _ := i

/-- A VM is created, and its TTL elapses. -/
def createdThenExpired (i : ι) : List (Action ι κ ς) :=
  [.screen i, .mount i none, .probeMin i, .start i none, .register i, .setTTL i, .save i true,
    .transition i, .tick 10, .fire i, .cancel (.expiry i), .stop (.expiry i) .stopped,
    .deleteRecord (.expiry i) true]

/-! ### The mutex -/

/-- The removal is between two steps of its critical section. -/
def RemovePhase.Holds : RemovePhase → Prop
  | cancelled | deleting => True
  | _ => False

instance (phase : RemovePhase) : Decidable phase.Holds :=
  match phase with
  | .cancelled | .deleting => .isTrue trivial
  | .idle | .ready | .returned _ => .isFalse id

/-- The removals between two of their steps are those that hold the mutex, and their VM stays in
the map until it is stopped. -/
structure Locked (p : Params ι κ) (s : State ι κ ς) : Prop where
  held : ∀ r, s.holder = some r ↔ (s.remove r).Holds
  present : ∀ r, s.remove r = .cancelled → p.targetOf r ∈ s.vms

omit [DecidableEq ι] [DecidableEq κ] [DecidableEq ς] in
theorem Initial.locked (h : Initial s) : Locked p s := by
  have hph : ∀ r, ¬(s.remove r).Holds := by
    intro r
    cases r with
    | caller k => simp [h.callers k, RemovePhase.Holds]
    | expiry i => simp [h.expiries i, RemovePhase.Holds]
  refine ⟨fun r => ?_, fun r hr => ?_⟩
  · simp [h.holder, hph r]
  · exact absurd (by rw [hr]; trivial) (hph r)

omit [DecidableEq ς] in
theorem Locked.move {r : Remover ι κ} {phase : RemovePhase} (h : Locked p s)
    (hrm : s'.remove = Function.update s.remove r phase) (hself : s'.holder = some r ↔ phase.Holds)
    (hoths : ∀ r', r' ≠ r → (s'.holder = some r' ↔ s.holder = some r'))
    (hpresent : phase = .cancelled → p.targetOf r ∈ s'.vms)
    (hvms : ∀ r', r' ≠ r → s.remove r' = .cancelled → p.targetOf r' ∈ s'.vms) : Locked p s' := by
  refine ⟨fun r' => ?_, fun r' hr' => ?_⟩
  · by_cases heq : r' = r
    · subst heq
      rw [hself, hrm, Function.update_self]
    · rw [hoths r' heq, h.held, hrm, Function.update_of_ne heq]
  · rw [hrm] at hr'
    by_cases heq : r' = r
    · subst heq
      rw [Function.update_self] at hr'
      exact hpresent hr'
    · rw [Function.update_of_ne heq] at hr'
      exact hvms r' heq hr'

theorem Locked.step (h : Locked p s) (hstep : step p s a = some s') : Locked p s' := by
  -- Nobody but the holder is in the critical section.
  have hoth : ∀ {r r'}, s.holder = some r → r' ≠ r → s.holder ≠ some r' := by
    intro r r' hr hne hr'
    exact hne (Option.some.inj (hr'.symm.trans hr))
  cases Step.of_step hstep with
  | notFound hr missing =>
    refine h.move rfl ?_ (fun _ _ => Iff.rfl) (by simp) fun r' _ => h.present r'
    show s.holder = some _ ↔ False
    rw [h.held, hr]
    exact Iff.rfl
  | fire timer due idle =>
    refine h.move rfl ?_ (fun _ _ => Iff.rfl) (by simp) fun r' _ => h.present r'
    show s.holder = some _ ↔ False
    rw [h.held, idle]
    exact Iff.rfl
  | @cancel r hr unlocked found =>
    refine h.move rfl ⟨fun _ => trivial, fun _ => rfl⟩ (fun r' hr' => ?_) (fun _ => found)
      fun r' _ => h.present r'
    simp [unlocked, Ne.symm hr']
  -- The VM leaves the map only now, and no other removal counts on it.
  | @stopped r hr =>
    have hheld : s.holder = some r := (h.held r).mpr (by rw [hr]; trivial)
    refine h.move rfl ⟨fun _ => trivial, fun _ => hheld⟩ (fun _ _ => Iff.rfl) (by simp) ?_
    intro r' hne hr'
    exact absurd ((h.held r').mpr (by rw [hr']; trivial)) (hoth hheld hne)
  | @stopFailed r _ hr | @deleteRecord r _ hr =>
    have hheld : s.holder = some r := (h.held r).mpr (by rw [hr]; trivial)
    refine h.move rfl (by simp [RemovePhase.Holds]) (fun r' hne => ?_) (by simp)
      fun r' _ => h.present r'
    simp [hoth hheld hne]
  | register hi room =>
    exact ⟨h.held, fun r hr => Finset.mem_insert_of_mem (h.present r hr)⟩
  -- `Shutdown` empties the map while nobody is in the critical section.
  | clear hj unlocked =>
    refine ⟨h.held, fun r hr => ?_⟩
    have hheld : s.holder = some r := (h.held r).mpr (by rw [show s.remove r = _ from hr]; trivial)
    rw [unlocked] at hheld
    cases hheld
  | _ => exact ⟨h.held, h.present⟩

/-- In every run at most one removal, of a caller or of a TTL, is in its critical section, and
its VM stays in the map until it is stopped. -/
theorem removals_exclusive (hs : Initial s) (as : List (Action ι κ ς)) {t : State ι κ ς}
    (hrun : Lib.run (step p) s as = some t) :
    (∀ r r', (t.remove r).Holds → (t.remove r').Holds → r = r') ∧
      ∀ r, t.remove r = .cancelled → p.targetOf r ∈ t.vms := by
  have h : Locked p t := invariant_of_run (fun h _ => h.step) hs.locked guarded_true hrun
  refine ⟨fun r r' hr hr' => ?_, h.present⟩
  exact Option.some.inj (((h.held r).mpr hr).symm.trans ((h.held r').mpr hr'))

/-- Two VMs are created, and the TTL of the first elapses. Its removal has the mutex. -/
def firstExpires (i j : Fin 2) : List (Action (Fin 2) (Fin 1) (Fin 1)) :=
  (createdThenExpired i).take 8 ++
    [.screen j, .mount j none, .probeMin j, .probe j 6101, .start j none, .register j, .tick 10,
      .fire i, .cancel (.expiry i)]

/-- A caller who removes the second VM has to wait. -/
theorem removals_exclusive_sample : ∃ t,
    Lib.run (step (sampleParams 1 2 (lit "10ns"))) emptyState (firstExpires 0 1) = some t ∧
      t.remove (.expiry 0) = .cancelled ∧
      step (sampleParams 1 2 (lit "10ns")) t (.cancel (.caller 0)) = none ∧
      (∀ r r', (t.remove r).Holds → (t.remove r').Holds → r = r') ∧
      ∀ r, t.remove r = .cancelled →
        (sampleParams 1 2 (lit "10ns") : Params (Fin 2) (Fin 1)).targetOf r ∈ t.vms :=
  ⟨_, rfl, rfl, rfl, removals_exclusive initial_emptyState (firstExpires 0 1) rfl⟩

/-! ### The limit -/

/-- The invariant behind the limit. -/
structure Limited (p : Params ι κ) (s : State ι κ ς) : Prop where
  card_le : (s.vms.card : Int) ≤ p.maxVMs
  fresh : ∀ i, (s.create i).IsEarly → i ∉ s.launched
  stopped : ∀ i ∈ s.launched, s.create i = .returned (some .maxVMsExceeded) → i ∈ s.selfStopped

omit [DecidableEq ι] [DecidableEq κ] in
theorem ttl_ne_maxVMsExceeded {i : ι} : p.ttl i ≠ .error .maxVMsExceeded := by
  unfold Params.ttl parseTTL
  split
  · simp
  · split <;> simp

omit [DecidableEq κ] [DecidableEq ς] in
/-- One call moves on, and only its own VM may be launched or stopped in that step. -/
theorem Limited.move {i : ι} {phase : CreatePhase} (h : Limited p s)
    (hcr : s'.create = Function.update s.create i phase) (hcard : (s'.vms.card : Int) ≤ p.maxVMs)
    (hlau : ∀ j, j ≠ i → j ∈ s'.launched → j ∈ s.launched)
    (hself : s.selfStopped ⊆ s'.selfStopped) (hear : phase.IsEarly → i ∉ s'.launched)
    (hstp : phase = .returned (some .maxVMsExceeded) → i ∈ s'.launched →
      i ∈ s'.selfStopped) : Limited p s' := by
  refine ⟨hcard, fun j hj hl => ?_, fun j hj hph => ?_⟩
  · rw [hcr] at hj
    -- The call that moves is judged by its new phase, the others by the old one.
    by_cases hji : j = i
    · subst hji
      rw [Function.update_self] at hj
      exact hear hj hl
    · rw [Function.update_of_ne hji] at hj
      exact h.fresh j hj (hlau j hji hl)
  · rw [hcr] at hph
    by_cases hji : j = i
    · subst hji
      rw [Function.update_self] at hph
      exact hstp hph hj
    · rw [Function.update_of_ne hji] at hph
      exact hself (h.stopped j (hlau j hji hj) hph)

theorem card_insert_le_of_room {i : ι} {vms : Finset ι} {maxVMs : Int} (hmax : 0 < maxVMs)
    (room : limitReached maxVMs vms.card = false) : ((insert i vms).card : Int) ≤ maxVMs := by
  have hlt : ¬maxVMs ≤ vms.card := by simpa [limitReached, hmax] using room
  have hle := Finset.card_insert_le i vms
  omega

theorem Limited.step (hmax : 0 < p.maxVMs) (h : Limited p s) (hstep : step p s a = some s') :
    Limited p s' := by
  have hlau : ∀ {i j : ι}, j ≠ i → j ∈ s.launched → j ∈ s.launched := fun _ hj => hj
  have hself := Finset.Subset.refl s.selfStopped
  cases Step.of_step hstep with
  | early _ hi next =>
    exact h.move rfl h.card_le (fun _ => hlau) hself (fun _ => h.fresh _ hi)
      fun _ hl => absurd hl (h.fresh _ hi)
  | allocateMin hi free | allocate hi free =>
    exact h.move rfl h.card_le (fun _ => hlau) hself (fun _ => h.fresh _ hi) (by simp)
  | start hi =>
    refine h.move rfl h.card_le (fun j hj hl => ?_) hself False.elim (by simp)
    exact Finset.mem_of_mem_insert_of_ne hl hj
  | reject hi | noTTL hi ttl | setTTL hi ttl | save hi | transition hi found =>
    exact h.move rfl h.card_le (fun _ => hlau) hself False.elim (by simp)
  | register hi room =>
    exact h.move rfl (card_insert_le_of_room hmax room) (fun _ => hlau) hself False.elim
      (by simp)
  | stopRejected hi =>
    exact h.move rfl h.card_le (fun _ => hlau) (Finset.subset_insert _ _) False.elim
      fun _ _ => Finset.mem_insert_self _ _
  | badTTL hi ttl =>
    refine h.move rfl h.card_le (fun _ => hlau) hself False.elim fun herr => ?_
    obtain rfl : _ = CreateError.maxVMsExceeded := by simpa using herr
    exact absurd ttl ttl_ne_maxVMsExceeded
  | @stopped r hr =>
    have hle := Finset.card_erase_le (s := s.vms) (a := p.targetOf r)
    have hcard := h.card_le
    exact ⟨by show ((s.vms.erase (p.targetOf r)).card : Int) ≤ p.maxVMs; omega, h.fresh, h.stopped⟩
  | clear hj unlocked => exact ⟨by simpa using hmax.le, h.fresh, h.stopped⟩
  | crash | notFound | cancel | stopFailed | deleteRecord | fire | cancelAll | exit | tick =>
    exact ⟨h.card_le, h.fresh, h.stopped⟩

/-- There are never more VMs than allowed, and a call that finds no room for the VM that it has
started invokes `Stop` on it before it returns. -/
theorem vms_card_le_and_stopped (hmax : 0 < p.maxVMs) (hs : Initial s)
    (hcard : (s.vms.card : Int) ≤ p.maxVMs) {as : List (Action ι κ ς)} {t : State ι κ ς}
    (hrun : Lib.run (step p) s as = some t) :
    (t.vms.card : Int) ≤ p.maxVMs ∧
      ∀ i ∈ t.launched, t.create i = .returned (some .maxVMsExceeded) → i ∈ t.selfStopped := by
  have hinit : Limited p s := ⟨hcard, by simp [hs.launched], by simp [hs.launched]⟩
  have h : Limited p t := invariant_of_run (fun h _ => h.step hmax) hinit guarded_true hrun
  exact ⟨h.card_le, h.stopped⟩

/-- Two calls that pass the first check of the limit; the second one then finds no room. -/
def tooMany (i j : ι) : List (Action ι κ ς) :=
  [.screen i, .screen j, .mount i none, .mount j none, .probeMin i, .start i none, .probeMin j,
    .probe j 6101, .start j none, .register i, .register j, .stopRejected j .stopped]

theorem vms_card_le_and_stopped_sample : ∃ t : State (Fin 2) (Fin 1) (Fin 1),
    Lib.run (step (sampleParams 0 1 [])) emptyState (tooMany 0 1) = some t ∧
      (t.vms.card : Int) ≤ 1 ∧
      ∀ i ∈ t.launched, t.create i = .returned (some .maxVMsExceeded) → i ∈ t.selfStopped := by
  have hsome : (Lib.run (step (sampleParams 0 1 []))
      (emptyState : State (Fin 2) (Fin 1) (Fin 1)) (tooMany 0 1)).isSome = true := by decide
  obtain ⟨t, hrun⟩ := Option.isSome_iff_exists.mp hsome
  exact ⟨t, hrun, vms_card_le_and_stopped (by decide) initial_emptyState (by decide) hrun⟩

end SecureBinding.Manager.System
