import SecureBinding.Agent.Datasets

/-!
# Agent.System

The agent as a whole: the service, its files, its state machine with the loops of `Start`,
and the calls and goroutines that run at the same time.

Design points:

* What happens under the service's mutex, the `SendEvent` at its end included, is one step
  (`Op.outcome`). The loops cannot tell the difference: they read nothing that an operation
  writes, and no `Reset` comes in between, as `StopComputation` holds the mutex.
* `InitComputation` adds its two transitions one after the other, and a loop may look one up in
  between. That is one step too: a loop would have to handle an event of each transition to see
  the first without the second, and nobody can send them before the mutex is released.
* `StopComputation` holds the mutex for all of its steps; `stop` says what it does next. The
  other calls check the agent's state before they take the mutex, and `InitComputation` sends
  its event after it has released it, so that these are steps of their own.
* `runComputation` takes the mutex to store an error and to report, and for nothing else.
* `StopComputation` starts a loop of its own, with its own context. The loops are numbered,
  and `cancel` of the service belongs to the last one.
* Computations are numbered as the loops are: when a loop is started, the service has been
  cleared for the next computation. Goroutines carry the number of the loop that started them,
  and results and errors that of the goroutine that stored them. No step reads these numbers.
-/

namespace SecureBinding.Agent

open Go Lib
open StateMachine (Loop LoopAction LoopStep waitsOn_eq_true_iff)

/-! ### Calls and goroutines -/

/-- What a goroutine of `runComputation` does next. -/
inductive RunPhase
  | mkdirResults
  | readAlgo
  | callRunner (algo : Bytes)
  | zipResults
  | storeResult (results : Bytes)
  /-- It has failed. With `logs` it then logs the error that it finds in the service. -/
  | storeError (err : Err) (logs : Bool)
  | logError
  | removeResults
  | removeDatasets
  | removeAlgo
  | report

/-- A call of the service, or a goroutine that a loop has started for the action of a
state. -/
inductive Thread
  | finished
  /-- `InitComputation` has checked the agent's state. -/
  | initChecked (cmp : Computation)
  /-- It has released the mutex, and its deferred `SendEvent` is next. -/
  | initStored
  | initHolding (chan : Nat)
  /-- `Algo` has checked the agent's state, and waits for the mutex. -/
  | algo (c : AlgoCall)
  | data (c : DataCall)
  | result (currentState : AgentState) (index : Option Int)
  | downloadAlgorithm (owner : Nat)
  | downloadDatasets (owner : Nat)
  | run (owner : Nat) (phase : RunPhase)

/-- The computation that a goroutine was started for. -/
def Thread.owner : Thread → Option Nat
  | .downloadAlgorithm owner | .downloadDatasets owner | .run owner _ => some owner
  | _ => none

/-- The calls from outside. -/
inductive Request
  | initComputation (cmp : Computation)
  | algo (c : AlgoCall)
  | data (c : DataCall)
  | result (index : Option Int)

/-- The check that comes before the mutex is taken. -/
def Request.check (currentState : AgentState) : Request → Except Err Thread
  | .initComputation cmp =>
    if currentState ≠ .receivingManifest then .error .errStateNotReady else .ok (.initChecked cmp)
  | .algo c =>
    if currentState ≠ .receivingAlgorithm then .error .errStateNotReady else .ok (.algo c)
  | .data c => if currentState ≠ .receivingData then .error .errStateNotReady else .ok (.data c)
  | .result index =>
    if currentState ≠ .consumingResults ∧ currentState ≠ .complete ∧ currentState ≠ .failed then
      .error .errResultsNotReady
    else .ok (.result currentState index)

/-- The goroutine that is started when a state is entered. The other states publish only. -/
def action (owner : Nat) : AgentState → List Thread
  | .receivingAlgorithm => [.downloadAlgorithm owner]
  | .receivingData => [.downloadDatasets owner]
  | .running => [.run owner .mkdirResults]
  | _ => []

/-- What a step of a loop starts. -/
def spawned (owner : Nat) (loop : Loop AgentState AgentEvent) (a : LoopAction) : List Thread :=
  match a, loop with
  | .conclude, .lookedUp _ _ (some next) => action owner next
  | _, _ => []

/-- How the world answers the downloads of the actions. -/
structure World where
  algo : AlgoCall
  data : DataCall

/-- What a thread does under the mutex. -/
def Thread.op (world : World) : Thread → Option Op
  | .algo c => some (.algo c)
  | .data c => some (.data c)
  | .result currentState index => some (.result currentState index)
  | .downloadAlgorithm _ => some (.downloadAlgorithm world.algo)
  | .downloadDatasets _ => some (.downloadDatasets world.data)
  | _ => none

/-! ### The state -/

/-- A loop of `Start`, and if its context is done. -/
structure LoopState where
  loop : Loop AgentState AgentEvent := .top
  done : Bool := false
  deriving Repr, DecidableEq

/-- What `StopComputation` does next. -/
inductive StopPhase
  | removeDatasets
  | removeResults
  | removeAlgo
  | reset
  /-- The fields of the service are cleared, and a loop is started. -/
  | restart
  | readChan
  | send (chan : Nat)
  deriving Repr, DecidableEq

/-- It removes files next. -/
def StopPhase.Removes : StopPhase → Prop
  | .removeDatasets | .removeResults | .removeAlgo => True
  | _ => False

/-- A dataset that was accepted, and the data it was accepted for. -/
structure Placed where
  dataset : Dataset
  data : Bytes
  unpacked : Bool
  /-- The file that the data was written to, if it was not unpacked. -/
  path : Option GoString

structure System where
  sm : AgentMachine
  loops : List LoopState
  service : Service := {}
  files : Files := {}
  threads : List Thread := []
  /-- The call of `StopComputation` that holds the service's mutex. -/
  stop : Option StopPhase := none
  panicked : Bool := false
  /-- What the calls of `StopComputation` have returned, latest first. -/
  stopped : List (Option Err) := []
  /-- The computation that the result is of. This and the rest is read by no step. -/
  resultOf : Option Nat := none
  errorOf : Option Nat := none
  /-- The datasets of the manifest, since there is one. -/
  declared : Option (List Dataset) := none
  placed : List Placed := []

def System.number (s : System) : Nat := s.loops.length - 1

/-- How the system answers a step, and what is left of the datasets directory if its removal
fails. -/
structure Answer where
  value : Except GoString Bytes := .ok []
  left : Option Dir := none

/-- The steps. A sender's `receiver` is the loop that takes its event. -/
inductive Action
  | request (req : Request)
  | initStore (i : Nat)
  | initRead (i : Nat)
  | initSend (i : Nat) (receiver : Option Nat)
  | perform (i : Nat) (world : World) (receiver : Option Nat)
  | run (i : Nat) (answer : Answer)
  | report (i : Nat) (receiver : Option Nat)
  | loop (n : Nat) (a : LoopAction)
  /-- The context is cancelled that was passed to `New` or `StopComputation`. -/
  | cancel (n : Nat)
  | stopComputation
  | stop (answer : Answer)
  | stopSend (receiver : Option Nat)

namespace System

/-! ### The steps -/

/-- The send of `SendEvent`, on the channel that it has read. -/
def send (s : System) (chan : Nat) (event : AgentEvent) (receiver : Option Nat) : Option System :=
  if chan < s.sm.chan then some { s with panicked := true }
  else
    match receiver with
    | none => if s.loops.any (·.loop.waitsOn chan) then none else some s
    | some n =>
      match s.loops[n]? with
      | some l =>
        if l.loop.waitsOn chan then
          some { s with loops := s.loops.set n { l with loop := .received (some event) } }
        else none
      | none => none

/-- The file that a dataset is written to, if it is not unpacked. -/
def target (getwd : Except GoString GoString) (decompress : Bool) (filename : GoString) :
    Option GoString :=
  if decompress then none else (datasetFilePath getwd filename).toOption

/-- The name under which `Data` stores what it was offered. -/
def offeredName (s : Service) (c : DataCall) : GoString :=
  match s.firstRemote with
  | none => c.dataset.filename
  | some (d, _) => d.filename

/-- What becomes of a dataset that an operation accepts. -/
def place (s : Service) (op : Op) (x : Dataset × Bytes) : Placed :=
  match op with
  | .data c =>
    ⟨x.1, x.2, c.decompress, target c.getwd c.decompress (offeredName s c)⟩
  | .downloadDatasets c =>
    ⟨x.1, x.2, x.1.decompress, target c.getwd x.1.decompress x.1.filename⟩
  | _ => ⟨x.1, x.2, false, none⟩

/-- The state after an operation, before its event is sent. -/
def after (env : Env) (s : System) (i : Nat) (thread : Thread) (op : Op) : System :=
  let o := op.outcome env s.service s.files
  { s with
    service := o.service, files := o.files, threads := s.threads.set i .finished
    errorOf := if o.event = some .runFailed then thread.owner else s.errorOf
    placed := s.placed ++ o.consumed.map (place s.service op) }

/-- A goroutine of `runComputation` goes on. -/
def setRun (s : System) (i owner : Nat) (phase : RunPhase) : System :=
  { s with threads := s.threads.set i (.run owner phase) }

/-- The steps of `runComputation` up to its report. Missing or existing files are for the
answer to tell: it is no success then. -/
def runStep (s : System) (i owner : Nat) (answer : Answer) : RunPhase → Option System
  | .mkdirResults =>
    match answer.value with
    | .error err =>
      some (s.setRun i owner
        (.storeError (.other (lit "error creating results directory: " ++ err)) true))
    | .ok _ =>
      if s.files.results then none
      else some ({ s with files := { s.files with results := true } }.setRun i owner .readAlgo)
  | .readAlgo =>
    match answer.value, s.files.algo with
    | .error err, _ =>
      some (s.setRun i owner (.storeError (.other (lit "failed to read algo file: " ++ err)) true))
    | .ok _, some algo => some (s.setRun i owner (.callRunner algo))
    | .ok _, none => none
  | .callRunner _ =>
    match answer.value with
    | .error err => some (s.setRun i owner (.storeError (.other err) false))
    -- The error of the response; an empty one is none.
    | .ok [] => some (s.setRun i owner .zipResults)
    | .ok err => some (s.setRun i owner (.storeError (.other err) false))
  | .zipResults =>
    match answer.value with
    | .error err => some (s.setRun i owner (.storeError (.other err) false))
    | .ok results => some (s.setRun i owner (.storeResult results))
  | .storeResult results =>
    some ({ s with
      service := { s.service with result := results }
      resultOf := some owner }.setRun i owner .removeResults)
  | .storeError err logs =>
    match s.stop with
    | none =>
      some ({ s with
        service := { s.service with runError := some err }
        errorOf := some owner }.setRun i owner (if logs then .logError else .removeResults))
    | some _ => none
  | .logError =>
    -- `as.runError.Error()`, after the mutex was released.
    match s.service.runError with
    | none => some { s with panicked := true }
    | some _ => some (s.setRun i owner .removeResults)
  | .removeResults =>
    match answer.value with
    | .error _ => some (s.setRun i owner .removeDatasets)
    | .ok _ =>
      some ({ s with files := { s.files with results := false } }.setRun i owner .removeDatasets)
  | .removeDatasets =>
    match answer.value with
    | .error _ =>
      some ({ s with files := { s.files with datasets := answer.left } }.setRun i owner .removeAlgo)
    | .ok _ =>
      some ({ s with files := { s.files with datasets := none } }.setRun i owner .removeAlgo)
  | .removeAlgo =>
    match answer.value with
    | .error _ => some (s.setRun i owner .report)
    | .ok _ => some ({ s with files := { s.files with algo := none } }.setRun i owner .report)
  | .report => none

/-- The steps of `StopComputation` up to its `SendEvent`. -/
def stopStep (s : System) (answer : Answer) : StopPhase → Option System
  | .removeDatasets =>
    match answer.value with
    | .error err =>
      some { s with
        files := { s.files with datasets := answer.left }, stop := none
        stopped := some (.other (lit "error removing datasets directory: " ++ err)) :: s.stopped }
    | .ok _ =>
      some { s with files := { s.files with datasets := none }, stop := some .removeResults }
  | .removeResults =>
    match answer.value with
    | .error err =>
      some { s with
        stop := none
        stopped := some (.other (lit "error removing results directory: " ++ err)) :: s.stopped }
    | .ok _ => some { s with files := { s.files with results := false }, stop := some .removeAlgo }
  | .removeAlgo =>
    match answer.value with
    | .error _ => some { s with stop := some .reset }
    | .ok _ => some { s with files := { s.files with algo := none }, stop := some .reset }
  | .reset =>
    some { s with sm := s.sm.reset .idle, stop := some .restart }
  | .restart =>
    some { s with
      service := {}, loops := s.loops ++ [{}], stop := some .readChan
      resultOf := none, errorOf := none, declared := none, placed := [] }
  | .readChan => some { s with stop := some (.send s.sm.chan) }
  | .send _ => none

/-- The effect of a step in a process that runs, if the step is enabled. -/
def act (env : Env) (s : System) : Action → Option System
  | .request req =>
    match req.check s.sm.currentState with
    | .error _ => some s
    | .ok thread => some { s with threads := s.threads ++ [thread] }
  | .initStore i =>
    match s.threads[i]?, s.stop with
    | some (.initChecked cmp), none =>
      some { s with
        service := { s.service with computation := cmp }
        sm := addTransitions s.sm (initTransitions cmp.datasets.len)
        threads := s.threads.set i .initStored
        declared := some cmp.datasets.toList, placed := [] }
    | _, _ => none
  | .initRead i =>
    match s.threads[i]? with
    | some .initStored => some { s with threads := s.threads.set i (.initHolding s.sm.chan) }
    | _ => none
  | .initSend i receiver =>
    match s.threads[i]? with
    | some (.initHolding chan) =>
      { s with threads := s.threads.set i .finished }.send chan .manifestReceived receiver
    | _ => none
  | .perform i world receiver =>
    match s.threads[i]?, s.stop with
    | some thread, none =>
      match thread.op world with
      | none => none
      | some op =>
        match (op.outcome env s.service s.files).event with
        | none => some (s.after env i thread op)
        | some event => (s.after env i thread op).send s.sm.chan event receiver
    | _, _ => none
  | .run i answer =>
    match s.threads[i]? with
    | some (.run owner phase) => s.runStep i owner answer phase
    | _ => none
  | .report i receiver =>
    match s.threads[i]?, s.stop with
    | some (.run _ .report), none =>
      { s with threads := s.threads.set i .finished }.send s.sm.chan
        (if s.service.runError.isSome then .runFailed else .runComplete) receiver
    | _, _ => none
  | .loop n a =>
    match s.loops[n]? with
    | none => none
    | some l =>
      (l.loop.step some l.done s.sm a).map fun (loop, sm) =>
        { s with
          sm, loops := s.loops.set n { l with loop }
          threads := s.threads ++ spawned n l.loop a }
  | .cancel n => some { s with loops := s.loops.modify n fun l => { l with done := true } }
  | .stopComputation =>
    match s.stop with
    | none =>
      some { s with
        stop := some .removeDatasets
        loops := s.loops.modify (s.loops.length - 1) fun l => { l with done := true } }
    | some _ => none
  | .stop answer => s.stop.bind (s.stopStep answer)
  | .stopSend receiver =>
    match s.stop with
    | some (.send chan) =>
      { s with stop := none, stopped := none :: s.stopped }.send chan .start receiver
    | _ => none

/-- A step of the process. None is taken after a panic. -/
def step (env : Env) (s : System) (a : Action) : Option System :=
  if s.panicked then none else s.act env a

/-- The agent as `New` starts its loop. `New` ends as `StopComputation` does, and no call comes
before it returns. -/
def init : System := { sm := newMachine, loops := [{}], stop := some .readChan }

@[simp] theorem threads_init : init.threads = [] := rfl

@[simp] theorem declared_init : init.declared = none := rfl

/-! ### Runs that are referred to later -/

/-- Loop `n` comes to its `select`, takes the event that is sent, and handles it. -/
def exchange (n : Nat) (send : Action) : List Action :=
  [.loop n .readChans, .loop n .wait, send, .loop n .lookup, .loop n .conclude]

/-- The end of `New`. -/
def boot : List Action := .stop {} :: exchange 0 (.stopSend (some 0))

/-- A call of `InitComputation`, which is thread `i`. -/
def manifest (n i : Nat) (cmp : Computation) : List Action :=
  [.request (.initComputation cmp), .initStore i, .initRead i] ++ exchange n (.initSend i (some n))

/-- A call of `StopComputation`, which starts loop `n`. -/
def halt (n : Nat) : List Action :=
  [.stopComputation, .stop {}, .stop {}, .stop {}, .stop {}, .stop {}, .stop {}] ++
    exchange n (.stopSend (some n))

/-- A manifest without datasets. -/
def bare : Computation := { algorithm := { hash := [1] } }

/-- A world without images. -/
def offline : World := ⟨{ oci := noImages }, { oci := noImages }⟩

/-! ### What a step can do -/

/-- What a send can do. -/
inductive Sent (s : System) (chan : Nat) (event : AgentEvent) : System → Prop
  | panic (hclosed : chan < s.sm.chan) : Sent s chan event { s with panicked := true }
  | deliver {n : Nat} {l : LoopState} (hopen : ¬chan < s.sm.chan) (hl : s.loops[n]? = some l)
      (hwait : l.loop = .waiting chan) :
    Sent s chan event { s with loops := s.loops.set n { l with loop := .received (some event) } }
  | drop (hopen : ¬chan < s.sm.chan) (hwait : ∀ l ∈ s.loops, l.loop ≠ .waiting chan) :
    Sent s chan event s

/-- An operation sends its event, if it has one. -/
inductive Emitted (s : System) : Option AgentEvent → System → Prop
  | nothing : Emitted s none s
  | event {event : AgentEvent} {t : System} (h : Sent s s.sm.chan event t) :
    Emitted s (some event) t

/-- What a step of `runComputation` can do: it may store a result or an error, of its own
computation, and change the files; or it finds the error gone that it wants to log. -/
inductive RunStep (s : System) (i owner : Nat) (phase : RunPhase) : System → Prop
  | moves {next : RunPhase} {files : Files} :
    RunStep s i owner phase ({ s with files }.setRun i owner next)
  | result {results : Bytes} {next : RunPhase} :
    RunStep s i owner phase
      ({ s with
        service := { s.service with result := results }
        resultOf := some owner }.setRun i owner next)
  | error {err : Err} {next : RunPhase} (hlock : s.stop = none) :
    RunStep s i owner phase
      ({ s with
        service := { s.service with runError := some err }
        errorOf := some owner }.setRun i owner next)
  | panic (hphase : phase = .logError) (hgone : s.service.runError = none) :
    RunStep s i owner phase { s with panicked := true }

/-- The steps as a relation, with what is known before each. -/
inductive Step (env : Env) (s : System) : Action → System → Prop
  | refused {req : Request} : Step env s (.request req) s
  | request {req : Request} {thread : Thread} (h : req.check s.sm.currentState = .ok thread) :
    Step env s (.request req) { s with threads := s.threads ++ [thread] }
  | initStore {i : Nat} {cmp : Computation} (hi : s.threads[i]? = some (.initChecked cmp))
      (hlock : s.stop = none) :
    Step env s (.initStore i)
      { s with
        service := { s.service with computation := cmp }
        sm := addTransitions s.sm (initTransitions cmp.datasets.len)
        threads := s.threads.set i .initStored
        declared := some cmp.datasets.toList, placed := [] }
  | initRead {i : Nat} (hi : s.threads[i]? = some .initStored) :
    Step env s (.initRead i) { s with threads := s.threads.set i (.initHolding s.sm.chan) }
  | initSend {i chan : Nat} {receiver : Option Nat} {t : System}
      (hi : s.threads[i]? = some (.initHolding chan))
      (hsent : Sent { s with threads := s.threads.set i .finished } chan .manifestReceived t) :
    Step env s (.initSend i receiver) t
  | perform {i : Nat} {world : World} {receiver : Option Nat} {thread : Thread} {op : Op}
      {t : System} (hi : s.threads[i]? = some thread) (hlock : s.stop = none)
      (hop : thread.op world = some op)
      (hemitted : Emitted (s.after env i thread op) (op.outcome env s.service s.files).event t) :
    Step env s (.perform i world receiver) t
  | run {i owner : Nat} {answer : Answer} {phase : RunPhase} {t : System}
      (hi : s.threads[i]? = some (.run owner phase)) (hrun : RunStep s i owner phase t) :
    Step env s (.run i answer) t
  | report {i owner : Nat} {receiver : Option Nat} {t : System}
      (hi : s.threads[i]? = some (.run owner .report)) (hlock : s.stop = none)
      (hsent : Sent { s with threads := s.threads.set i .finished } s.sm.chan
        (if s.service.runError.isSome then .runFailed else .runComplete) t) :
    Step env s (.report i receiver) t
  | loop {n : Nat} {l : LoopState} {a : LoopAction} {loop : Loop AgentState AgentEvent}
      {sm : AgentMachine} (hl : s.loops[n]? = some l)
      (hstep : LoopStep some l.done s.sm l.loop a loop sm) :
    Step env s (.loop n a)
      { s with
        sm, loops := s.loops.set n { l with loop }
        threads := s.threads ++ spawned n l.loop a }
  | cancel {n : Nat} :
    Step env s (.cancel n) { s with loops := s.loops.modify n fun l => { l with done := true } }
  | stopComputation (hlock : s.stop = none) :
    Step env s .stopComputation
      { s with
        stop := some .removeDatasets
        loops := s.loops.modify (s.loops.length - 1) fun l => { l with done := true } }
  /-- It removes files. -/
  | stopRemove {answer : Answer} {phase next : StopPhase} {files : Files}
      (hstop : s.stop = some phase) (hphase : phase.Removes) (hnext : next.Removes ∨ next = .reset) :
    Step env s (.stop answer) { s with files, stop := some next }
  /-- It returns an error. -/
  | stopFail {answer : Answer} {phase : StopPhase} {files : Files} {err : Err}
      (hstop : s.stop = some phase) (hphase : phase = .removeDatasets ∨ phase = .removeResults)
      (herr : ∃ e, answer.value = .error e) :
    Step env s (.stop answer)
      { s with files, stop := none, stopped := some err :: s.stopped }
  | stopReset {answer : Answer} (hstop : s.stop = some .reset) :
    Step env s (.stop answer)
      { s with sm := s.sm.reset .idle, stop := some .restart }
  | stopRestart {answer : Answer} (hstop : s.stop = some .restart) :
    Step env s (.stop answer)
      { s with
        service := {}, loops := s.loops ++ [{}], stop := some .readChan
        resultOf := none, errorOf := none, declared := none, placed := [] }
  | stopRead {answer : Answer} (hstop : s.stop = some .readChan) :
    Step env s (.stop answer) { s with stop := some (.send s.sm.chan) }
  | stopSend {chan : Nat} {receiver : Option Nat} {t : System} (hstop : s.stop = some (.send chan))
      (hsent : Sent { s with stop := none, stopped := none :: s.stopped } chan .start t) :
    Step env s (.stopSend receiver) t

variable {env : Env} {s t : System} {a : Action}

theorem Sent.of_send {chan : Nat} {event : AgentEvent} {receiver : Option Nat}
    (h : s.send chan event receiver = some t) : Sent s chan event t := by
  unfold send at h
  by_cases hcls : chan < s.sm.chan
  · rw [if_pos hcls] at h
    cases h
    exact .panic hcls
  rw [if_neg hcls] at h
  cases receiver with
  | none =>
    simp only [Option.ite_none_left_eq_some, List.any_eq_true, not_exists, not_and] at h
    obtain ⟨hnone, heq⟩ := h
    cases heq
    exact .drop hcls fun l hl hwait => hnone l hl (waitsOn_eq_true_iff.mpr hwait)
  | some n =>
    simp only at h
    split at h
    · rename_i l hl
      simp only [Option.ite_none_right_eq_some] at h
      obtain ⟨hwait, heq⟩ := h
      cases heq
      exact .deliver hcls hl (waitsOn_eq_true_iff.mp hwait)
    · cases h

theorem RunStep.of_runStep {i owner : Nat} {answer : Answer} {phase : RunPhase}
    (h : s.runStep i owner answer phase = some t) : RunStep s i owner phase t := by
  -- Steps that fail leave the files as they are, which is a case of `moves`.
  have hsame : ∀ next, RunStep s i owner phase ({ s with files := s.files }.setRun i owner next) :=
    fun _ => .moves
  cases phase with simp only [runStep] at h
  | mkdirResults =>
    split at h
    · cases h
      exact hsame _
    · split at h
      · cases h
      · cases h
        exact .moves
  | readAlgo =>
    split at h
    · cases h
      exact hsame _
    · cases h
      exact hsame _
    · cases h
  | callRunner algo | zipResults =>
    split at h <;> cases h <;> exact hsame _
  | storeResult results =>
    cases h
    exact .result
  | storeError err logs =>
    split at h
    · cases h
      exact .error ‹_›
    · cases h
  | logError =>
    split at h
    · cases h
      exact .panic rfl ‹_›
    · cases h
      exact hsame _
  | removeResults | removeAlgo =>
    split at h <;> cases h
    · exact hsame _
    · exact .moves
  | removeDatasets =>
    split at h <;> cases h <;> exact .moves
  | report => cases h

theorem Step.of_stopStep {answer : Answer} {phase : StopPhase} (hstop : s.stop = some phase)
    (h : s.stopStep answer phase = some t) : Step env s (.stop answer) t := by
  cases phase with simp only [stopStep] at h
  | removeDatasets =>
    split at h <;> cases h
    · exact .stopFail hstop (.inl rfl) ⟨_, ‹_›⟩
    · exact .stopRemove hstop trivial (.inl trivial)
  | removeResults =>
    split at h <;> cases h
    · show Step env s (.stop answer) { s with files := s.files, stop := none, stopped := _ }
      exact .stopFail hstop (.inr rfl) ⟨_, ‹_›⟩
    · exact .stopRemove hstop trivial (.inl trivial)
  -- That the algorithm cannot be removed is not an error.
  | removeAlgo =>
    split at h <;> cases h
    · show Step env s (.stop answer) { s with files := s.files, stop := some .reset }
      exact .stopRemove hstop trivial (.inr rfl)
    · exact .stopRemove hstop trivial (.inr rfl)
  | reset =>
    cases h
    exact .stopReset hstop
  | restart =>
    cases h
    exact .stopRestart hstop
  | readChan =>
    cases h
    exact .stopRead hstop
  | send chan => cases h

theorem step_eq_some_iff : step env s a = some t ↔ s.panicked = false ∧ s.act env a = some t := by
  cases hpan : s.panicked <;> simp [step, hpan]

theorem Step.of_step (h : step env s a = some t) : Step env s a t := by
  have h := (step_eq_some_iff.mp h).2
  cases a with simp only [act] at h
  | request req =>
    split at h <;> cases h
    · exact .refused
    · exact .request ‹_›
  | initStore i =>
    split at h <;> cases h
    exact .initStore ‹_› ‹_›
  | initRead i =>
    split at h <;> cases h
    exact .initRead ‹_›
  | initSend i receiver =>
    split at h
    · exact .initSend ‹_› (.of_send h)
    · cases h
  | perform i world receiver =>
    split at h
    · rename_i thread hi hlock
      split at h
      · cases h
      rename_i op hop
      refine .perform hi hlock hop ?_
      split at h
      · rename_i hev
        cases h
        rw [hev]
        exact .nothing
      · rename_i event hev
        rw [hev]
        exact .event (.of_send h)
    · cases h
  | run i answer =>
    split at h
    · exact .run ‹_› (.of_runStep h)
    · cases h
  | report i receiver =>
    split at h
    · exact .report ‹_› ‹_› (.of_send h)
    · cases h
  | loop n a =>
    split at h
    · cases h
    · rename_i l hl
      rw [Option.map_eq_some_iff] at h
      obtain ⟨⟨loop, sm⟩, hloop, rfl⟩ := h
      exact .loop hl (.of_step hloop)
  | cancel n =>
    cases h
    exact .cancel
  | stopComputation =>
    split at h <;> cases h
    exact .stopComputation ‹_›
  | stop answer =>
    obtain ⟨phase, hstop, h⟩ := Option.bind_eq_some_iff.mp h
    exact .of_stopStep hstop h
  | stopSend receiver =>
    split at h
    · exact .stopSend ‹_› (.of_send h)
    · cases h

/-! ### What a send leaves alone -/

section Sent

variable {chan : Nat} {event : AgentEvent}

theorem Sent.sm_eq (h : Sent s chan event t) : t.sm = s.sm := by
  cases h <;> rfl

theorem Sent.threads_eq (h : Sent s chan event t) : t.threads = s.threads := by
  cases h <;> rfl

theorem Sent.stop_eq (h : Sent s chan event t) : t.stop = s.stop := by
  cases h <;> rfl

theorem Sent.number_eq (h : Sent s chan event t) : t.number = s.number := by
  cases h with
  | deliver => simp [number]
  | _ => rfl

end Sent

end System

end SecureBinding.Agent
