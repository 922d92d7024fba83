import SecureBinding.Agent.StateMachine

/-!
# Agent.Lifecycle

The states and events of the agent, and the state machine that `New` and `InitComputation`
put together from them.
-/

namespace SecureBinding.Agent

open StateMachine

inductive AgentState
  | idle
  | receivingManifest
  | receivingAlgorithm
  | receivingData
  | running
  | consumingResults
  | complete
  | failed
  deriving Repr, DecidableEq

inductive AgentEvent
  | start
  | manifestReceived
  | algorithmReceived
  | dataReceived
  | runComplete
  | resultsConsumed
  | runFailed
  deriving Repr, DecidableEq

/-- `statemachine.Transition` of the agent. -/
structure Transition where
  source : AgentState
  event : AgentEvent
  target : AgentState

abbrev AgentMachine := Machine AgentState AgentEvent

/-- The calls of `AddTransition` for a list of transitions, in their order. -/
def addTransitions (sm : AgentMachine) (transitions : List Transition) : AgentMachine :=
  transitions.foldl (fun sm t => sm.addTransition t.source (some t.event) t.target) sm

/-- The transitions that `New` adds. -/
def newTransitions : List Transition :=
  [⟨.idle, .start, .receivingManifest⟩,
    ⟨.receivingManifest, .manifestReceived, .receivingAlgorithm⟩,
    ⟨.receivingAlgorithm, .runFailed, .failed⟩,
    ⟨.receivingData, .runFailed, .failed⟩,
    ⟨.running, .runComplete, .consumingResults⟩,
    ⟨.running, .runFailed, .failed⟩,
    ⟨.consumingResults, .resultsConsumed, .complete⟩]

/-- The transitions that `InitComputation` adds, for a manifest with this many datasets. -/
def initTransitions (datasets : Nat) : List Transition :=
  if datasets = 0 then [⟨.receivingAlgorithm, .algorithmReceived, .running⟩]
  else
    [⟨.receivingAlgorithm, .algorithmReceived, .receivingData⟩,
      ⟨.receivingData, .dataReceived, .running⟩]

/-- The state machine of `New`, before its loop starts. -/
def newMachine : AgentMachine :=
  addTransitions { currentState := .idle, transitions := fun _ _ => none } newTransitions

/-! ### The table -/

section Table

variable {sm : AgentMachine} {transitions : List Transition}

@[simp] theorem currentState_addTransitions :
    (addTransitions sm transitions).currentState = sm.currentState := by
  induction transitions generalizing sm with
  | nil => rfl
  | cons t transitions ih => exact ih

@[simp] theorem chan_addTransitions : (addTransitions sm transitions).chan = sm.chan := by
  induction transitions generalizing sm with
  | nil => rfl
  | cons t transitions ih => exact ih

theorem transitions_addTransitions_ne_none {currentState : AgentState} {event : Option AgentEvent}
    (h : sm.transitions currentState event ≠ none) :
    (addTransitions sm transitions).transitions currentState event ≠ none := by
  induction transitions generalizing sm with
  | nil => exact h
  | cons t transitions ih =>
    refine ih ?_
    show (if _ then some t.target else sm.transitions currentState event) ≠ none
    split
    · simp
    · exact h

/-- The table, but for the two transitions that depend on the manifest. -/
def table (algorithmReceived dataReceived : Option AgentState) :
    AgentState → Option AgentEvent → Option AgentState
  | .idle, some .start => some .receivingManifest
  | .receivingManifest, some .manifestReceived => some .receivingAlgorithm
  | .receivingAlgorithm, some .algorithmReceived => algorithmReceived
  | .receivingAlgorithm, some .runFailed => some .failed
  | .receivingData, some .dataReceived => dataReceived
  | .receivingData, some .runFailed => some .failed
  | .running, some .runComplete => some .consumingResults
  | .running, some .runFailed => some .failed
  | .consumingResults, some .resultsConsumed => some .complete
  | _, _ => none

/-- The machine has a table that `New` and calls of `InitComputation` can make. -/
structure Tabled (sm : AgentMachine) (algorithmReceived dataReceived : Option AgentState) :
    Prop where
  eq : sm.transitions = table algorithmReceived dataReceived
  algorithm : ∀ target, algorithmReceived = some target →
    target = .receivingData ∨ target = .running
  data : ∀ target, dataReceived = some target → target = .running

theorem transitions_newMachine : newMachine.transitions = table none none := by
  funext currentState event
  rcases event with _ | event
  · cases currentState <;> rfl
  · cases currentState <;> cases event <;> rfl

variable {algorithmReceived dataReceived : Option AgentState}

/-- A manifest without datasets. -/
theorem transitions_init_zero (h : sm.transitions = table algorithmReceived dataReceived) :
    (addTransitions sm (initTransitions 0)).transitions = table (some .running) dataReceived := by
  funext currentState event
  show (if currentState = .receivingAlgorithm ∧ event = some .algorithmReceived then some .running
    else sm.transitions currentState event) = _
  rw [h]
  rcases event with _ | event
  · cases currentState <;> rfl
  · cases currentState <;> cases event <;> rfl

/-- A manifest with datasets. -/
theorem transitions_init_succ {n : Nat}
    (h : sm.transitions = table algorithmReceived dataReceived) (hn : n ≠ 0) :
    (addTransitions sm (initTransitions n)).transitions =
      table (some .receivingData) (some .running) := by
  funext currentState event
  rw [initTransitions, if_neg hn]
  show (if currentState = .receivingData ∧ event = some .dataReceived then some .running
    else if currentState = .receivingAlgorithm ∧ event = some .algorithmReceived then
      some .receivingData
    else sm.transitions currentState event) = _
  rw [h]
  rcases event with _ | event
  · cases currentState <;> rfl
  · cases currentState <;> cases event <;> rfl

theorem tabled_newMachine : Tabled newMachine none none := ⟨transitions_newMachine, nofun, nofun⟩

/-- The transitions that lead to `Running`. -/
theorem Tabled.to_running {currentState : AgentState} {event : AgentEvent}
    (h : Tabled sm algorithmReceived dataReceived)
    (hnext : sm.transitions currentState (some event) = some .running) :
    currentState = .receivingAlgorithm ∧ event = .algorithmReceived ∧
        algorithmReceived = some .running ∨
      currentState = .receivingData ∧ event = .dataReceived := by
  rw [h.eq] at hnext
  cases currentState <;> cases event <;> simp_all [table]

theorem Tabled.init (h : Tabled sm algorithmReceived dataReceived) (n : Nat) :
    ∃ dataReceived', Tabled (addTransitions sm (initTransitions n))
      (some (if n = 0 then .running else .receivingData)) dataReceived' := by
  by_cases hn : n = 0
  · subst hn
    exact ⟨dataReceived, transitions_init_zero h.eq, by simp, h.data⟩
  · rw [if_neg hn]
    exact ⟨some .running, transitions_init_succ h.eq hn, by simp, by simp⟩

end Table

end SecureBinding.Agent
