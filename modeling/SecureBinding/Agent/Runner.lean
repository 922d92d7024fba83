import Mathlib.Data.Fintype.Basic
import SecureBinding.Go.Strings
import SecureBinding.Lib.Transition

/-!
# Agent.Runner

The runner of algorithms (`agent/runner/service/service.go`): concurrent calls of `Run` and
`Stop`.

A call of `Run` looks at the current algorithm in one critical section, sets it in a second
one, and clears it in a third one when it returns, whether or not it was the call that had
set it. Between them it writes the algorithm to the file `algo` of the working directory,
and removes it again. Every operation is a step of its own, so any other call may come in
between. Files are told apart from their names: writing goes to the file that was opened,
and the name may stand for another one, or for none, by then.

Nothing keeps a second call from passing its check before the first one has set the current
algorithm. `Safe` holds of all runs in which this does not happen.
-/

namespace SecureBinding.Agent.Runner

open Go

/-! ### The service -/

structure RunRequest where
  computationId : GoString
  algoType : GoString
  algorithm : Bytes
  requirements : Bytes := []

structure RunResponse where
  computationId : GoString
  error : GoString := []
  deriving Repr, DecidableEq

/-- The functions deferred by `Run`. -/
inductive Deferred
  | clearCurrent
  | removeAlgo
  | removeRequirements
  deriving Repr, DecidableEq

/-- How far a call has come: the operation it makes next. -/
inductive Phase (ι : Type)
  | idle
  | getwd
  | create
  | write (f : ι)
  | chmod (f : ι)
  | close (f : ι)
  | newAlgorithm
  | createTemp
  | writeTemp
  | closeTemp
  | setCurrent (defers : List Deferred)
  | start (defers : List Deferred)
  /-- In `algo.Run`. -/
  | running (defers : List Deferred)
  | leaving (defers : List Deferred) (resp : Except GoString RunResponse)
  | returned (resp : Except GoString RunResponse)
  deriving DecidableEq

/-- What the calls share. An algorithm and a file are named by the call that made them. -/
structure Shared (ι : Type) where
  currentAlgo : Option ι := none
  /-- The file that the name `algo` stands for. -/
  path : Option ι := none
  content : ι → Bytes := fun _ => []

variable {ι : Type}

/-- What is read from `algo`. -/
def Shared.algoFile (m : Shared ι) : Option Bytes := m.path.map m.content

/-- The outcome of an operation: an error, and how much a failed write has written. -/
structure Outcome where
  err : Option GoString := none
  written : Nat := 0

/-- Writing at the start of a file. -/
def overwrite (data old : Bytes) : Bytes := data ++ old.drop data.length

/-- The next operation, or the deferred functions when this one has failed. -/
def Outcome.next (r : Outcome) (text : String) (defers : List Deferred) (ok : Phase ι) : Phase ι :=
  match r.err with
  | none => ok
  | some err => .leaving defers (.error (lit text ++ err))

/-- The functions to run once the algorithm file is closed. -/
def afterFile : List Deferred := [.removeAlgo, .clearCurrent]

/-- The `switch` over the type of the algorithm. -/
def newAlgorithm (req : RunRequest) : Phase ι :=
  if req.algoType = lit "bin" then .setCurrent afterFile
  else if req.algoType = lit "python" then
    if 0 < req.requirements.length then .createTemp else .setCurrent afterFile
  else if req.algoType = lit "wasm" then .setCurrent afterFile
  else if req.algoType = lit "docker" then .setCurrent afterFile
  else .leaving afterFile (.error (lit "unsupported algorithm type: " ++ req.algoType))

variable [DecidableEq ι]

/-- `os.Create`, by call `i`: the file there is, truncated, or a new one. -/
def Shared.create (m : Shared ι) (i : ι) : Shared ι × ι :=
  let f := m.path.getD i
  ({ m with path := some f, content := Function.update m.content f [] }, f)

def Shared.write (m : Shared ι) (f : ι) (data : Bytes) : Shared ι :=
  { m with content := Function.update m.content f (overwrite data (m.content f)) }

/-- A deferred function. A file that can not be removed stays. -/
def runDeferred (m : Shared ι) (r : Outcome) : Deferred → Shared ι
  | .clearCurrent => { m with currentAlgo := none }
  | .removeAlgo => if r.err = none then { m with path := none } else m
  | .removeRequirements => m

/-- The next operation of call `i` of `Run`, with its outcome. -/
def advance (req : RunRequest) (i : ι) (m : Shared ι) (r : Outcome) :
    Phase ι → Option (Shared ι × Phase ι)
  | .idle =>
    if m.currentAlgo.isSome then
      some (m, .returned (.ok ⟨req.computationId, lit "computation already running"⟩))
    else some (m, .getwd)
  | .getwd => some (m, r.next "error getting current directory: " [.clearCurrent] .create)
  | .create =>
    if r.err = none then some ((m.create i).1, .write (m.create i).2)
    else some (m, r.next "error creating algorithm file: " [.clearCurrent] .create)
  | .write f =>
    let data := if r.err = none then req.algorithm else req.algorithm.take r.written
    some (m.write f data, r.next "error writing algorithm to file: " [.clearCurrent] (.chmod f))
  | .chmod f =>
    -- It goes by the name, so it can not succeed without one.
    if r.err = none ∧ m.path = none then none
    else some (m, r.next "error changing file permissions: " [.clearCurrent] (.close f))
  | .close _ => some (m, r.next "error closing file: " [.clearCurrent] .newAlgorithm)
  | .newAlgorithm => some (m, newAlgorithm req)
  | .createTemp => some (m, r.next "error creating requirments file: " afterFile .writeTemp)
  | .writeTemp => some (m, r.next "error writing requirements to file: "
      (.removeRequirements :: afterFile) .closeTemp)
  | .closeTemp => some (m, r.next "error closing file: "
      (.removeRequirements :: afterFile) (.setCurrent (.removeRequirements :: afterFile)))
  | .setCurrent defers => some ({ m with currentAlgo := some i }, .start defers)
  | .start defers => some (m, .running defers)
  | .running defers =>
    some (m, .leaving defers (.ok ⟨req.computationId, r.err.getD []⟩))
  | .leaving (d :: defers) resp => some (runDeferred m r d, .leaving defers resp)
  | .leaving [] resp => some (m, .returned resp)
  | .returned _ => none

/-- The service, every call of `Run`, and of every call of `Stop` the algorithm it was
forwarded to and the error it returned. -/
structure State (ι : Type) where
  shared : Shared ι := {}
  phase : ι → Phase ι := fun _ => .idle
  stops : List (Option ι × Option GoString) := []

inductive Action (ι : Type)
  | advance (i : ι) (r : Outcome)
  /-- A call of `Stop`, with what the algorithm's own `Stop` returns. -/
  | stop (err : Option GoString)

/-- `Stop`, which holds the lock for the whole of its body. -/
def stop (m : Shared ι) (err : Option GoString) : Option ι × Option GoString :=
  match m.currentAlgo with
  | some algo => (some algo, err)
  | none => (none, none)

def step (reqs : ι → RunRequest) (s : State ι) : Action ι → Option (State ι)
  | .advance i r => (advance (reqs i) i s.shared r (s.phase i)).map fun (shared, phase) =>
      { s with shared, phase := Function.update s.phase i phase }
  | .stop err => some { s with stops := stop s.shared err :: s.stops }

/-! ### Mutual exclusion -/

/-- Call `i` is in `algo.Run`. -/
def Running (s : State ι) (i : ι) : Prop := ∃ defers, s.phase i = .running defers

/-- At most one algorithm is being run, from a file with the bytes of its own request, and
a call of `Stop` is forwarded to it. -/
structure Safe (reqs : ι → RunRequest) (s : State ι) : Prop where
  unique : ∀ i j, Running s i → Running s j → i = j
  ownFile : ∀ i, Running s i → s.shared.algoFile = some (reqs i).algorithm
  stopReaches : ∀ i, Running s i → ∀ err, ∃ t, step reqs s (.stop err) = some t ∧
    t.stops = (some i, err) :: s.stops

/-- The call has passed its check, and has something to do before it is over. -/
def Phase.Inside : Phase ι → Prop
  | .idle => False
  | .leaving [] _ => False
  | .returned _ => False
  | _ => True

instance : DecidablePred (@Phase.Inside ι)
  | .idle | .returned _ | .leaving [] _ => isFalse id
  | .getwd | .create | .write _ | .chmod _ | .close _ | .newAlgorithm | .createTemp | .writeTemp
  | .closeTemp | .setCurrent _ | .start _ | .running _ | .leaving (_ :: _) _ => isTrue trivial

/-- A call that finds no current algorithm is alone. -/
def Alone (s : State ι) : Action ι → Prop
  | .advance i _ => s.phase i = .idle → s.shared.currentAlgo = none → ∀ j, ¬(s.phase j).Inside
  | .stop _ => True

instance (s : State ι) [Fintype ι] : ∀ a, Decidable (Alone s a)
  | .advance i _ => inferInstanceAs (Decidable
      (s.phase i = .idle → s.shared.currentAlgo = none → ∀ j, ¬(s.phase j).Inside))
  | .stop _ => isTrue trivial

/-- What a call knows of the shared state while it is alone. -/
def Local (algorithm : Bytes) (i : ι) (m : Shared ι) : Phase ι → Prop
  | .write f => m.path = some f ∧ m.content f = []
  | .chmod f => m.path = some f ∧ m.content f = algorithm
  | .close f => m.path = some f ∧ m.content f = algorithm
  | .newAlgorithm => m.algoFile = some algorithm
  | .createTemp => m.algoFile = some algorithm
  | .writeTemp => m.algoFile = some algorithm
  | .closeTemp => m.algoFile = some algorithm
  | .setCurrent _ => m.algoFile = some algorithm
  | .start _ => m.algoFile = some algorithm ∧ m.currentAlgo = some i
  | .running _ => m.algoFile = some algorithm ∧ m.currentAlgo = some i
  | _ => True

structure Inv (reqs : ι → RunRequest) (s : State ι) : Prop where
  unique : ∀ i j, (s.phase i).Inside → (s.phase j).Inside → i = j
  fits : ∀ i, Local (reqs i).algorithm i s.shared (s.phase i)

section Advance

variable {req : RunRequest} {i : ι} {m m' : Shared ι} {r : Outcome} {ph ph' : Phase ι}
  {algorithm : Bytes}

omit [DecidableEq ι] in
theorem local_of_not_inside (h : ¬ph.Inside) : Local algorithm i m ph := by
  cases ph <;> first | trivial | exact absurd trivial h

omit [DecidableEq ι] in
theorem local_next {text : String} {defers : List Deferred}
    (h : r.err = none → Local algorithm i m ph) :
    Local algorithm i m (r.next text defers ph) := by
  unfold Outcome.next
  split
  · exact h ‹_›
  · trivial

omit [DecidableEq ι] in
theorem local_newAlgorithm (h : m.algoFile = some algorithm) :
    Local algorithm i m (newAlgorithm req) := by
  unfold newAlgorithm
  split_ifs <;> first | exact h | trivial

omit [DecidableEq ι] in
theorem algoFile_eq_some {f : ι} (h : m.path = some f ∧ m.content f = algorithm) :
    m.algoFile = some algorithm := by
  simp [Shared.algoFile, h.1, h.2]

/-- An operation of a call keeps what the call knows. -/
theorem local_advance (h : Local req.algorithm i m ph)
    (hstep : advance req i m r ph = some (m', ph')) : Local req.algorithm i m' ph' := by
  cases ph with
  | idle =>
    simp only [advance] at hstep
    split at hstep <;> cases hstep <;> trivial
  | getwd =>
    cases hstep
    exact local_next fun _ => trivial
  | create =>
    simp only [advance] at hstep
    split at hstep
    · cases hstep
      exact ⟨rfl, Function.update_self ..⟩
    · cases hstep
      exact local_next fun _ => trivial
  -- What is written over the empty file that was just created is the algorithm.
  | write f =>
    cases hstep
    refine local_next fun hok => ⟨h.1, ?_⟩
    simp [Shared.write, hok, overwrite, h.2]
  | chmod f =>
    simp only [advance] at hstep
    split at hstep
    · cases hstep
    · cases hstep
      exact local_next fun _ => h
  -- From here on it is the file under the path of the runner that counts.
  | close f =>
    cases hstep
    exact local_next fun _ => algoFile_eq_some h
  | newAlgorithm =>
    cases hstep
    exact local_newAlgorithm h
  | createTemp | writeTemp | closeTemp =>
    cases hstep
    exact local_next fun _ => h
  | setCurrent defers =>
    cases hstep
    exact ⟨h, rfl⟩
  | start defers =>
    cases hstep
    exact h
  | running defers =>
    cases hstep
    trivial
  | leaving defers resp =>
    cases defers <;> cases hstep <;> trivial
  | returned resp => cases hstep

/-- A call comes inside by its check alone. -/
theorem inside_of_advance (hstep : advance req i m r ph = some (m', ph')) (h : ph'.Inside) :
    ph.Inside ∨ ph = .idle ∧ m.currentAlgo = none := by
  by_cases hin : ph.Inside
  · exact .inl hin
  · refine .inr ?_
    cases ph with
    | idle =>
      simp only [advance] at hstep
      split at hstep
      · cases hstep
        exact h.elim
      · exact ⟨rfl, Option.not_isSome_iff_eq_none.mp ‹_›⟩
    | leaving defers resp =>
      cases defers with
      | nil =>
        cases hstep
        exact h.elim
      | cons d defers => exact absurd trivial hin
    | returned resp => cases hstep
    | _ => exact absurd trivial hin

/-- A call that is not inside leaves what is shared as it is. -/
theorem shared_of_not_inside (hstep : advance req i m r ph = some (m', ph')) (h : ¬ph.Inside) :
    m' = m := by
  cases ph with
  | idle =>
    simp only [advance] at hstep
    split at hstep <;> cases hstep <;> rfl
  | leaving defers resp =>
    cases defers with
    | nil =>
      cases hstep
      rfl
    | cons d defers => exact absurd trivial h
  | returned resp => cases hstep
  | _ => exact absurd trivial h

end Advance

variable {reqs : ι → RunRequest} {s t : State ι} {a : Action ι}

omit [DecidableEq ι] in
theorem inv_init : Inv reqs ({} : State ι) := ⟨fun _ _ h => h.elim, fun _ => trivial⟩

theorem step_cases (h : step reqs s a = some t) :
    (∃ i r m ph, a = .advance i r ∧ advance (reqs i) i s.shared r (s.phase i) = some (m, ph) ∧
      t = { s with shared := m, phase := Function.update s.phase i ph }) ∨
    (∃ err, a = .stop err ∧ t = { s with stops := stop s.shared err :: s.stops }) := by
  cases a with
  | advance i r =>
    obtain ⟨⟨m, ph⟩, hadv, rfl⟩ := Option.map_eq_some_iff.mp h
    exact .inl ⟨i, r, m, ph, rfl, hadv, rfl⟩
  | stop err => exact .inr ⟨err, rfl, (Option.some.inj h).symm⟩

/-- The step of a call that is inside finds no other call inside, and the check of a call
that gets inside does so by the guard. -/
theorem inv_advance {i : ι} {r : Outcome} {m : Shared ι} {ph : Phase ι} (hi : Inv reqs s)
    (hg : Alone s (.advance i r))
    (hadv : advance (reqs i) i s.shared r (s.phase i) = some (m, ph)) :
    Inv reqs { s with shared := m, phase := Function.update s.phase i ph } := by
  -- Whoever is inside after the step was inside before, or has just passed the check.
  have hoth : ph.Inside → ∀ j, j ≠ i → ¬(s.phase j).Inside := by
    intro hin j hne hj
    obtain hbef | ⟨hidle, hnone⟩ := inside_of_advance hadv hin
    · exact hne (hi.unique j i hj hbef)
    · exact hg hidle hnone j hj
  -- What is shared changes only by a call that is inside, and then the others know nothing.
  have hfits : ∀ j, j ≠ i → Local (reqs j).algorithm j m (s.phase j) := by
    intro j hne
    by_cases hbef : (s.phase i).Inside
    · exact local_of_not_inside fun hj => hne (hi.unique j i hj hbef)
    · rw [shared_of_not_inside hadv hbef]
      exact hi.fits j
  refine ⟨fun j k hj hk => ?_, (Function.forall_update_iff s.phase fun j =>
    Local (reqs j).algorithm j m).mpr ⟨local_advance (hi.fits i) hadv, hfits⟩⟩
  by_cases hji : j = i <;> by_cases hki : k = i
  · rw [hji, hki]
  · subst hji
    simp only [Function.update_self, Function.update_of_ne hki] at hj hk
    exact absurd hk (hoth hj k hki)
  · subst hki
    simp only [Function.update_self, Function.update_of_ne hji] at hj hk
    exact absurd hj (hoth hk j hji)
  · simp only [Function.update_of_ne hji, Function.update_of_ne hki] at hj hk
    exact hi.unique j k hj hk

theorem inv_step (hi : Inv reqs s) (hg : Alone s a) (h : step reqs s a = some t) : Inv reqs t := by
  obtain ⟨i, r, m, ph, rfl, hadv, rfl⟩ | ⟨err, rfl, rfl⟩ := step_cases h
  · exact inv_advance hi hg hadv
  · exact ⟨hi.unique, hi.fits⟩

/-- In a state of the invariant a running call is the one inside, and knows its file and
the current algorithm. -/
theorem Inv.safe (hi : Inv reqs s) : Safe reqs s := by
  have hinside : ∀ i, Running s i → (s.phase i).Inside := by
    intro i ⟨defers, h⟩
    rw [h]
    trivial
  have hloc : ∀ i, Running s i →
      s.shared.algoFile = some (reqs i).algorithm ∧ s.shared.currentAlgo = some i := by
    intro i ⟨defers, h⟩
    simpa [h, Local] using hi.fits i
  refine ⟨fun i j h h' => hi.unique i j (hinside i h) (hinside j h'),
    fun i h => (hloc i h).1, fun i h err => ⟨_, rfl, ?_⟩⟩
  simp [stop, (hloc i h).2]

/-! ### Two calls -/

def sampleRequests : Fin 2 → RunRequest
  | 0 => ⟨lit "a", lit "wasm", [1], []⟩
  | 1 => ⟨lit "b", lit "wasm", [2], []⟩

/-- The next `n` operations of a call, all of them successful. -/
def proceed (i : Fin 2) (n : Nat) : List (Action (Fin 2)) := List.replicate n (.advance i {})

/-- For every number of calls of `Run` and `Stop` and every interleaving: if every call that
passes its check finds no other one inside, at most one algorithm is being run at any time,
from its own bytes, and every `Stop` reaches it. -/
theorem safe_of_run {as : List (Action ι)} (hguard : Lib.Guarded (step reqs) Alone {} as)
    (hrun : Lib.run (step reqs) {} as = some s) : Safe reqs s :=
  (Lib.invariant_of_run inv_step inv_init hguard hrun).safe

/-- While the first call is running the second one is turned away. -/
theorem safe_of_run_sample : ∃ s,
    Lib.run (step sampleRequests) {} (proceed 0 9 ++ proceed 1 1 ++ [.stop none]) = some s ∧
      Running s 0 ∧ Safe sampleRequests s := by
  have h : ((Lib.run (step sampleRequests) {}
      (proceed 0 9 ++ proceed 1 1 ++ [.stop none])).map fun s => s.phase 0) =
        some (.running afterFile) := by
    decide
  obtain ⟨s, hrun, hs⟩ := Option.map_eq_some_iff.mp h
  exact ⟨s, hrun, ⟨_, hs⟩, safe_of_run (by decide) hrun⟩

/-- Both calls pass their check before the first one sets the current algorithm: then both
are running, the file holds the bytes of the second one, and `Stop` reaches only that. -/
theorem overtaken : ∃ s, Lib.run (step sampleRequests) {}
        (proceed 0 1 ++ proceed 1 1 ++ proceed 0 8 ++ proceed 1 8 ++ [.stop none]) = some s ∧
      Running s 0 ∧ Running s 1 ∧ s.shared.algoFile = some (sampleRequests 1).algorithm ∧
      s.stops = [(some 1, none)] := by
  have h : ((Lib.run (step sampleRequests) {}
      (proceed 0 1 ++ proceed 1 1 ++ proceed 0 8 ++ proceed 1 8 ++ [.stop none])).map fun s =>
        (s.phase 0, s.phase 1, s.shared.algoFile, s.stops)) =
      some (.running afterFile, .running afterFile, some [2], [(some 1, none)]) := by
    rfl
  obtain ⟨s, hrun, hs⟩ := Option.map_eq_some_iff.mp h
  simp only [Prod.mk.injEq] at hs
  obtain ⟨h0, h1, hfile, hstops⟩ := hs
  exact ⟨s, hrun, ⟨_, h0⟩, ⟨_, h1⟩, hfile, hstops⟩

end SecureBinding.Agent.Runner
