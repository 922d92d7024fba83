import Mathlib.Data.Fintype.Basic
import SecureBinding.Lib.Fair

/-!
# Agent.OutgoingQueue

The mutex and the bounded queue of messages of the CVMS client
(`agent/cvms/api/grpc/client.go`), and the parties that share them.

* The outgoing loop takes a message from the queue and then needs the mutex to send it. When it
  starts, it sends the stored messages in the same way before it turns to the queue.
* `handleStopComputation` holds the mutex for a while, and passes its response to `sendMessage`
  after that.
* `executeRun` passes its response to `sendMessage` while it holds the mutex.

`sendMessage` waits for room in the queue, and drops the message after a timeout. The stream
accepts sends, so the loop is held up by nothing but the mutex: the timeout of `executeRun` is
up only when the queue is full and the loop, with a message in its hands, waits for the mutex
that `executeRun` holds.
-/

namespace SecureBinding.Agent.OutgoingQueue

open Lib

/-! ### The parties -/

/-- What is in the queue: the responses of the runs and stops, and what others put there. -/
inductive Message (ι κ : Type)
  | runRes (i : ι)
  | stopRes (j : κ)
  | other

inductive Holder (ι κ : Type)
  | run (i : ι)
  | stop (j : κ)
  | loop

/-- `executeRun` from the point where it wants the mutex; at the end, if its response has
entered the queue. -/
inductive RunPhase
  | wants
  | sending
  | unlocking (entered : Bool)
  | returned (entered : Bool)
  deriving Repr, DecidableEq

/-- `handleStopComputation`. -/
inductive StopPhase
  | wants
  | stopping
  | sending
  | returned (entered : Bool)
  deriving Repr, DecidableEq

/-- The outgoing loop: at its `select`, with a message that it has taken, and in `Send`. -/
inductive LoopPhase
  | ready
  | wants
  | sending
  deriving Repr, DecidableEq

/-- `stored` is the number of stored messages that the loop has not sent again. -/
structure State (ι κ : Type) where
  queue : List (Message ι κ)
  mutex : Option (Holder ι κ) := none
  loop : LoopPhase := .ready
  stored : Nat := 0
  runs : ι → RunPhase := fun _ => .wants
  stops : κ → StopPhase := fun _ => .wants

inductive Action (ι κ : Type)
  | runLock (i : ι)
  | runPut (i : ι)
  | runTimeout (i : ι)
  | runUnlock (i : ι)
  | stopLock (j : κ)
  | stopUnlock (j : κ)
  | stopPut (j : κ)
  | stopTimeout (j : κ)
  /-- A message of someone else enters the queue. -/
  | put
  | loopTake
  | loopLock
  | loopSend
  /-- Something that touches neither the queue nor the mutex. -/
  | elsewhere
  deriving Repr, DecidableEq

variable {ι κ : Type}

/-- The loop waits for messages from the queue. -/
def Draining (s : State ι κ) : Prop := s.loop = .ready ∧ s.stored = 0

instance (s : State ι κ) : Decidable (Draining s) := inferInstanceAs (Decidable (_ ∧ _))

variable [DecidableEq ι] [DecidableEq κ]

/-- The effect of a step with a queue for `cap` messages, if it is enabled. -/
def step (cap : Nat) (s : State ι κ) : Action ι κ → Option (State ι κ)
  | .runLock i =>
    if s.runs i = .wants ∧ s.mutex = none then
      some { s with mutex := some (.run i), runs := Function.update s.runs i .sending }
    else none
  | .runPut i =>
    if s.runs i = .sending ∧ s.queue.length < cap then
      some { s with
        queue := s.queue ++ [.runRes i], runs := Function.update s.runs i (.unlocking true) }
    else none
  | .runTimeout i =>
    if s.runs i = .sending ∧ cap ≤ s.queue.length ∧ s.loop = .wants then
      some { s with runs := Function.update s.runs i (.unlocking false) }
    else none
  | .runUnlock i =>
    match s.runs i with
    | .unlocking entered =>
      some { s with mutex := none, runs := Function.update s.runs i (.returned entered) }
    | _ => none
  | .stopLock j =>
    if s.stops j = .wants ∧ s.mutex = none then
      some { s with mutex := some (.stop j), stops := Function.update s.stops j .stopping }
    else none
  | .stopUnlock j =>
    if s.stops j = .stopping then
      some { s with mutex := none, stops := Function.update s.stops j .sending }
    else none
  | .stopPut j =>
    if s.stops j = .sending ∧ s.queue.length < cap then
      some { s with
        queue := s.queue ++ [.stopRes j], stops := Function.update s.stops j (.returned true) }
    else none
  | .stopTimeout j =>
    if s.stops j = .sending ∧ cap ≤ s.queue.length then
      some { s with stops := Function.update s.stops j (.returned false) }
    else none
  | .put => if s.queue.length < cap then some { s with queue := s.queue ++ [.other] } else none
  | .loopTake =>
    match s.loop, s.stored, s.queue with
    | .ready, n + 1, _ => some { s with loop := .wants, stored := n }
    | .ready, 0, _ :: queue => some { s with loop := .wants, queue }
    | _, _, _ => none
  | .loopLock =>
    if s.loop = .wants ∧ s.mutex = none then
      some { s with mutex := some .loop, loop := .sending }
    else none
  | .loopSend =>
    if s.loop = .sending then some { s with mutex := none, loop := .ready } else none
  | .elsewhere => some s

/-- The client at any time at which nobody holds the mutex and no response is under way. -/
structure Initial (cap : Nat) (s : State ι κ) : Prop where
  length_le : s.queue.length ≤ cap
  mutex : s.mutex = none
  loop : s.loop ≠ .sending
  runs : ∀ i, s.runs i = .wants
  stops : ∀ j, s.stops j = .wants

/-- A run takes the mutex when the queue has room or the loop drains it, and nobody else takes
the last place in the queue while a run has yet to put its response there and the loop does
not drain it. -/
def Prompt (cap : Nat) (s : State ι κ) : Action ι κ → Prop
  | .runLock _ => s.queue.length < cap ∨ Draining s
  | .stopPut _ => (∃ i, s.runs i = .sending) → ¬Draining s → s.queue.length + 1 < cap
  | .put => (∃ i, s.runs i = .sending) → ¬Draining s → s.queue.length + 1 < cap
  | _ => True

instance [Fintype ι] (cap : Nat) (s : State ι κ) : ∀ a, Decidable (Prompt cap s a)
  | .runLock _ => inferInstanceAs (Decidable (s.queue.length < cap ∨ Draining s))
  | .stopPut _ | .put => inferInstanceAs (Decidable
      ((∃ i, s.runs i = .sending) → ¬Draining s → s.queue.length + 1 < cap))
  | .runPut _ | .runTimeout _ | .runUnlock _ | .stopLock _ | .stopUnlock _ | .stopTimeout _
  | .loopTake | .loopLock | .loopSend | .elsewhere => isTrue trivial

def RunPhase.Dropped (phase : RunPhase) : Prop :=
  phase = .unlocking false ∨ phase = .returned false

/-- The response of run `i` was dropped. -/
def Dropped (s : State ι κ) (i : ι) : Prop := (s.runs i).Dropped

/-- The response of run `i` has entered the queue. -/
def Entered (i : ι) (s : State ι κ) : Prop :=
  s.runs i = .unlocking true ∧ .runRes i ∈ s.queue

/-- Who is between taking the mutex and releasing it. -/
def Owns (s : State ι κ) : Holder ι κ → Prop
  | .run i => s.runs i = .sending ∨ ∃ entered, s.runs i = .unlocking entered
  | .stop j => s.stops j = .stopping
  | .loop => s.loop = .sending

structure Inv (cap : Nat) (s : State ι κ) : Prop where
  length_le : s.queue.length ≤ cap
  owned : ∀ x, Owns s x → s.mutex = some x
  /-- The queue is no obstacle to a run that has its response in hand. -/
  free : ∀ i, s.runs i = .sending → s.queue.length < cap ∨ Draining s
  notDropped : ∀ i, ¬Dropped s i

/-! ### What a step can do -/

inductive Step (cap : Nat) (s : State ι κ) : Action ι κ → State ι κ → Prop
  | runLock {i : ι} (hi : s.runs i = .wants) (hmutex : s.mutex = none) :
    Step cap s (.runLock i)
      { s with mutex := some (.run i), runs := Function.update s.runs i .sending }
  | runPut {i : ι} (hi : s.runs i = .sending) (hroom : s.queue.length < cap) :
    Step cap s (.runPut i)
      { s with
        queue := s.queue ++ [.runRes i], runs := Function.update s.runs i (.unlocking true) }
  | runTimeout {i : ι} (hi : s.runs i = .sending) (hfull : cap ≤ s.queue.length)
    (hloop : s.loop = .wants) :
    Step cap s (.runTimeout i) { s with runs := Function.update s.runs i (.unlocking false) }
  | runUnlock {i : ι} {entered : Bool} (hi : s.runs i = .unlocking entered) :
    Step cap s (.runUnlock i)
      { s with mutex := none, runs := Function.update s.runs i (.returned entered) }
  | stopLock {j : κ} (hj : s.stops j = .wants) (hmutex : s.mutex = none) :
    Step cap s (.stopLock j)
      { s with mutex := some (.stop j), stops := Function.update s.stops j .stopping }
  | stopUnlock {j : κ} (hj : s.stops j = .stopping) :
    Step cap s (.stopUnlock j)
      { s with mutex := none, stops := Function.update s.stops j .sending }
  | stopPut {j : κ} (hj : s.stops j = .sending) (hroom : s.queue.length < cap) :
    Step cap s (.stopPut j)
      { s with
        queue := s.queue ++ [.stopRes j], stops := Function.update s.stops j (.returned true) }
  | stopTimeout {j : κ} (hj : s.stops j = .sending) :
    Step cap s (.stopTimeout j) { s with stops := Function.update s.stops j (.returned false) }
  | put (hroom : s.queue.length < cap) : Step cap s .put { s with queue := s.queue ++ [.other] }
  | takeStored {n : Nat} (hloop : s.loop = .ready) (hstored : s.stored = n + 1) :
    Step cap s .loopTake { s with loop := .wants, stored := n }
  | takeQueued {m : Message ι κ} {queue : List (Message ι κ)} (hloop : s.loop = .ready)
    (hstored : s.stored = 0) (hqueue : s.queue = m :: queue) :
    Step cap s .loopTake { s with loop := .wants, queue }
  | loopLock (hloop : s.loop = .wants) (hmutex : s.mutex = none) :
    Step cap s .loopLock { s with mutex := some .loop, loop := .sending }
  | loopSend (hloop : s.loop = .sending) :
    Step cap s .loopSend { s with mutex := none, loop := .ready }
  | elsewhere : Step cap s .elsewhere s

section Steps

variable {cap : Nat} {s t : State ι κ} {a : Action ι κ}

theorem Step.of_step (h : step cap s a = some t) : Step cap s a t := by
  cases a with simp only [step, enabled_iff] at h
  | runLock i =>
    obtain ⟨⟨hi, hmx⟩, rfl⟩ := h
    exact .runLock hi hmx
  | runPut i =>
    obtain ⟨⟨hi, hroom⟩, rfl⟩ := h
    exact .runPut hi hroom
  | runTimeout i =>
    obtain ⟨⟨hi, hfull, hloop⟩, rfl⟩ := h
    exact .runTimeout hi hfull hloop
  | runUnlock i =>
    split at h
    · cases h
      exact .runUnlock ‹_›
    · cases h
  | stopLock j =>
    obtain ⟨⟨hj, hmx⟩, rfl⟩ := h
    exact .stopLock hj hmx
  | stopUnlock j =>
    obtain ⟨hj, rfl⟩ := h
    exact .stopUnlock hj
  | stopPut j =>
    obtain ⟨⟨hj, hroom⟩, rfl⟩ := h
    exact .stopPut hj hroom
  | stopTimeout j =>
    obtain ⟨⟨hj, -⟩, rfl⟩ := h
    exact .stopTimeout hj
  | put =>
    obtain ⟨hroom, rfl⟩ := h
    exact .put hroom
  | loopTake =>
    split at h
    · cases h
      exact .takeStored ‹_› ‹_›
    · cases h
      exact .takeQueued ‹_› ‹_› ‹_›
    · cases h
  | loopLock =>
    obtain ⟨⟨hloop, hmx⟩, rfl⟩ := h
    exact .loopLock hloop hmx
  | loopSend =>
    obtain ⟨hloop, rfl⟩ := h
    exact .loopSend hloop
  | elsewhere =>
    cases h
    exact .elsewhere

omit [DecidableEq ι] [DecidableEq κ] in
theorem Inv.of_initial (h : Initial cap s) : Inv cap s := by
  refine ⟨h.length_le, fun x hx => ?_, fun i hi => ?_, fun i hi => ?_⟩
  · cases x with
    | run i => simp [Owns, h.runs i] at hx
    | stop j => simp [Owns, h.stops j] at hx
    | loop => exact absurd hx h.loop
  · simp [h.runs i] at hi
  · simp [Dropped, RunPhase.Dropped, h.runs i] at hi

/-- A step leaves the mutex where it is, takes it while it is free, or releases it. -/
theorem owns_step (h : Step cap s a t) :
    (t.mutex = s.mutex ∧ ∀ x, Owns t x → Owns s x) ∨
    (s.mutex = none ∧ ∃ y, t.mutex = some y ∧ ∀ x, Owns t x → x = y ∨ Owns s x) ∨
    (t.mutex = none ∧ ∃ y, Owns s y ∧ ∀ x, Owns t x → x ≠ y ∧ Owns s x) := by
  cases h with
  | @runLock i hi hmx =>
    refine .inr (.inl ⟨hmx, .run i, rfl, fun x hx => ?_⟩)
    cases x <;> grind [Owns, Function.update]
  | @runUnlock i entered hi =>
    refine .inr (.inr ⟨rfl, .run i, .inr ⟨entered, hi⟩, fun x hx => ?_⟩)
    cases x <;> grind [Owns, Function.update]
  | @stopLock j hj hmx =>
    refine .inr (.inl ⟨hmx, .stop j, rfl, fun x hx => ?_⟩)
    cases x <;> grind [Owns, Function.update]
  | @stopUnlock j hj =>
    refine .inr (.inr ⟨rfl, .stop j, hj, fun x hx => ?_⟩)
    cases x <;> grind [Owns, Function.update]
  | loopLock hloop hmx =>
    refine .inr (.inl ⟨hmx, .loop, rfl, fun x hx => ?_⟩)
    cases x <;> grind [Owns]
  | loopSend hloop =>
    refine .inr (.inr ⟨rfl, .loop, hloop, fun x hx => ?_⟩)
    cases x <;> grind [Owns]
  | _ =>
    -- all others leave the mutex, and who owns it
    refine .inl ⟨rfl, fun x hx => ?_⟩
    cases x <;> grind [Owns, Function.update]

theorem owned_step (howned : ∀ x, Owns s x → s.mutex = some x) (h : Step cap s a t) :
    ∀ x, Owns t x → t.mutex = some x := by
  intro x hx
  obtain ⟨hmx, hkeep⟩ | ⟨hfree, y, hmx, htak⟩ | ⟨-, y, hy, hreleased⟩ := owns_step h
  · rw [hmx]
    exact howned x (hkeep x hx)
  · obtain rfl | hbef := htak x hx
    · exact hmx
    · have hmx' := howned x hbef
      simp [hfree] at hmx'
  · obtain ⟨hne, hbef⟩ := hreleased x hx
    exact absurd (Option.some.inj ((howned x hbef).symm.trans (howned y hy))) hne

omit [DecidableEq ι] [DecidableEq κ] in
/-- A run that has its response in hand is the only owner. -/
theorem Inv.eq_run_of_owns {i : ι} (hi : Inv cap s) (hsnd : s.runs i = .sending)
    {x : Holder ι κ} (hx : Owns s x) : x = .run i := by
  have hrun : Owns s (.run i) := .inl hsnd
  exact Option.some.inj ((hi.owned x hx).symm.trans (hi.owned _ hrun))

omit [DecidableEq ι] [DecidableEq κ] in
theorem Inv.mutex_ne_none {i : ι} (hi : Inv cap s) (hsnd : s.runs i = .sending) :
    s.mutex ≠ none := by
  have hrun : Owns s (.run i) := .inl hsnd
  simp [hi.owned _ hrun]

omit [DecidableEq ι] [DecidableEq κ] in
/-- The loop does not wait with a message while the queue is full. -/
theorem Inv.not_stuck {i : ι} (hi : Inv cap s) (hsnd : s.runs i = .sending)
    (hfull : cap ≤ s.queue.length) : s.loop ≠ .wants := by
  intro hloop
  obtain hroom | ⟨hrdy, -⟩ := hi.free i hsnd
  · omega
  · rw [hloop] at hrdy
    cases hrdy

/-- While run `i` has its response in hand, it puts it into the queue, or nothing gets any
further but the loop by one message. -/
theorem sending_step {i : ι} (hi : Inv cap s) (hsnd : s.runs i = .sending) (h : Step cap s a t) :
    (a = .runPut i ∧ Entered i t) ∨
    (a ≠ .runPut i ∧ t.runs i = .sending ∧ (a = .loopTake → ¬Draining t) ∧
      (a ≠ .loopTake → (Draining t ↔ Draining s) ∧ s.queue.length ≤ t.queue.length)) := by
  cases h with
  | runLock _ hmx | stopLock _ hmx | loopLock _ hmx => exact absurd hmx (hi.mutex_ne_none hsnd)
  | @runPut k hk hroom =>
    obtain rfl : k = i := by simpa using hi.eq_run_of_owns hsnd (x := .run k) (.inl hk)
    exact .inl ⟨rfl, by simp, by simp⟩
  | runTimeout hk hfull hloop => exact absurd hloop (hi.not_stuck hsnd hfull)
  | @runUnlock k entered hk =>
    obtain rfl : k = i := by
      simpa using hi.eq_run_of_owns hsnd (x := .run k) (.inr ⟨entered, hk⟩)
    simp [hsnd] at hk
  | @stopUnlock j hj => simpa using hi.eq_run_of_owns hsnd (x := .stop j) hj
  | stopPut | put => exact .inr ⟨by simp, hsnd, by simp, fun _ => ⟨Iff.rfl, by simp⟩⟩
  | stopTimeout | elsewhere =>
    exact .inr ⟨by simp, hsnd, by simp, fun _ => ⟨Iff.rfl, Nat.le_refl _⟩⟩
  | takeStored | takeQueued => exact .inr ⟨by simp, hsnd, fun _ => by simp [Draining], by simp⟩
  | loopSend hloop => simpa using hi.eq_run_of_owns hsnd (x := .loop) hloop

theorem length_le_step (hle : s.queue.length ≤ cap) (h : Step cap s a t) :
    t.queue.length ≤ cap := by
  cases h with
  | runPut _ hroom | stopPut _ hroom | put hroom => simpa using Nat.succ_le_of_lt hroom
  | takeQueued _ _ hque =>
    rw [hque, List.length_cons] at hle
    exact Nat.le_of_succ_le hle
  | _ => exact hle

omit [DecidableEq ι] [DecidableEq κ] in
/-- A message of someone else leaves room for the run, or the loop drains the queue. -/
theorem free_put {i : ι} (hsnd : s.runs i = .sending)
    (hg : (∃ i, s.runs i = .sending) → ¬Draining s → s.queue.length + 1 < cap) :
    s.queue.length + 1 < cap ∨ Draining s := by
  by_cases hdrn : Draining s
  · exact .inr hdrn
  · exact .inl (hg ⟨i, hsnd⟩ hdrn)

/-- Only taking the mutex puts a run's response in hand. -/
theorem runLock_of_sending {i : ι} (h : Step cap s a t) (hbef : s.runs i ≠ .sending)
    (hsnd : t.runs i = .sending) : a = .runLock i ∧ t.queue = s.queue ∧
      (Draining t ↔ Draining s) := by
  cases h with
  | runLock =>
    obtain ⟨rfl, -⟩ | h := Lib.of_update (p := (· = RunPhase.sending)) hsnd
    · exact ⟨rfl, rfl, Iff.rfl⟩
    · exact absurd h hbef
  | runPut | runTimeout | runUnlock =>
    exact absurd (Lib.of_update_of_not (p := (· = RunPhase.sending)) (by simp) hsnd) hbef
  | _ => exact absurd hsnd hbef

/-- The queue stays free for a run until its response is in. -/
theorem free_step (hi : Inv cap s) (hg : Prompt cap s a) (h : Step cap s a t) {i : ι}
    (hsnd : t.runs i = .sending) : t.queue.length < cap ∨ Draining t := by
  by_cases hbef : s.runs i = .sending
  · cases h with
    | runLock _ hmx | loopLock _ hmx => exact absurd hmx (hi.mutex_ne_none hbef)
    | @runPut k hk hroom =>
      obtain rfl : k = i := by simpa using hi.eq_run_of_owns hbef (x := .run k) (.inl hk)
      simp at hsnd
    | stopPut | put => simpa [Draining] using free_put hbef hg
    | takeStored hloop hstd =>
      have hroom := (hi.free i hbef).resolve_right (by simp [Draining, hstd])
      exact .inl hroom
    | takeQueued _ _ hque =>
      have hle := hi.length_le
      rw [hque, List.length_cons] at hle
      exact .inl hle
    | loopSend hloop =>
      exact absurd (hi.eq_run_of_owns hbef (x := .loop) hloop) (by simp)
    | _ => exact hi.free i hbef
  · obtain ⟨rfl, hque, hdrn⟩ := runLock_of_sending h hbef hsnd
    rw [hque, hdrn]
    exact hg

theorem notDropped_step (hi : Inv cap s) (h : Step cap s a t) (i : ι) : ¬Dropped t i := by
  intro hdr
  cases h with
  | runLock | runPut =>
    exact hi.notDropped i (Lib.of_update_of_not (by simp [RunPhase.Dropped]) hdr)
  | runTimeout hk hfull hloop => exact hi.not_stuck hk hfull hloop
  | @runUnlock k entered hk =>
    obtain ⟨rfl, h⟩ | h := Lib.of_update (p := RunPhase.Dropped) hdr
    · exact hi.notDropped i (by simpa [Dropped, RunPhase.Dropped, hk] using h)
    · exact hi.notDropped i h
  | _ => exact hi.notDropped i hdr

theorem inv_step (hi : Inv cap s) (hg : Prompt cap s a) (h : Step cap s a t) : Inv cap t where
  length_le := length_le_step hi.length_le h
  owned := owned_step hi.owned h
  free _ hsnd := free_step hi hg h hsnd
  notDropped := notDropped_step hi h

end Steps

/-! ### Every response enters the queue -/

section Liveness

variable {cap : Nat} {r : Schedule (step (ι := ι) (κ := κ) cap)} {i : ι}

theorem inv_of_schedule (hinit : Initial cap (r.state 0))
    (hg : ∀ n, Prompt cap (r.state n) (r.action n)) (n : Nat) : Inv cap (r.state n) := by
  induction n with
  | zero => exact .of_initial hinit
  | succ n ih => exact inv_step ih (hg n) (.of_step (r.next n))

theorem entered_of_runPut {n : Nat} (hinv : Inv cap (r.state n))
    (hsnd : (r.state n).runs i = .sending) (hact : r.action n = .runPut i) :
    Entered i (r.state (n + 1)) := by
  obtain ⟨-, hentd⟩ | ⟨hne, -⟩ := sending_step hinv hsnd (.of_step (r.next n))
  · exact hentd
  · exact absurd hact hne

/-- With the loop held up the response gets its place: nobody else takes it. -/
theorem heldUp_leadsTo_entered (hinv : ∀ n, Inv cap (r.state n))
    (hput : r.WeaklyFair (· = .runPut i)) :
    r.LeadsTo (fun s => s.runs i = .sending ∧ ¬Draining s) (Entered i) := by
  refine Schedule.leadsTo_of_ensures hput (fun n ⟨hsnd, hheld⟩ _ => ?_)
    (fun n ⟨hsnd, hheld⟩ => ?_) (fun n ⟨hsnd, _⟩ hact => ?_)
  · obtain ⟨-, hentd⟩ | ⟨-, hsti, htake, hoth⟩ := sending_step (hinv n) hsnd (.of_step (r.next n))
    · exact .inr hentd
    · by_cases hact : r.action n = .loopTake
      · exact .inl ⟨hsti, htake hact⟩
      · exact .inl ⟨hsti, fun h => hheld ((hoth hact).1.mp h)⟩
  · have hroom := ((hinv n).free i hsnd).resolve_right hheld
    exact ⟨.runPut i, rfl, by simp [step, hsnd, hroom]⟩
  · exact entered_of_runPut (hinv n) hsnd hact

/-- From a full queue the loop takes a message, and is held up with it. -/
theorem full_leadsTo_heldUp (hcap : 0 < cap) (hinv : ∀ n, Inv cap (r.state n))
    (htake : r.WeaklyFair (· = .loopTake)) :
    r.LeadsTo (fun s => s.runs i = .sending ∧ Draining s ∧ cap ≤ s.queue.length)
      (fun s => s.runs i = .sending ∧ ¬Draining s) := by
  refine Schedule.leadsTo_of_weaklyFair htake (fun n ⟨hsnd, hdrn, hfull⟩ hact => ?_)
    (fun n ⟨hsnd, hdrn, hfull⟩ => ?_) (fun n ⟨hsnd, _, _⟩ hact => ?_)
  · obtain ⟨hput, -⟩ | ⟨-, hsti, -, hoth⟩ := sending_step (hinv n) hsnd (.of_step (r.next n))
    · have hnext := r.next n
      rw [hput] at hnext
      simp [step, Nat.not_lt.mpr hfull] at hnext
    · obtain ⟨hiff, hle⟩ := hoth hact
      exact ⟨hsti, hiff.mpr hdrn, Nat.le_trans hfull hle⟩
  · obtain ⟨hrdy, hstd⟩ := hdrn
    refine ⟨.loopTake, rfl, ?_⟩
    cases hque : (r.state n).queue with
    | nil => simp [hque] at hfull; omega
    | cons m queue => simp [step, hrdy, hstd, hque]
  · obtain ⟨hput, -⟩ | ⟨-, hsti, hheld, -⟩ := sending_step (hinv n) hsnd (.of_step (r.next n))
    · simp [hput] at hact
    · exact ⟨hsti, hheld hact⟩

/-- While there is room, the response enters, until the queue fills up. -/
theorem room_leadsTo (hinv : ∀ n, Inv cap (r.state n)) (hput : r.WeaklyFair (· = .runPut i)) :
    r.LeadsTo (fun s => s.runs i = .sending ∧ s.queue.length < cap)
      (fun s => Entered i s ∨ (s.runs i = .sending ∧ cap ≤ s.queue.length)) := by
  refine Schedule.leadsTo_of_ensures hput (fun n ⟨hsnd, hroom⟩ hact => ?_)
    (fun n ⟨hsnd, hroom⟩ => ?_) (fun n ⟨hsnd, _⟩ hact => ?_)
  · obtain ⟨hact', -⟩ | ⟨-, hsti, -⟩ := sending_step (hinv n) hsnd (.of_step (r.next n))
    · exact absurd hact' hact
    · by_cases hroom' : (r.state (n + 1)).queue.length < cap
      · exact .inl ⟨hsti, hroom'⟩
      · exact .inr (.inr ⟨hsti, Nat.not_lt.mp hroom'⟩)
  · exact ⟨.runPut i, rfl, by simp [step, hsnd, hroom]⟩
  · exact .inl (entered_of_runPut (hinv n) hsnd hact)

/-- A response in hand enters the queue: at once, or after the loop has made room for it. -/
theorem sending_leadsTo_entered (hcap : 0 < cap) (hinv : ∀ n, Inv cap (r.state n))
    (htake : r.WeaklyFair (· = .loopTake)) (hput : r.WeaklyFair (· = .runPut i)) :
    r.LeadsTo (fun s => s.runs i = .sending) (Entered i) := by
  have hfull : r.LeadsTo (fun s => s.runs i = .sending ∧ cap ≤ s.queue.length) (Entered i) := by
    intro n ⟨hsnd, hfull⟩
    have hdrn := ((hinv n).free i hsnd).resolve_left (Nat.not_lt.mpr hfull)
    exact (full_leadsTo_heldUp hcap hinv htake).trans (heldUp_leadsTo_entered hinv hput) n
      ⟨hsnd, hdrn, hfull⟩
  intro n hsnd
  by_cases hroom : (r.state n).queue.length < cap
  · obtain ⟨m, hnm, hentd | hm⟩ := room_leadsTo hinv hput n ⟨hsnd, hroom⟩
    · exact ⟨m, hnm, hentd⟩
    · obtain ⟨k, hmk, hk⟩ := hfull m hm
      exact ⟨k, Nat.le_trans hnm hmk, hk⟩
  · exact hfull n ⟨hsnd, Nat.not_lt.mp hroom⟩

end Liveness

/-- For every fill level of the queue and every schedule of the parties that is fair to the
outgoing loop and to the runs: if the runs take the mutex and the others their places in the
queue promptly, then every run response that is passed to `sendMessage` enters the queue, and
none is dropped. -/
theorem responses_enter (cap : Nat) (hcap : 0 < cap)
    (r : Schedule (step (ι := ι) (κ := κ) cap)) (hinit : Initial cap (r.state 0))
    (hguard : ∀ n, Prompt cap (r.state n) (r.action n)) (htake : r.WeaklyFair (· = .loopTake))
    (hput : ∀ i, r.WeaklyFair (· = .runPut i)) (i : ι) :
    r.LeadsTo (fun s => s.runs i = .sending) (Entered i) ∧ ∀ n, ¬Dropped (r.state n) i := by
  have hinv := inv_of_schedule hinit hguard
  exact ⟨sending_leadsTo_entered hcap hinv htake (hput i), fun n => (hinv n).notDropped i⟩

/-- A run that takes the mutex before a full queue, while the loop drains it. -/
def drained : List (Action Unit Unit) :=
  [.runLock (), .loopTake, .runPut (), .runUnlock (), .loopLock, .loopSend, .loopTake, .loopLock,
    .loopSend]

/-- The response of that run enters the queue. -/
theorem responses_enter_drained : ∃ r : Schedule (step (ι := Unit) (κ := Unit) 1),
    r.state 0 = { queue := [.other] } ∧ (r.state 1).runs () = .sending ∧
      ∃ m, 1 ≤ m ∧ Entered () (r.state m) := by
  have h : (run (step 1) { queue := [.other] } drained).map (fun t =>
      ((step 1 t .loopTake).isSome, (step 1 t (.runPut ())).isSome)) = some (false, false) := by
    decide
  obtain ⟨t, hrun, ht⟩ := Option.map_eq_some_iff.mp h
  simp only [Prod.mk.injEq] at ht
  obtain ⟨htake, hput⟩ := ht
  -- After the drained run only steps elsewhere are taken, and neither action is left enabled.
  have hrest : step 1 t .elsewhere = some t := rfl
  have hinit : Initial (ι := Unit) (κ := Unit) 1 { queue := [.other] } :=
    ⟨Nat.le_refl 1, rfl, by simp, fun _ => rfl, fun _ => rfl⟩
  have hg : ∀ n, Prompt 1 ((Schedule.ofRun hrun hrest).state n)
      ((Schedule.ofRun hrun hrest).action n) :=
    Schedule.guard_ofRun hrun hrest (by decide) trivial
  have hfairTake : (Schedule.ofRun hrun hrest).WeaklyFair (· = .loopTake) := by
    refine Schedule.weaklyFair_ofRun hrun hrest fun ⟨a, ha, hsome⟩ => ?_
    subst ha
    simp [htake] at hsome
  have hfairPut : ∀ i, (Schedule.ofRun hrun hrest).WeaklyFair (· = .runPut i) := by
    intro i
    refine Schedule.weaklyFair_ofRun hrun hrest fun ⟨a, ha, hsome⟩ => ?_
    subst ha
    simp [hput] at hsome
  have hsnd : ((Schedule.ofRun hrun hrest).state 1).runs () = .sending := rfl
  exact ⟨Schedule.ofRun hrun hrest, rfl, hsnd,
    (responses_enter 1 Nat.one_pos _ hinit hg hfairTake hfairPut ()).1 1 hsnd⟩

/-- The capacity of the queue of the agent. -/
def queueCapacity : Nat := 1000

/-- A full queue: the loop has taken a message and waits for the mutex, another message takes
its place, and a run has taken the mutex. Then the response is dropped. -/
theorem response_dropped :
    Initial (ι := Unit) (κ := Unit) queueCapacity
      { queue := List.replicate queueCapacity .other } ∧
    ∃ s, run (step (ι := Unit) (κ := Unit) queueCapacity)
        { queue := List.replicate queueCapacity .other }
        [.loopTake, .put, .runLock (), .runTimeout ()] = some s ∧ Dropped s () := by
  have h : (run (step (ι := Unit) (κ := Unit) queueCapacity)
      { queue := List.replicate queueCapacity .other }
      [.loopTake, .put, .runLock (), .runTimeout ()]).map (fun s => s.runs ()) =
        some (.unlocking false) := by
    decide +kernel
  obtain ⟨s, hrun, hs⟩ := Option.map_eq_some_iff.mp h
  exact ⟨⟨by simp, rfl, by simp, fun _ => rfl, fun _ => rfl⟩, s, hrun, .inl hs⟩

end SecureBinding.Agent.OutgoingQueue
