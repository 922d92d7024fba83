import SecureBinding.Go.Strings
import SecureBinding.Lib.Transition

/-!
# Agent.RunRequests

Run requests in chunks: `sendRunReqInChunks` of the CVMS server cuts a request up, and the
`runRequestManager` of the client puts it together again (`agent/cvms/api/grpc/server.go` and
`client.go`).

The manager knows a request by its id alone. A timer of each request deletes what is stored
under the id once no chunk has come for a while. It does so in a goroutine of its own, which
may wait for the lock while the request goes on, completes, or is replaced by a newer one. A
timer that fires can be stopped or reset too late.

The system is the manager with its timers and these goroutines, and for each id the request
that is under way. Chunks of one id arrive in order. A server may give a request up, as when
the stream breaks; the manager is not told.
-/

namespace SecureBinding.Agent.RunRequests

open Go

/-! ### The server -/

structure RunReqChunk where
  data : Bytes
  isLast : Bool

def bufferSize : Nat := 1024 * 1024

/-- The loop of `sendRunReqInChunks` over what is left in its buffer. Only the end of the
buffer makes a chunk the last one, and that chunk is empty. `fuel` bounds the turns. -/
def sendLoop : Nat → Bytes → List RunReqChunk
  | 0, _ => [⟨[], true⟩]
  | fuel + 1, data =>
    if data = [] then [⟨[], true⟩]
    else ⟨data.take bufferSize, false⟩ :: sendLoop fuel (data.drop bufferSize)

/-- `sendRunReqInChunks`, for the marshalled request. -/
def sendRunReqInChunks (data : Bytes) : List RunReqChunk := sendLoop data.length data

/-! ### The manager -/

/-- `runRequest`; its timer is a number. -/
structure RunRequest where
  buffer : Bytes
  timer : Nat

/-- A timer of `time.AfterFunc` that calls `timeoutRequest(id)`. -/
structure Timer where
  id : GoString
  armed : Bool

/-- `runRequestManager`, all timers it has made, and the ids of the `timeoutRequest` calls
that were started by a timer and have not run. -/
structure Manager where
  requests : GoString → Option RunRequest := fun _ => none
  timers : List Timer := []
  waiting : List GoString := []

/-- `Reset` and `Stop` of a timer. -/
def Manager.setTimer (m : Manager) (n : Nat) (armed : Bool) : Manager :=
  { m with timers := m.timers.modify n fun timer => { timer with armed } }

/-- The entry that `addChunk` works on. -/
def Manager.entry (m : Manager) (id : GoString) : RunRequest × Manager :=
  match m.requests id with
  | some req => (req, m)
  | none => (⟨[], m.timers.length⟩, { m with timers := m.timers ++ [⟨id, true⟩] })

/-- `addChunk`: the buffer, when it is complete. -/
def Manager.addChunk (m : Manager) (id : GoString) (chunk : Bytes) (isLast : Bool) :
    Option Bytes × Manager :=
  let (req, m) := m.entry id
  let req := { req with buffer := req.buffer ++ chunk }
  let m := m.setTimer req.timer true
  if isLast then
    (some req.buffer,
      { m with requests := Function.update m.requests id none }.setTimer req.timer false)
  else (none, { m with requests := Function.update m.requests id (some req) })

def Manager.fire (m : Manager) (n : Nat) : Option Manager :=
  match m.timers[n]? with
  | some ⟨id, true⟩ =>
    some { m with timers := m.timers.set n ⟨id, false⟩, waiting := m.waiting ++ [id] }
  | _ => none

/-- A waiting call of `timeoutRequest` runs. -/
def Manager.timeoutRequest (m : Manager) (j : Nat) : Option Manager :=
  match m.waiting[j]? with
  | some id =>
    some { m with
      requests := Function.update m.requests id none, waiting := m.waiting.eraseIdx j }
  | none => none

/-! ### The system -/

/-- A run request: its id, and what it is marshalled to. -/
structure Request where
  id : GoString
  data : Bytes

/-- A request under way: the chunks that have not arrived, and if any has. -/
structure Sending (ι : Type) where
  request : ι
  rest : List RunReqChunk
  arriving : Bool := false

/-- `completed` records what `addChunk` has reported, with the request whose chunk it was. -/
structure State (ι : Type) where
  manager : Manager := {}
  sending : GoString → Option (Sending ι) := fun _ => none
  completed : List (ι × Bytes) := []

inductive Action (ι : Type)
  | send (i : ι)
  | deliver (id : GoString)
  | giveUp (id : GoString)
  | fire (n : Nat)
  | timeout (j : Nat)
  deriving Repr

variable {ι : Type}

def step (reqs : ι → Request) (s : State ι) : Action ι → Option (State ι)
  | .send i =>
    match s.sending (reqs i).id with
    | some _ => none
    | none =>
      some { s with
        sending := Function.update s.sending (reqs i).id
          (some { request := i, rest := sendRunReqInChunks (reqs i).data }) }
  | .deliver id =>
    match s.sending id with
    | some ⟨i, chunk :: rest, _⟩ =>
      let (buffer, manager) := s.manager.addChunk id chunk.data chunk.isLast
      some {
        manager
        sending := Function.update s.sending id
          (if rest = [] then none else some ⟨i, rest, true⟩)
        completed := (buffer.map (i, ·)).toList ++ s.completed }
    | _ => none
  | .giveUp id =>
    match s.sending id with
    | some _ => some { s with sending := Function.update s.sending id none }
    | none => none
  | .fire n => (s.manager.fire n).map fun manager => { s with manager }
  | .timeout j => (s.manager.timeoutRequest j).map fun manager => { s with manager }

/-- What was reported as complete is the whole of the request. -/
def AllOrNothing (reqs : ι → Request) (s : State ι) : Prop :=
  ∀ i buffer, (i, buffer) ∈ s.completed → buffer = (reqs i).data

/-- A request of this id is arriving, and its server goes on with it. -/
def Arriving (s : State ι) (id : GoString) : Prop :=
  ∃ x, s.sending id = some x ∧ x.arriving = true

/-- The first chunk of a request finds nothing of another one with its id, and
`timeoutRequest` runs for no request that is arriving. -/
def Orderly (s : State ι) : Action ι → Prop
  | .deliver id => ¬Arriving s id → s.manager.requests id = none
  | .timeout j => ∀ id, s.manager.waiting[j]? = some id → ¬Arriving s id
  | _ => True

instance (s : State ι) (id : GoString) : Decidable (Arriving s id) :=
  decidable_of_iff ((s.sending id).any (·.arriving) = true)
    (by cases h : s.sending id <;> simp [Arriving, h])

instance (s : State ι) : ∀ a, Decidable (Orderly s a)
  | .deliver id => inferInstanceAs (Decidable (¬Arriving s id → s.manager.requests id = none))
  | .timeout j =>
    match h : s.manager.waiting[j]? with
    | none => isTrue (by simp [Orderly, h])
    | some id => decidable_of_iff (¬Arriving s id) (by simp [Orderly, h])
  | .send _ => isTrue trivial
  | .giveUp _ => isTrue trivial
  | .fire _ => isTrue trivial

/-! ### What the chunks carry -/

/-- The chunks carry `data`, and the last one and no other is marked as such. -/
inductive Cut : List RunReqChunk → Bytes → Prop
  | last (data : Bytes) : Cut [⟨data, true⟩] data
  | more {rest : List RunReqChunk} {data : Bytes} (chunk : Bytes) (h : Cut rest data) :
    Cut (⟨chunk, false⟩ :: rest) (chunk ++ data)

theorem Cut.ne_nil {rest : List RunReqChunk} {data : Bytes} (h : Cut rest data) : rest ≠ [] := by
  cases h <;> simp

theorem cut_sendLoop {fuel : Nat} {data : Bytes} (h : data.length ≤ fuel) :
    Cut (sendLoop fuel data) data := by
  induction fuel generalizing data with
  | zero =>
    obtain rfl : data = [] := List.length_eq_zero_iff.mp (Nat.le_zero.mp h)
    exact .last []
  | succ fuel ih =>
    unfold sendLoop
    split
    · subst data
      exact .last []
    · -- Every turn takes something off, so the fuel suffices for the rest.
      have hlen : (data.drop bufferSize).length ≤ fuel := by
        simp only [List.length_drop, bufferSize]
        omega
      have hcut := Cut.more (data.take bufferSize) (ih hlen)
      rwa [List.take_append_drop] at hcut

theorem cut_sendRunReqInChunks (data : Bytes) : Cut (sendRunReqInChunks data) data :=
  cut_sendLoop (Nat.le_refl _)

/-! ### The manager, by its requests -/

section Manager

variable {m m' : Manager} {id : GoString}

def Manager.stored (m : Manager) (id : GoString) : Bytes :=
  match m.requests id with
  | some req => req.buffer
  | none => []

theorem entry_buffer : (m.entry id).1.buffer = m.stored id := by
  unfold Manager.entry Manager.stored
  split <;> simp

theorem entry_requests : (m.entry id).2.requests = m.requests := by
  unfold Manager.entry
  split <;> rfl

/-- `addChunk` appends to what is stored, -/
theorem addChunk_more (m : Manager) (id : GoString) (chunk : Bytes) :
    (m.addChunk id chunk false).1 = none ∧
      (m.addChunk id chunk false).2.requests = Function.update m.requests id
        (some ⟨m.stored id ++ chunk, (m.entry id).1.timer⟩) := by
  simp [Manager.addChunk, Manager.setTimer, entry_buffer, entry_requests]

/-- and hands it out with the last chunk. -/
theorem addChunk_last (m : Manager) (id : GoString) (chunk : Bytes) :
    (m.addChunk id chunk true).1 = some (m.stored id ++ chunk) ∧
      (m.addChunk id chunk true).2.requests = Function.update m.requests id none := by
  simp [Manager.addChunk, Manager.setTimer, entry_buffer, entry_requests]

theorem fire_requests {n : Nat} (h : m.fire n = some m') : m'.requests = m.requests := by
  unfold Manager.fire at h
  split at h
  · cases h
    rfl
  · cases h

theorem timeoutRequest_requests {j : Nat} (h : m.timeoutRequest j = some m') :
    ∃ id, m.waiting[j]? = some id ∧ m'.requests = Function.update m.requests id none := by
  unfold Manager.timeoutRequest at h
  split at h
  · cases h
    exact ⟨_, ‹_›, rfl⟩
  · cases h

end Manager

/-! ### Whole requests -/

/-- How much of a request under way has arrived, and that it is stored. -/
def Progress (reqs : ι → Request) (requests : GoString → Option RunRequest) (id : GoString)
    (x : Sending ι) : Prop :=
  ∃ before after, before ++ after = (reqs x.request).data ∧ Cut x.rest after ∧
    (x.arriving = true → ∃ timer, requests id = some ⟨before, timer⟩) ∧
    (x.arriving = false → before = [])

structure Inv (reqs : ι → Request) (s : State ι) : Prop where
  allOrNothing : AllOrNothing reqs s
  progress : ∀ id x, s.sending id = some x → Progress reqs s.manager.requests id x

variable {reqs : ι → Request} {s t : State ι} {a : Action ι} {id : GoString}

theorem inv_init : Inv reqs ({} : State ι) := ⟨fun _ _ h => by simp at h, fun _ _ h => by simp at h⟩

theorem Progress.congr {requests requests' : GoString → Option RunRequest} {x : Sending ι}
    (h : Progress reqs requests id x) (heq : requests' id = requests id) :
    Progress reqs requests' id x := by
  unfold Progress
  rwa [heq]

/-- What is stored when a chunk arrives, is what has arrived. -/
theorem stored_of_deliver {x : Sending ι} (hx : s.sending id = some x)
    (hg : Orderly s (.deliver id)) {before : Bytes}
    (hstd : x.arriving = true → ∃ timer, s.manager.requests id = some ⟨before, timer⟩)
    (hnone : x.arriving = false → before = []) : s.manager.stored id = before := by
  cases harriving : x.arriving with
  | true =>
    obtain ⟨timer, h⟩ := hstd harriving
    simp [Manager.stored, h]
  | false =>
    have hnot : ¬Arriving s id := by
      intro ⟨y, hy, hy'⟩
      obtain rfl : x = y := Option.some.inj (hx.symm.trans hy)
      simp [harriving] at hy'
    simp [Manager.stored, hg hnot, hnone harriving]

/-- A change at one id says nothing about the requests with another one. -/
theorem Inv.progress_update {requests : GoString → Option RunRequest} {sent : Option (Sending ι)}
    (hi : Inv reqs s) (hself : ∀ x, sent = some x → Progress reqs requests id x)
    (hoth : ∀ id', id' ≠ id → requests id' = s.manager.requests id') :
    ∀ id' x, Function.update s.sending id sent id' = some x → Progress reqs requests id' x := by
  refine (Function.forall_update_iff s.sending fun id' sent =>
    ∀ x, sent = some x → Progress reqs requests id' x).mpr ⟨hself, fun id' hid x hx => ?_⟩
  exact (hi.progress id' x hx).congr (hoth id' hid)

theorem inv_send {i : ι} (hi : Inv reqs s) : Inv reqs { s with
    sending := Function.update s.sending (reqs i).id
      (some { request := i, rest := sendRunReqInChunks (reqs i).data }) } := by
  refine ⟨hi.allOrNothing, hi.progress_update (fun x hx => ?_) fun _ _ => rfl⟩
  obtain rfl := Option.some.inj hx
  exact ⟨[], (reqs i).data, rfl, cut_sendRunReqInChunks _, by simp, fun _ => rfl⟩

theorem inv_giveUp (hi : Inv reqs s) :
    Inv reqs { s with sending := Function.update s.sending id none } :=
  ⟨hi.allOrNothing, hi.progress_update (fun _ hx => by cases hx) fun _ _ => rfl⟩

/-- A chunk that is stored: the request has arrived a bit further. -/
theorem inv_deliver_more {i : ι} {chunk : Bytes} {rest : List RunReqChunk} {arriving : Bool}
    (hi : Inv reqs s) (hg : Orderly s (.deliver id))
    (hx : s.sending id = some ⟨i, ⟨chunk, false⟩ :: rest, arriving⟩) :
    Inv reqs { s with
      manager := (s.manager.addChunk id chunk false).2
      sending := Function.update s.sending id (some ⟨i, rest, true⟩) } := by
  obtain ⟨-, hrqs⟩ := addChunk_more s.manager id chunk
  refine ⟨hi.allOrNothing, hi.progress_update (fun y hy => ?_) fun id' hid => ?_⟩
  · obtain rfl := Option.some.inj hy
    obtain ⟨before, after, hdata, hcut, hstd, hnone⟩ := hi.progress id _ hx
    rw [stored_of_deliver hx hg hstd hnone] at hrqs
    cases hcut with
    | more chunk hcut =>
      exact ⟨before ++ chunk, _, by rw [← hdata, List.append_assoc], hcut,
        fun _ => ⟨_, by rw [hrqs, Function.update_self]⟩, by simp⟩
  · rw [hrqs, Function.update_of_ne hid]

/-- The last chunk: what is handed out is the whole request. -/
theorem inv_deliver_last {i : ι} {chunk : Bytes} {arriving : Bool} (hi : Inv reqs s)
    (hg : Orderly s (.deliver id)) (hx : s.sending id = some ⟨i, [⟨chunk, true⟩], arriving⟩) :
    Inv reqs {
      manager := (s.manager.addChunk id chunk true).2
      sending := Function.update s.sending id none
      completed := (i, s.manager.stored id ++ chunk) :: s.completed } := by
  obtain ⟨-, hrqs⟩ := addChunk_last s.manager id chunk
  obtain ⟨before, after, hdata, hcut, hstd, hnone⟩ := hi.progress id _ hx
  have hbuffer : s.manager.stored id ++ chunk = (reqs i).data := by
    rw [stored_of_deliver hx hg hstd hnone]
    cases hcut with
    | last => exact hdata
  refine ⟨fun j buffer hj => ?_, hi.progress_update (fun _ hy => by cases hy) fun id' hid => ?_⟩
  · simp only [List.mem_cons] at hj
    obtain ⟨rfl, rfl⟩ | hj := hj
    · exact hbuffer
    · exact hi.allOrNothing j buffer hj
  · rw [hrqs, Function.update_of_ne hid]

theorem inv_deliver (hi : Inv reqs s) (hg : Orderly s (.deliver id))
    (h : step reqs s (.deliver id) = some t) : Inv reqs t := by
  simp only [step] at h
  split at h
  · rename_i i chunk rest arriving hx
    obtain ⟨_, _, _, hcut, -, -⟩ := hi.progress id _ hx
    cases hcut with
    | last =>
      have hlast := inv_deliver_last hi hg hx
      rw [(addChunk_last s.manager id _).1] at h
      cases h
      exact hlast
    | more chunk hcut =>
      have hmore := inv_deliver_more hi hg hx
      rw [(addChunk_more s.manager id chunk).1, if_neg hcut.ne_nil] at h
      cases h
      exact hmore
  · cases h

/-- A timeout takes away what is stored for a request that has not begun to arrive. -/
theorem inv_timeout {j : Nat} {m : Manager} (hi : Inv reqs s) (hg : Orderly s (.timeout j))
    (hm : s.manager.timeoutRequest j = some m) : Inv reqs { s with manager := m } := by
  obtain ⟨id, hwai, hrqs⟩ := timeoutRequest_requests hm
  refine ⟨hi.allOrNothing, fun id' x hx => ?_⟩
  by_cases hid : id' = id
  · subst hid
    have hnot : ¬x.arriving = true := fun h => hg id' hwai ⟨x, hx, h⟩
    obtain ⟨before, after, hdata, hcut, -, hnone⟩ := hi.progress id' x hx
    exact ⟨before, after, hdata, hcut, fun h => absurd h hnot, hnone⟩
  · refine (hi.progress id' x hx).congr ?_
    show m.requests id' = _
    rw [hrqs, Function.update_of_ne hid]

theorem inv_step (hi : Inv reqs s) (hg : Orderly s a) (h : step reqs s a = some t) :
    Inv reqs t := by
  cases a with
  | send i =>
    simp only [step] at h
    split at h
    · cases h
    · cases h
      exact inv_send hi
  | deliver id => exact inv_deliver hi hg h
  | giveUp id =>
    simp only [step] at h
    split at h
    · cases h
      exact inv_giveUp hi
    · cases h
  | fire n =>
    obtain ⟨m, hm, rfl⟩ := Option.map_eq_some_iff.mp h
    refine ⟨hi.allOrNothing, fun id x hx => (hi.progress id x hx).congr ?_⟩
    show m.requests id = _
    rw [fire_requests hm]
  | timeout j =>
    obtain ⟨m, hm, rfl⟩ := Option.map_eq_some_iff.mp h
    exact inv_timeout hi hg hm

/-! ### Two requests with one id -/

def sampleRequests : Fin 2 → Request
  | 0 => ⟨lit "c", [1, 2]⟩
  | 1 => ⟨lit "c", [3]⟩

/-- For every set of requests, every interleaving of chunks of different ids and every
placement of timer expirations: if the first chunk of each request finds nothing left of
another one, and no `timeoutRequest` runs for a request that is arriving, then whatever is
reported as complete is the whole of its request. -/
theorem allOrNothing_of_run {as : List (Action ι)} (hguard : Lib.Guarded (step reqs) Orderly {} as)
    (hrun : Lib.run (step reqs) {} as = some s) : AllOrNothing reqs s :=
  (Lib.invariant_of_run inv_step inv_init hguard hrun).allOrNothing

/-- The first request is given up and times out; then the second one arrives as it is. -/
theorem allOrNothing_sample : ∃ s,
    Lib.run (step sampleRequests) {} [.send 0, .deliver (lit "c"), .giveUp (lit "c"), .fire 0,
        .timeout 0, .send 1, .deliver (lit "c"), .deliver (lit "c")] = some s ∧
      s.completed = [(1, [3])] ∧ AllOrNothing sampleRequests s := by
  have h : (Lib.run (step sampleRequests) {} [.send 0, .deliver (lit "c"), .giveUp (lit "c"),
      .fire 0, .timeout 0, .send 1, .deliver (lit "c"), .deliver (lit "c")]).map (·.completed) =
        some [(1, [3])] := by
    decide
  obtain ⟨s, hrun, hs⟩ := Option.map_eq_some_iff.mp h
  exact ⟨s, hrun, hs, allOrNothing_of_run (by decide) hrun⟩

/-- What has been reported after a run. -/
def reported (as : List (Action (Fin 2))) : Option (List (Fin 2 × Bytes)) :=
  (Lib.run (step sampleRequests) {} as).map (·.completed)

/-- A timeout in the middle of a request leaves a suffix; one that comes late, after its
request is complete, does the same to a newer one; and what is left of a request that was
given up is put before a newer one. -/
theorem reported_wrong :
    reported [.send 0, .deliver (lit "c"), .fire 0, .timeout 0, .deliver (lit "c")] =
      some [(0, [])] ∧
    reported [.send 0, .deliver (lit "c"), .fire 0, .deliver (lit "c"), .send 1,
      .deliver (lit "c"), .timeout 0, .deliver (lit "c")] = some [(1, []), (0, [1, 2])] ∧
    reported [.send 0, .deliver (lit "c"), .giveUp (lit "c"), .send 1, .deliver (lit "c"),
      .deliver (lit "c")] = some [(1, [1, 2, 3])] := by
  decide

end SecureBinding.Agent.RunRequests
