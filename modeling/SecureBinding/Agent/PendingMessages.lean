import SecureBinding.Agent.MessageStore
import Mathlib.Data.List.Perm.Basic

/-!
# Agent.PendingMessages

The outgoing half of the CVMS client: on every connection it sends the messages that an
earlier connection could not send, and then those of its queue.

A message that cannot be sent is put into the store, and the next connection loads it from
there. But `sendPendingMessages` clears the store when it is done, and with it the messages
that it has just put back. What a connection loses is therefore exactly what it could not
resend (`step_conserves`), and a run of connections loses nothing if and only if every resend
succeeds (`conserved_iff`).

The connections are those of one process: `Load` decodes the file into the messages that the
process has in memory, and what happens to the store if it is started anew is the subject of
`SecureBinding.Agent.MessageStore`.
-/

namespace SecureBinding.Agent.PendingMessages

open Go Lib

variable {α : Type}

/-- The client as far as outgoing messages go. -/
structure Client (α : Type) where
  storage : FileStorage α
  /-- What the streams have accepted so far. Read by no function. -/
  sent : List α := []

/-- How a send goes, and when the message is stored if it fails. -/
structure Attempt where
  sent : Bool
  now : Time

/-- `sendStreamMessage`, and `storage.Add` if it fails: what both loops do with a message. -/
def Client.sendOrAdd (c : Codec α) (client : Client α) (msg : α) (attempt : Attempt) : Client α :=
  if attempt.sent then { client with sent := client.sent ++ [msg] }
  else { client with storage := (client.storage.add c msg attempt.now none).2 }

/-- The messages of a loop, one after the other. -/
def Client.sendAll (c : Codec α) : Client α → List α → (Nat → Attempt) → Client α
  | client, [], _ => client
  | client, msg :: msgs, attempt =>
    (client.sendOrAdd c msg (attempt 0)).sendAll c msgs fun n => attempt (n + 1)

def Client.sendPendingMessages (c : Codec α) (client : Client α) (pending : List (Message α))
    (attempt : Nat → Attempt) : Client α :=
  let client := client.sendAll c (pending.map (·.message)) attempt
  { client with storage := (client.storage.clear none).2 }

/-- `handleOutgoingMessages` over one connection, with what comes from the queue until the
connection is lost. -/
def Client.handleOutgoingMessages (c : Codec α) (client : Client α) (resend : Nat → Attempt)
    (queue : List α) (send : Nat → Attempt) : Client α :=
  let (pendingMsgs, storage) := client.storage.load c none
  let client := { client with storage }
  let client :=
    match pendingMsgs with
    | .error _ => client
    | .ok pending => client.sendPendingMessages c pending resend
  client.sendAll c queue send

/-- A connection: how the resends go, what comes from the queue, and how its sends go. -/
structure Connection (α : Type) where
  resend : Nat → Attempt
  queue : List α
  send : Nat → Attempt

def step (c : Codec α) (client : Client α) (conn : Connection α) : Option (Client α) :=
  some (client.handleOutgoingMessages c conn.resend conn.queue conn.send)

/-- The messages that the next connection is offered. -/
def stored (c : Codec α) (client : Client α) : List α :=
  match (client.storage.load c none).1 with
  | .ok msgs => msgs.map (·.message)
  | .error _ => []

/-! ### What a loop sends and what it stores -/

/-- The messages whose send succeeds, or does not. -/
def select (sent : Bool) : List α → (Nat → Attempt) → List α
  | [], _ => []
  | msg :: msgs, attempt =>
    let rest := select sent msgs fun n => attempt (n + 1)
    if (attempt 0).sent = sent then msg :: rest else rest

theorem select_perm (msgs : List α) (attempt : Nat → Attempt) :
    (select true msgs attempt ++ select false msgs attempt).Perm msgs := by
  induction msgs generalizing attempt with
  | nil => exact .refl _
  | cons msg msgs ih =>
    have ih := ih fun n => attempt (n + 1)
    cases hsent : (attempt 0).sent with
    | true => simpa [select, hsent] using ih
    | false =>
      simp only [select, hsent]
      exact List.perm_middle.trans (ih.cons msg)

theorem select_false_eq_nil_iff {msgs : List α} {attempt : Nat → Attempt} :
    select false msgs attempt = [] ↔ ∀ i < msgs.length, (attempt i).sent = true := by
  induction msgs generalizing attempt with
  | nil => simp [select]
  | cons msg msgs ih =>
    rw [List.length_cons, Nat.forall_lt_succ_left, ← ih]
    cases hsent : (attempt 0).sent <;> simp [select, hsent]

variable {c : Codec α} {storable : Message α → Prop}

theorem sent_sendAll (client : Client α) (msgs : List α) (attempt : Nat → Attempt) :
    (client.sendAll c msgs attempt).sent = client.sent ++ select true msgs attempt := by
  induction msgs generalizing client attempt with
  | nil => simp [Client.sendAll, select]
  | cons msg msgs ih =>
    rw [Client.sendAll, ih]
    cases hsent : (attempt 0).sent <;> simp [Client.sendOrAdd, select, hsent]

/-- What a loop cannot send is stored after what is there. -/
theorem synced_sendAll (hc : c.Lossless storable) {client : Client α} {held : List (Message α)}
    (h : client.storage.Synced c held) (hheld : ∀ m ∈ held, storable m) (msgs : List α)
    (attempt : Nat → Attempt) (hmsgs : ∀ msg ∈ msgs, ∀ i, storable ⟨msg, (attempt i).now⟩) :
    ∃ added, (client.sendAll c msgs attempt).storage.Synced c (held ++ added) ∧
      added.map (·.message) = select false msgs attempt := by
  induction msgs generalizing client held attempt with
  | nil => exact ⟨[], by simpa [Client.sendAll] using h, rfl⟩
  | cons msg msgs ih =>
    have hrest : ∀ msg ∈ msgs, ∀ i, storable ⟨msg, (attempt (i + 1)).now⟩ :=
      fun m hm i => hmsgs m (List.mem_cons_of_mem _ hm) (i + 1)
    cases hsent : (attempt 0).sent with
    | true =>
      have hnext : (client.sendOrAdd c msg (attempt 0)).storage.Synced c held := by
        simpa [Client.sendOrAdd, hsent] using h
      obtain ⟨added, hadd, hmap⟩ := ih hnext hheld (fun n => attempt (n + 1)) hrest
      exact ⟨added, hadd, by simpa [select, hsent] using hmap⟩
    | false =>
      have hall : ∀ m ∈ held ++ [⟨msg, (attempt 0).now⟩], storable m := by
        rw [List.forall_mem_append, List.forall_mem_singleton]
        exact ⟨hheld, hmsgs msg List.mem_cons_self 0⟩
      have hnext : (client.sendOrAdd c msg (attempt 0)).storage.Synced c
          (held ++ [⟨msg, (attempt 0).now⟩]) := by
        simpa [Client.sendOrAdd, hsent] using h.add hc msg (attempt 0).now hall
      obtain ⟨added, hadd, hmap⟩ := ih hnext hall (fun n => attempt (n + 1)) hrest
      refine ⟨⟨msg, (attempt 0).now⟩ :: added, ?_, ?_⟩
      · simpa [Client.sendAll] using hadd
      · simp [select, hsent, hmap]

theorem stored_of_holds {client : Client α} {msgs : List (Message α)}
    (h : client.storage.Holds c msgs) : stored c client = msgs.map (·.message) := by
  rw [stored, h.load]

/-! ### What a connection conserves -/

section Connection

variable {client : Client α} {msgs : List (Message α)} (h : client.storage.Holds c msgs)
  (resend : Nat → Attempt) (queue : List α) (send : Nat → Attempt)
include h

theorem handleOutgoingMessages_eq :
    client.handleOutgoingMessages c resend queue send =
      ({ client with storage := (client.storage.load c none).2 }.sendPendingMessages c msgs
        resend).sendAll c queue send := by
  have hload : client.storage.load c none = (.ok msgs, (client.storage.load c none).2) :=
    Prod.ext h.load rfl
  rw [Client.handleOutgoingMessages, hload]

theorem sent_handleOutgoingMessages :
    (client.handleOutgoingMessages c resend queue send).sent =
      client.sent ++ select true (stored c client) resend ++ select true queue send := by
  rw [handleOutgoingMessages_eq h, sent_sendAll, Client.sendPendingMessages, sent_sendAll,
    stored_of_holds h]

/-- The store is empty after the resends, whatever they added to it. -/
theorem holds_handleOutgoingMessages (hc : c.Lossless storable)
    (hqueue : ∀ msg ∈ queue, ∀ i, storable ⟨msg, (send i).now⟩) :
    ∃ added, (client.handleOutgoingMessages c resend queue send).storage.Holds c added ∧
      added.map (·.message) = select false queue send := by
  have hclr : ({ client with storage := (client.storage.load c none).2 }.sendPendingMessages
      c msgs resend).storage.Synced c [] := FileStorage.synced_clear hc _
  obtain ⟨added, hadd, hmap⟩ := synced_sendAll hc hclr (by simp) queue send hqueue
  rw [← handleOutgoingMessages_eq h] at hadd
  exact ⟨added, hadd.toHolds, hmap⟩

end Connection

/-- What comes from the queue can be stored, whenever that is. -/
def Connection.Storable (storable : Message α → Prop) (conn : Connection α) : Prop :=
  ∀ msg ∈ conn.queue, ∀ i, storable ⟨msg, (conn.send i).now⟩

/-- What a connection loses. -/
def lost (c : Codec α) (client : Client α) (conn : Connection α) : List α :=
  select false (stored c client) conn.resend

/-- Every message that was stored or queued is sent, stored or lost, once. -/
theorem step_conserves (hc : c.Lossless storable) {client after : Client α}
    {msgs : List (Message α)} (h : client.storage.Holds c msgs) {conn : Connection α}
    (hconn : conn.Storable storable) (hstep : step c client conn = some after) :
    (∃ msgs, after.storage.Holds c msgs) ∧
      (after.sent ++ stored c after ++ lost c client conn).Perm
        (client.sent ++ stored c client ++ conn.queue) := by
  obtain ⟨resend, queue, send⟩ := conn
  obtain rfl := Option.some.inj hstep
  obtain ⟨added, hadd, hmap⟩ := holds_handleOutgoingMessages h resend queue send hc hconn
  refine ⟨⟨added, hadd⟩, ?_⟩
  rw [stored_of_holds hadd, hmap, sent_handleOutgoingMessages h]
  have hpen := select_perm (stored c client) resend
  have hque := select_perm queue send
  show (client.sent ++ select true (stored c client) resend ++ select true queue send ++
    select false queue send ++ select false (stored c client) resend).Perm _
  -- The two halves of the queue are brought together, and then those of the pending messages.
  calc
    client.sent ++ select true (stored c client) resend ++ select true queue send ++
          select false queue send ++ select false (stored c client) resend
        = client.sent ++ (select true (stored c client) resend ++
            ((select true queue send ++ select false queue send) ++
              select false (stored c client) resend)) := by simp
    List.Perm _ (client.sent ++ (select true (stored c client) resend ++
            (select false (stored c client) resend ++ queue))) :=
          ((hque.append_right _).trans List.perm_append_comm |>.append_left _).append_left _
    _ = client.sent ++ ((select true (stored c client) resend ++
            select false (stored c client) resend) ++ queue) := by simp
    List.Perm _ (client.sent ++ (stored c client ++ queue)) := (hpen.append_right _).append_left _
    _ = client.sent ++ stored c client ++ queue := by simp

/-- Every message that the connection is offered can be sent again. -/
def AllResent (c : Codec α) (client : Client α) (conn : Connection α) : Prop :=
  ∀ i < (stored c client).length, (conn.resend i).sent = true

theorem lost_eq_nil_iff {client : Client α} {conn : Connection α} :
    lost c client conn = [] ↔ AllResent c client conn :=
  select_false_eq_nil_iff

theorem run_conserves (hc : c.Lossless storable) {client after : Client α}
    {msgs : List (Message α)} (h : client.storage.Holds c msgs) {conns : List (Connection α)}
    (hconns : ∀ conn ∈ conns, conn.Storable storable)
    (hrun : run (step c) client conns = some after) :
    ∃ missing, (after.sent ++ stored c after ++ missing).Perm
        (client.sent ++ stored c client ++ conns.flatMap Connection.queue) ∧
      (missing = [] ↔ Guarded (step c) (AllResent c) client conns) := by
  induction conns generalizing client msgs with
  | nil =>
    obtain rfl := Option.some.inj hrun
    exact ⟨[], .refl _, by simp [Guarded]⟩
  | cons conn conns ih =>
    obtain ⟨next, hstep, hrun⟩ := run_cons_eq_some_iff.mp hrun
    rw [List.forall_mem_cons] at hconns
    obtain ⟨⟨held, hheld⟩, hperm⟩ := step_conserves hc h hconns.1 hstep
    obtain ⟨missing, hrest, hiff⟩ := ih hheld hconns.2 hrun
    -- What is missing in the end is what this connection loses and what the later ones lose.
    refine ⟨missing ++ lost c client conn, ?_, ?_⟩
    · rw [List.flatMap_cons]
      calc
        after.sent ++ stored c after ++ (missing ++ lost c client conn)
            = (after.sent ++ stored c after ++ missing) ++ lost c client conn := by simp
        List.Perm _ ((next.sent ++ stored c next ++ conns.flatMap Connection.queue) ++
              lost c client conn) := hrest.append_right _
        List.Perm _ (((next.sent ++ stored c next) ++ lost c client conn) ++
              conns.flatMap Connection.queue) := by
            simpa using (List.perm_append_comm.append_left (next.sent ++ stored c next))
        List.Perm _ ((client.sent ++ stored c client ++ conn.queue) ++
              conns.flatMap Connection.queue) := hperm.append_right _
        _ = client.sent ++ stored c client ++ (conn.queue ++ conns.flatMap Connection.queue) := by
            simp
    · rw [guarded_cons_of_step_eq_some hstep, List.append_eq_nil_iff, hiff, lost_eq_nil_iff,
        and_comm]

/-- Every message that was stored, or came from the queue, has been sent or is offered to the
next connection, if and only if every connection could resend all it was offered. -/
theorem conserved_iff (c : Codec α) (storable : Message α → Prop) (hc : c.Lossless storable)
    (client after : Client α) (msgs : List (Message α)) (h : client.storage.Holds c msgs)
    (conns : List (Connection α)) (hconns : ∀ conn ∈ conns, conn.Storable storable)
    (hrun : run (step c) client conns = some after) :
    (after.sent ++ stored c after).Perm
        (client.sent ++ stored c client ++ conns.flatMap Connection.queue) ↔
      Guarded (step c) (AllResent c) client conns := by
  obtain ⟨missing, hperm, hiff⟩ := run_conserves hc h hconns hrun
  rw [← hiff]
  refine ⟨fun hall => ?_, fun hnil => by simpa [hnil] using hperm⟩
  have hlen := hperm.length_eq.trans hall.length_eq.symm
  rw [List.length_append] at hlen
  exact List.length_eq_zero_iff.mp (by omega)

/-! ### Losses -/

open MessageStore (sampleJson sampleJson_faithful encodeAll response)

/-- The times for which the small JSON has a text. -/
def ShortTime (m : MessageStore.Stored UInt8) : Prop := 0 ≤ m.time ∧ m.time < 256

theorem exists_encodeAll {msgs : List (MessageStore.Stored UInt8)} (h : ∀ m ∈ msgs, ShortTime m) :
    ∃ data, encodeAll msgs = some data := by
  induction msgs with
  | nil => exact ⟨_, rfl⟩
  | cons m msgs ih =>
    obtain ⟨htime, hrest⟩ := List.forall_mem_cons.mp h
    obtain ⟨data, hdata⟩ := ih hrest
    rw [ShortTime] at htime
    exact ⟨_, by rw [encodeAll, if_pos htime, hdata]; rfl⟩

theorem sampleJson_lossless : sampleJson.codec.Lossless ShortTime := by
  refine MessageStore.codec_lossless sampleJson_faithful (fun msgs h => ?_) fun _ _ _ _ _ => rfl
  obtain ⟨data, hdata⟩ := exists_encodeAll h
  exact ⟨_, by simp only [sampleJson, hdata]; rfl⟩

/-- A client that has stored the response 7. -/
def oneStored : Client (Option (MessageStore.ClientStreamMessage UInt8)) :=
  { storage := (FileStorage.add sampleJson.codec {} (response 7) 0 none).2 }

theorem holds_oneStored : oneStored.storage.Holds sampleJson.codec [⟨response 7, 0⟩] := by
  have hempty : ({} : FileStorage _).Synced sampleJson.codec [] :=
    ⟨⟨fun _ => rfl, fun _ hdata => nomatch hdata⟩, rfl⟩
  exact (hempty.add sampleJson_lossless (response 7) 0 (by simp [ShortTime])).toHolds

/-- The resend succeeds, and then the send of the response 8 fails. -/
theorem conserved_oneStored :
    ∃ after, run (step sampleJson.codec) oneStored
        [⟨fun _ => ⟨true, 1⟩, [response 8], fun _ => ⟨false, 2⟩⟩] = some after ∧
      stored sampleJson.codec after = [response 8] ∧
      (after.sent ++ stored sampleJson.codec after).Perm [response 7, response 8] := by
  refine ⟨_, rfl, rfl, ?_⟩
  exact (conserved_iff sampleJson.codec ShortTime sampleJson_lossless oneStored _ _ holds_oneStored
    [⟨fun _ => ⟨true, 1⟩, [response 8], fun _ => ⟨false, 2⟩⟩]
    (by simp [Connection.Storable, ShortTime]) rfl).mpr
    ⟨fun _ _ => rfl, fun _ _ => trivial⟩

/-- The resend fails: the response 7 has not been sent, and the next connection is not offered
it. -/
theorem failed_resend_lost :
    ∃ after, run (step sampleJson.codec) oneStored
        [⟨fun _ => ⟨false, 1⟩, [], fun _ => ⟨true, 2⟩⟩] = some after ∧
      stored sampleJson.codec oneStored = [response 7] ∧ after.sent = [] ∧
      stored sampleJson.codec after = [] :=
  ⟨_, rfl, rfl, rfl, rfl⟩

end SecureBinding.Agent.PendingMessages
