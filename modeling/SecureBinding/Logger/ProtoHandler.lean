import SecureBinding.Go.Strings
import SecureBinding.Go.Time
import SecureBinding.Lib.Except

/-!
# Logger.ProtoHandler

`Handle` of `internal/logger` cuts a log message into chunks of 500 bytes. Each is put on the
queue of the CVMS client and then written as a line of JSON.

The cuts are made at bytes, not at characters. protojson refuses text that is not UTF-8, so a
character across a cut ends the message there, with half of it already on the queue
(`handle_delivers_iff`).

The queue takes every message. What `slog.Info` makes of the record is left out.
-/

namespace SecureBinding.Logger

open Go Lib

/-- `AgentLog` of `cvms` and of `events`. -/
structure AgentLog where
  message : GoString
  computationId : GoString
  level : GoString
  timestamp : Time

/-- `protojson.Marshal` and the writer of the handler. -/
structure Env where
  marshal : AgentLog → Except GoString Bytes
  write : Bytes → Except GoString Unit

/-- What is put on the queue, the lines that are written, and how the call ends. -/
structure Handled where
  queue : List AgentLog
  lines : List Bytes
  result : Except GoString Unit

def chunkSize : Nat := 500

def numChunks (message : GoString) : Nat := (message.length + chunkSize - 1) / chunkSize

/-- `message[start:end]` of round `i`. -/
def chunk (message : GoString) (i : Nat) : GoString :=
  slice message (i * chunkSize) (min (i * chunkSize + chunkSize) message.length)

def writeLine (env : Env) (log : AgentLog) : Except GoString Bytes := do
  let b ← env.marshal log
  env.write b
  env.write (lit "\n")
  return b ++ lit "\n"

/-- The rounds of `Handle`. -/
def handleChunks (env : Env) : List AgentLog → Handled
  | [] => ⟨[], [], .ok ()⟩
  | log :: logs =>
    -- The log is on the queue before it is known whether it can be marshalled.
    match writeLine env log with
    | .error err => ⟨[log], [], .error err⟩
    | .ok line =>
      let rest := handleChunks env logs
      ⟨log :: rest.queue, line :: rest.lines, rest.result⟩

/-- `Handle` of a record, given as the log it would be in one piece. -/
def handle (env : Env) (record : AgentLog) : Handled :=
  handleChunks env ((List.range (numChunks record.message)).map fun i =>
    { record with message := chunk record.message i })

/-! ### Chunks -/

section Chunks

variable {message : GoString} {i : Nat}

theorem chunk_eq : chunk message i = (message.drop (i * chunkSize)).take chunkSize := by
  rw [chunk, slice, ← List.take_eq_take_min, List.drop_take, Nat.add_sub_cancel_left]

theorem flatMap_chunk : (List.range (numChunks message)).flatMap (chunk message) = message := by
  have htake : ∀ n, (List.range n).flatMap (chunk message) = message.take (n * chunkSize) := by
    intro n
    induction n with
    | zero => simp
    | succ n ih => rw [List.range_succ, List.flatMap_append, ih, List.flatMap_singleton, chunk_eq,
        Nat.succ_mul, List.take_add]
  rw [htake, List.take_of_length_le]
  simp only [numChunks, chunkSize]
  omega

/-- The chunks of valid text are valid exactly if none starts with a continuation byte. -/
theorem validString_chunk_iff (h : validString message = true) :
    (∀ i < numChunks message, validString (chunk message i) = true) ↔
      ∀ i a, message[i * chunkSize]? = some a → isCont a = false := by
  constructor
  · intro hall i a ha
    have hlt := (List.getElem?_eq_some_iff.mp ha).1
    have hval := hall i (by simp only [numChunks, chunkSize] at hlt ⊢; omega)
    have hhead : (chunk message i)[0]? = some a := by
      rw [chunk_eq, List.getElem?_take_of_lt (by decide), List.getElem?_drop, Nat.add_zero, ha]
    rcases hc : chunk message i with _ | ⟨b, rest⟩
    · simp [hc] at hhead
    · rw [hc] at hhead hval
      cases hhead
      exact not_isCont_of_runeLen ((validString_iff (List.cons_ne_nil _ _)).mp hval).1
  · intro hnone i _
    rw [chunk_eq]
    refine (validString_cut (validString_cut h (hnone i)).2 fun a ha => hnone (i + 1) a ?_).1
    rwa [List.getElem?_drop, ← Nat.succ_mul] at ha

end Chunks

/-! ### Delivery -/

variable {env : Env} {record : AgentLog} {logs : List AgentLog}

/-- The message arrives whole, on the queue and in the lines. -/
structure Delivered (env : Env) (message : GoString) (out : Handled) : Prop where
  result : out.result = .ok ()
  queue : out.queue.flatMap AgentLog.message = message
  lines : List.Forall₂ (fun log line => writeLine env log = .ok line) out.queue out.lines
  chunks : ∀ log ∈ out.queue, validString log.message = true ∧ log.message.length ≤ 500

theorem handleChunks_ok_iff : (handleChunks env logs).result = .ok () ↔
    ∀ log ∈ logs, ∃ line, writeLine env log = .ok line := by
  induction logs with
  | nil => simp [handleChunks]
  | cons log logs ih =>
    rw [List.forall_mem_cons, ← ih, handleChunks]
    cases writeLine env log <;> simp

theorem handleChunks_of_ok (h : (handleChunks env logs).result = .ok ()) :
    (handleChunks env logs).queue = logs ∧ List.Forall₂ (fun log line => writeLine env log = .ok line)
      logs (handleChunks env logs).lines := by
  induction logs with
  | nil => exact ⟨rfl, .nil⟩
  | cons log logs ih =>
    rw [handleChunks] at h ⊢
    cases hline : writeLine env log with
    | error err => simp [hline] at h
    | ok line =>
      rw [hline] at h
      obtain ⟨hqueue, hlines⟩ := ih h
      exact ⟨congrArg (log :: ·) hqueue, .cons hline hlines⟩

/-- A message arrives whole exactly if none of its characters lies across a multiple of 500
bytes, that is, if no continuation byte stands there. -/
theorem handle_delivers_iff (hwrite : ∀ b, env.write b = .ok ())
    (hmarshal : ∀ message, (∃ b, env.marshal { record with message } = .ok b) ↔
      validString message = true) (hvalid : validString record.message = true) :
    Delivered env record.message (handle env record) ↔
      ∀ i a, record.message[i * chunkSize]? = some a → isCont a = false := by
  rw [← validString_chunk_iff hvalid]
  have hok : (handle env record).result = .ok () ↔
      ∀ i < numChunks record.message, validString (chunk record.message i) = true := by
    rw [handle, handleChunks_ok_iff]
    simp [writeLine, bind_ok_iff, hwrite, ← hmarshal]
  refine ⟨fun h => hok.mp h.result, fun h => ?_⟩
  obtain ⟨hqueue, hlines⟩ := handleChunks_of_ok (hok.mpr h)
  refine ⟨hok.mpr h, ?_, ?_, ?_⟩ <;> rw [handle, hqueue]
  · rw [List.flatMap_map]
    exact flatMap_chunk
  · exact hlines
  · simp only [List.forall_mem_map, List.mem_range]
    intro i hi
    refine ⟨h i hi, ?_⟩
    rw [chunk_eq]
    exact List.length_take_le _ _

/-- A handler whose messages are their own lines. -/
def plainEnv : Env where
  marshal log := if validString log.message then .ok log.message else .error (lit "invalid UTF-8")
  write _ := .ok ()

/-- Of 499 letters and an umlaut, only the first byte of the umlaut is queued. -/
def acrossCut : AgentLog := ⟨List.replicate 499 0x61 ++ [0xc3, 0xa4], [], [], 0⟩

/-- After one letter less, the second of two umlauts begins the second chunk. -/
def besideCut : AgentLog := ⟨List.replicate 498 0x61 ++ [0xc3, 0xa4, 0xc3, 0xa4], [], [], 0⟩

theorem handle_delivers_sample :
    (handle plainEnv besideCut).queue.length = 2 ∧
      Delivered plainEnv besideCut.message (handle plainEnv besideCut) := by
  refine ⟨by decide +kernel, (@handle_delivers_iff plainEnv besideCut (fun _ => rfl) ?_
    (by decide +kernel)).mpr ?_⟩
  · intro message
    by_cases h : validString message = true <;> simp [plainEnv, h]
  · -- Only the places 0 and 500 lie in the message.
    have hlength : besideCut.message.length = 502 := by decide +kernel
    rintro (_ | _ | i) a ha
    · cases ha
      decide
    · have hbyte : besideCut.message[1 * chunkSize]? = some 0xc3 := by decide +kernel
      cases hbyte.symm.trans ha
      decide
    · rw [List.getElem?_eq_none (by rw [hlength, chunkSize]; omega)] at ha
      cases ha

theorem handle_cuts_character :
    validString acrossCut.message = true ∧
      (handle plainEnv acrossCut).result = .error (lit "invalid UTF-8") ∧
      (handle plainEnv acrossCut).queue.flatMap AgentLog.message ≠ acrossCut.message := by
  decide +kernel

end SecureBinding.Logger
