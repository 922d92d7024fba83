import SecureBinding.Go.Strings

/-!
# Progressbar.Receive

The receiving side of `pkg/progressbar`, and the stream of IMA measurements that the server
(`agent/api/grpc/server.go`) sends to it.

* The three functions that receive a file have one loop, `receiveStream`; what they take out of a
  message is a `Receiver`.
* `updateProgress` bounds what is received by the announced size from above, and divides by it.
  Nothing is checked at the end of the stream: it may stop short of the size
  (`receives_completely_iff`), and an empty message of an empty file ends the process.
* `ReceiveIMAMeasurements` takes twenty bytes of PCR 10 out of every message, and the server sends
  them with the first one only (`ima_transfer_iff`).

The outcomes of writing to the file and of `renderProgressBar` are part of the input. The latter
may be a panic: on a terminal not wider than the text beside the bar the count given to
`strings.Repeat` is negative.
-/

namespace SecureBinding.Progressbar

open Go

/-- How a call ends other than by returning nil. -/
inductive Failure
  | err (text : GoString)
  | panic (text : GoString)
  deriving Repr, DecidableEq

/-- `ProgressBar`, without what is only displayed. -/
structure ProgressBar where
  numberOfBytes : Int
  currentUploadedBytes : Int
  currentUploadPercentage : Int

/-- `reset`. -/
def reset (totalBytes : Int) : ProgressBar := ⟨totalBytes, 0, 0⟩

/-- The product is one of `int`s and wraps around. -/
def updateProgress (p : ProgressBar) (bytesRead : Nat) : Except Failure ProgressBar :=
  if p.currentUploadedBytes + bytesRead > p.numberOfBytes then
    .error (.err (lit "progress update exceeds total bytes: attempted to add " ++
      formatInt bytesRead ++ lit " bytes, but only " ++
      formatInt (p.numberOfBytes - p.currentUploadedBytes) ++ lit " bytes remain"))
  else if p.numberOfBytes = 0 then .error (.panic (lit "integer divide by zero"))
  else
    .ok { p with
      currentUploadedBytes := p.currentUploadedBytes + bytesRead
      currentUploadPercentage :=
        (((p.currentUploadedBytes + bytesRead) * 100).bmod (2 ^ 64)).tdiv p.numberOfBytes }

/-- What a function takes out of a message: the chunk of the file, and a value of its own. -/
structure Receiver (μ σ : Type) where
  chunk : μ → Bytes
  take : μ → Except Failure σ

/-- A message, and what comes of writing its chunk to the file (the error, and how much was
written before it) and of `renderProgressBar`, which may panic. -/
structure Round (μ : Type) where
  message : μ
  write : Option (Nat × GoString) := none
  render : Except Failure Unit := .ok ()

/-- How the stream ends: with EOF, after which a line break is written to the terminal, or with
another error. -/
inductive End
  | eof (newline : Option GoString)
  | failed (text : GoString)

/-- What is left of a call. -/
structure Received (σ : Type) where
  result : Except Failure Unit
  file : Bytes
  value : σ

variable {μ σ : Type}

/-- The loop of `receiveStream`. -/
def receive (R : Receiver μ σ) (last : End) :
    ProgressBar → Bytes → σ → List (Round μ) → Received σ
  | _, file, value, [] =>
    match last with
    | .eof none => ⟨.ok (), file, value⟩
    | .eof (some text) => ⟨.error (.err text), file, value⟩
    | .failed text => ⟨.error (.err text), file, value⟩
  | p, file, value, r :: rounds =>
    match R.take r.message with
    | .error failure => ⟨.error failure, file, value⟩
    | .ok value =>
      match updateProgress p (R.chunk r.message).length with
      | .error failure => ⟨.error failure, file, value⟩
      | .ok p =>
        match r.write with
        | some (n, text) => ⟨.error (.err text), file ++ (R.chunk r.message).take n, value⟩
        | none =>
          match r.render with
          | .error failure => ⟨.error failure, file ++ R.chunk r.message, value⟩
          | .ok () => receive R last p (file ++ R.chunk r.message) value rounds

def receiveStream (R : Receiver μ σ) (totalSize : Int) (rounds : List (Round μ)) (last : End)
    (value : σ) : Received σ :=
  receive R last (reset totalSize) [] value rounds

/-- `ResultResponse` and `AttestationResponse`. -/
structure FileResponse where
  file : Bytes

/-- `IMAMeasurementsResponse`; `spare` is what the array behind `pcr10` holds after it. -/
structure IMAMeasurementsResponse where
  file : Bytes
  pcr10 : Bytes
  spare : Bytes := []

/-- What `ReceiveResult` and `ReceiveAttestation` take. -/
def fileReceiver : Receiver FileResponse Unit := ⟨(·.file), fun _ => .ok ()⟩

/-- The size of PCR 10, `vtpm.Hash1`. -/
def hash1 : Nat := 20

/-- What `ReceiveIMAMeasurements` takes: `response.Pcr10[:20]` may reach beyond the length of the
slice, but not beyond its capacity. -/
def imaReceiver : Receiver IMAMeasurementsResponse Bytes where
  chunk m := m.file
  take m :=
    if hash1 ≤ (m.pcr10 ++ m.spare).length then .ok ((m.pcr10 ++ m.spare).take hash1)
    else .error (.panic (lit "slice bounds out of range"))

def receiveResult (totalSize : Int) (rounds : List (Round FileResponse)) (last : End) :
    Received Unit := receiveStream fileReceiver totalSize rounds last ()

def receiveAttestation (totalSize : Int) (rounds : List (Round FileResponse)) (last : End) :
    Received Unit := receiveStream fileReceiver totalSize rounds last ()

def receiveIMAMeasurements (totalSize : Int) (rounds : List (Round IMAMeasurementsResponse))
    (last : End) : Received Bytes :=
  receiveStream imaReceiver totalSize rounds last (List.replicate hash1 0)

/-! ### The loop -/

section Loop

variable (R : Receiver μ σ)

def content (rounds : List (Round μ)) : Bytes := rounds.flatMap fun r => R.chunk r.message

/-- Nothing goes wrong in the round but, perhaps, the size. -/
structure Undisturbed (r : Round μ) : Prop where
  take : ∃ value, R.take r.message = .ok value
  write : r.write = none
  render : r.render = .ok ()

variable {R} {last : End} {p : ProgressBar} {file : Bytes} {value : σ}

variable {rounds : List (Round μ)}

theorem receive_cons_ok_iff {r : Round μ} :
    (receive R last p file value (r :: rounds)).result = .ok () ↔
      ∃ v p', R.take r.message = .ok v ∧ updateProgress p (R.chunk r.message).length = .ok p' ∧
        r.write = none ∧ r.render = .ok () ∧
        (receive R last p' (file ++ R.chunk r.message) v rounds).result = .ok () := by
  rw [receive]
  cases R.take r.message with
  | error failure => simp
  | ok v =>
    cases updateProgress p (R.chunk r.message).length with
    | error failure => simp
    | ok p' =>
      cases r.write with
      | some e => simp
      | none => cases r.render <;> simp

theorem updateProgress_ok_iff {n : Nat} {p' : ProgressBar} :
    updateProgress p n = .ok p' ↔ p.currentUploadedBytes + n ≤ p.numberOfBytes ∧
      p.numberOfBytes ≠ 0 ∧ p' = { p with
        currentUploadedBytes := p.currentUploadedBytes + n
        currentUploadPercentage :=
          (((p.currentUploadedBytes + n) * 100).bmod (2 ^ 64)).tdiv p.numberOfBytes } := by
  unfold updateProgress
  by_cases hfits : p.currentUploadedBytes + n > p.numberOfBytes
  · rw [if_pos hfits]
    simp [Int.not_le.mpr hfits]
  · rw [if_neg hfits]
    by_cases hzero : p.numberOfBytes = 0
    · simp [hzero]
    · simp [hzero, Int.not_lt.mp hfits, eq_comm]

/-- The loop returns nil exactly if nothing goes wrong and the messages are not longer than the
rest of the announced size. -/
theorem receive_ok_iff : (receive R last p file value rounds).result = .ok () ↔
      last = .eof none ∧ (∀ r ∈ rounds, Undisturbed R r) ∧ (rounds ≠ [] → p.numberOfBytes ≠ 0 ∧
        p.currentUploadedBytes + (content R rounds).length ≤ p.numberOfBytes) := by
  induction rounds generalizing p file value with
  | nil => rcases last with (_ | text) | text <;> simp [receive]
  | cons r rounds ih =>
    rw [receive_cons_ok_iff]
    have hcontent : (content R (r :: rounds)).length =
        (R.chunk r.message).length + (content R rounds).length := by
      simp [content]
    constructor
    · intro h
      obtain ⟨v, p', htake, hupd, hwr, hrender, hrest⟩ := h
      obtain ⟨hfits, hzero, rfl⟩ := updateProgress_ok_iff.mp hupd
      obtain ⟨hlast, hrds, hsize⟩ := ih.mp hrest
      refine ⟨hlast, List.forall_mem_cons.mpr ⟨⟨⟨v, htake⟩, hwr, hrender⟩, hrds⟩,
        fun _ => ⟨hzero, ?_⟩⟩
      by_cases hnil : rounds = []
      · subst hnil
        simpa [content] using hfits
      · have hle := (hsize hnil).2
        dsimp only at hle
        omega
    · intro h
      obtain ⟨hlast, hrds, hsize⟩ := h
      obtain ⟨hr, hrds⟩ := List.forall_mem_cons.mp hrds
      obtain ⟨v, htake⟩ := hr.take
      obtain ⟨hzero, hle⟩ := hsize (by simp)
      refine ⟨v, _, htake, updateProgress_ok_iff.mpr ⟨by omega, hzero, rfl⟩, hr.write, hr.render,
        ih.mpr ⟨hlast, hrds, fun _ => ⟨hzero, ?_⟩⟩⟩
      dsimp only
      omega

theorem file_of_receive_ok (h : (receive R last p file value rounds).result = .ok ()) :
    (receive R last p file value rounds).file = file ++ content R rounds := by
  induction rounds generalizing p file value with
  | nil =>
    rcases last with (_ | text) | text
    · simp [receive, content]
    · simp [receive] at h
    · simp [receive] at h
  | cons r rounds ih =>
    obtain ⟨v, p', htake, hupd, hwr, hrender, hrest⟩ := receive_cons_ok_iff.mp h
    simp only [receive, htake, hupd, hwr, hrender]
    rw [ih hrest, content, content, List.flatMap_cons, List.append_assoc]

theorem receive_file : ∃ more, (receive R last p file value rounds).file = file ++ more ∧
    more <+: content R rounds ∧
      (more = [] ∨ p.currentUploadedBytes + more.length ≤ p.numberOfBytes) := by
  fun_induction receive R last p file value rounds with
  | case1 | case2 | case3 | case4 | case5 =>
    exact ⟨[], (List.append_nil _).symm, List.nil_prefix, .inl rfl⟩
  | case6 p _ _ r _ _ _ _ hup n =>
    obtain ⟨hfits, -⟩ := updateProgress_ok_iff.mp hup
    refine ⟨_, rfl, (List.take_prefix n _).trans (List.prefix_append _ _), .inr ?_⟩
    rw [List.length_take]
    omega
  | case7 _ _ _ _ _ _ _ _ hup =>
    exact ⟨_, rfl, List.prefix_append _ _, .inr (updateProgress_ok_iff.mp hup).1⟩
  | case8 p _ _ r _ _ _ _ hup _ _ ih =>
    obtain ⟨hfits, -, rfl⟩ := updateProgress_ok_iff.mp hup
    obtain ⟨more, hfile, hmore, hle⟩ := ih
    refine ⟨R.chunk r.message ++ more, hfile.trans (List.append_assoc _ _ _),
      (List.prefix_append_right_inj _).mpr hmore, .inr ?_⟩
    obtain rfl | hle := hle
    · simpa using hfits
    · rw [List.length_append, Nat.cast_add, ← add_assoc]
      exact hle

/-- Whatever is sent and whatever fails, the file holds a prefix of the bytes that were sent, and
not more of them than were announced. -/
theorem receiveStream_file (R : Receiver μ σ) (totalSize : Int) (rounds : List (Round μ))
    (last : End) (value : σ) :
    (receiveStream R totalSize rounds last value).file <+: content R rounds ∧
      ((receiveStream R totalSize rounds last value).file.length : Int) ≤ max totalSize 0 := by
  obtain ⟨more, hfile, hpre, hle⟩ := receive_file
  rw [receiveStream, hfile, List.nil_append]
  refine ⟨hpre, ?_⟩
  obtain rfl | hle : more = [] ∨ 0 + (more.length : Int) ≤ totalSize := hle
  · exact le_max_right _ _
  · omega

end Loop

/-! ### Complete files -/

/-- A call that returns nil has written the bytes of all messages, as many as were announced. -/
def Complete (R : Receiver μ σ) (totalSize : Int) (rounds : List (Round μ)) (out : Received σ) :
    Prop :=
  out.result = .ok () → out.file = content R rounds ∧ ((content R rounds).length : Int) = totalSize

/-- An undisturbed stream that ends before the announced size is reached. A negative size is
never reached. -/
structure CutShort (R : Receiver μ σ) (totalSize : Int) (rounds : List (Round μ)) (last : End) :
    Prop where
  ended : last = .eof none
  undisturbed : ∀ r ∈ rounds, Undisturbed R r
  short : (content R rounds).length < totalSize ∨ (rounds = [] ∧ totalSize < 0)

theorem complete_iff_not_cutShort {R : Receiver μ σ} {totalSize : Int} {rounds : List (Round μ)}
    {last : End} {value : σ} :
    Complete R totalSize rounds (receiveStream R totalSize rounds last value) ↔
      ¬CutShort R totalSize rounds last := by
  unfold Complete receiveStream
  constructor
  · intro h hsh
    -- Nothing in the loop objects to a stream that ends early.
    have hok : (receive R last (reset totalSize) [] value rounds).result = .ok () := by
      refine receive_ok_iff.mpr ⟨hsh.ended, hsh.undisturbed, fun hne => ?_⟩
      obtain hlt | ⟨hnil, -⟩ := hsh.short
      · exact ⟨by show totalSize ≠ 0; omega, by show 0 + _ ≤ totalSize; omega⟩
      · exact absurd hnil hne
    have hsize := (h hok).2
    obtain hlt | ⟨hnil, hneg⟩ := hsh.short
    · omega
    · rw [hnil] at hsize
      omega
  · intro h hok
    refine ⟨by simpa using file_of_receive_ok hok, ?_⟩
    obtain ⟨hlast, hrds, hsize⟩ := receive_ok_iff.mp hok
    by_contra hne
    refine h ⟨hlast, hrds, ?_⟩
    -- With a message the size was an upper bound, so what is missing is missing at the end.
    by_cases hnil : rounds = []
    · subst hnil
      have hemp : (content R []).length = 0 := rfl
      by_cases hneg : totalSize < 0
      · exact .inr ⟨rfl, hneg⟩
      · exact .inl (by omega)
    · have hle : 0 + ((content R rounds).length : Int) ≤ totalSize := (hsize hnil).2
      exact .inl (by omega)

/-- A file is received completely exactly if its stream is not cut short: whatever ends the
messages in time, the call returns nil. -/
theorem receives_completely_iff (totalSize : Int) (last : End) (rounds : List (Round FileResponse))
    (imaRounds : List (Round IMAMeasurementsResponse)) :
    (Complete fileReceiver totalSize rounds (receiveResult totalSize rounds last) ↔
        ¬CutShort fileReceiver totalSize rounds last) ∧
      (Complete fileReceiver totalSize rounds (receiveAttestation totalSize rounds last) ↔
        ¬CutShort fileReceiver totalSize rounds last) ∧
      (Complete imaReceiver totalSize imaRounds (receiveIMAMeasurements totalSize imaRounds last) ↔
        ¬CutShort imaReceiver totalSize imaRounds last) :=
  ⟨complete_iff_not_cutShort, complete_iff_not_cutShort, complete_iff_not_cutShort⟩

/-- Of a result of five bytes, three arrive; nothing is reported. -/
theorem short_result_accepted :
    (receiveResult 5 [{ message := ⟨[1, 2, 3]⟩ }] (.eof none)).result = .ok () ∧
      (receiveResult 5 [{ message := ⟨[1, 2, 3]⟩ }] (.eof none)).file = [1, 2, 3] := by
  decide

/-! ### IMA measurements, from end to end -/

/-- The size of the buffers of the server. -/
def bufferSize : Nat := 1024 * 1024

/-- `streamDualBuffers`, as the messages it sends. A buffer that is read to its end gives EOF and
no bytes. -/
def streamDualBuffers (buf1 buf2 : Bytes) : List (Bytes × Bytes) :=
  if _h : buf1 = [] ∧ buf2 = [] then []
  else
    (buf1.take bufferSize, buf2.take bufferSize) ::
      streamDualBuffers (buf1.drop bufferSize) (buf2.drop bufferSize)
termination_by buf1.length + buf2.length
decreasing_by
  rw [List.length_drop, List.length_drop]
  have hpos : 0 < bufferSize := by decide
  rcases not_and_or.mp ‹¬(buf1 = [] ∧ buf2 = [])› with h | h
  all_goals
    have := List.length_pos_iff.mpr h
    omega

/-- The message that arrives where this one was sent: an empty field arrives as nil, which has
no capacity. -/
structure Arrives (sent : Bytes × Bytes) (r : Round IMAMeasurementsResponse) : Prop where
  file : r.message.file = sent.1
  pcr10 : r.message.pcr10 = sent.2
  empty : sent.2 = [] → r.message.spare = []

/-- Nothing goes wrong on the side of the receiver: the file and the terminal can be written. -/
structure Unhindered (rounds : List (Round IMAMeasurementsResponse)) (last : End) : Prop where
  last : last = .eof none
  write : ∀ r ∈ rounds, r.write = none
  render : ∀ r ∈ rounds, r.render = .ok ()

variable {log pcr10 : Bytes}

theorem streamDualBuffers_of_le (hlog : log.length ≤ bufferSize)
    (hpcr10 : pcr10.length = hash1) : streamDualBuffers log pcr10 = [(log, pcr10)] := by
  have hsmall : pcr10.length ≤ bufferSize := by rw [hpcr10]; decide
  have hne : ¬(log = [] ∧ pcr10 = []) := by
    intro h
    rw [h.2] at hpcr10
    cases hpcr10
  rw [streamDualBuffers, dif_neg hne, List.take_of_length_le hlog, List.take_of_length_le hsmall,
    List.drop_of_length_le hlog, List.drop_of_length_le hsmall, streamDualBuffers,
    dif_pos ⟨rfl, rfl⟩]

/-- A log that does not fit the buffer takes a second message, without PCR 10. -/
theorem exists_second_of_lt (hlog : bufferSize < log.length) (hpcr10 : pcr10.length = hash1) :
    ∃ first second rest, streamDualBuffers log pcr10 = first :: (second, []) :: rest := by
  have hsmall : pcr10.length ≤ bufferSize := by rw [hpcr10]; decide
  have hne : ¬(log = [] ∧ pcr10 = []) := fun h => by
    rw [h.1] at hlog
    cases hlog
  have hrest : ¬(log.drop bufferSize = [] ∧ pcr10.drop bufferSize = []) := by
    intro h
    have := List.drop_eq_nil_iff.mp h.1
    omega
  rw [streamDualBuffers, dif_neg hne, List.drop_of_length_le hsmall, streamDualBuffers, dif_neg]
  · exact ⟨_, _, _, rfl⟩
  · rwa [List.drop_of_length_le hsmall] at hrest

/-- Its receiver slices a nil. -/
theorem not_ok_of_lt (hlog : bufferSize < log.length)
    (hpcr10 : pcr10.length = hash1) {rounds : List (Round IMAMeasurementsResponse)} {last : End}
    (h : List.Forall₂ Arrives (streamDualBuffers log pcr10) rounds) :
    (receiveIMAMeasurements log.length rounds last).result ≠ .ok () := by
  intro hok
  obtain ⟨-, hrds, -⟩ := receive_ok_iff.mp hok
  obtain ⟨first, second, rest, heq⟩ := exists_second_of_lt hlog hpcr10
  rw [heq] at h
  cases h with
  | cons _ h =>
    cases h with
    | cons hsec _ =>
      obtain ⟨v, htake⟩ := (hrds _ (List.mem_cons_of_mem _ List.mem_cons_self)).take
      simp only [imaReceiver, hsec.pcr10, hsec.empty rfl] at htake
      cases htake

/-- The messages of the server give back the log and PCR 10 exactly if the log is neither empty
nor longer than the buffer of the server, and the receiver can write. -/
theorem ima_transfer_iff {log pcr10 : Bytes} (hpcr10 : pcr10.length = hash1)
    {rounds : List (Round IMAMeasurementsResponse)} {last : End}
    (h : List.Forall₂ Arrives (streamDualBuffers log pcr10) rounds) :
    receiveIMAMeasurements log.length rounds last = ⟨.ok (), log, pcr10⟩ ↔
      (log ≠ [] ∧ log.length ≤ bufferSize) ∧ Unhindered rounds last := by
  constructor
  · intro hrec
    have hok : (receive imaReceiver last (reset log.length) [] (List.replicate hash1 0)
        rounds).result = .ok () := congrArg Received.result hrec
    obtain ⟨hlast, hrds, hsize⟩ := receive_ok_iff.mp hok
    refine ⟨⟨fun hnil => ?_, ?_⟩, hlast, fun r hr => (hrds r hr).write,
      fun r hr => (hrds r hr).render⟩
    · -- An empty log still takes a message, for PCR 10.
      subst hnil
      rw [streamDualBuffers_of_le (Nat.zero_le _) hpcr10] at h
      cases h with
      | cons _ _ => exact (hsize (by simp)).1 rfl
    · by_contra hlong
      exact not_ok_of_lt (Nat.not_le.mp hlong) hpcr10 h hok
  · intro hgood
    obtain ⟨⟨hne, hle⟩, hunh⟩ := hgood
    rw [streamDualBuffers_of_le hle hpcr10] at h
    cases h with
    -- The log fits one message, and PCR 10 comes with it.
    | cons harrives hnil =>
      cases hnil
      rename_i r
      have hpos := List.length_pos_iff.mpr hne
      have htake : imaReceiver.take r.message = .ok pcr10 := by
        have hcap : hash1 ≤ (pcr10 ++ r.message.spare).length := by
          rw [List.length_append]
          omega
        simp only [imaReceiver, harrives.pcr10]
        rw [if_pos hcap, ← hpcr10, List.take_left]
      have hfile : imaReceiver.chunk r.message = log := harrives.file
      have hupd : ∃ p, updateProgress (reset log.length) log.length = .ok p := by
        refine ⟨_, updateProgress_ok_iff.mpr ⟨?_, ?_, rfl⟩⟩
        · show 0 + (log.length : Int) ≤ log.length
          omega
        · show (log.length : Int) ≠ 0
          omega
      obtain ⟨p, hp⟩ := hupd
      simp only [receiveIMAMeasurements, receiveStream, receive, htake, hfile, hp,
        hunh.write r (by simp), hunh.render r (by simp), hunh.last,
        List.nil_append]

/-- A log of one byte arrives. -/
theorem ima_transfer_sample :
    receiveIMAMeasurements 1 [{ message := ⟨[7], List.replicate hash1 1, []⟩ }] (.eof none) =
      ⟨.ok (), [7], List.replicate hash1 1⟩ := by
  have harrives : List.Forall₂ Arrives (streamDualBuffers [7] (List.replicate hash1 1))
      [{ message := ⟨[7], List.replicate hash1 1, []⟩ }] := by
    rw [streamDualBuffers_of_le (by decide) rfl]
    exact .cons ⟨rfl, rfl, fun _ => rfl⟩ .nil
  exact (ima_transfer_iff rfl harrives).mpr ⟨by decide, rfl, by simp, by simp⟩

/-- The messages of an empty log make the receiver divide by zero, and it does not survive those
of a log that is one byte longer than the buffer. -/
theorem ima_transfer_panics :
    streamDualBuffers [] (List.replicate hash1 1) = [([], List.replicate hash1 1)] ∧
      (receiveIMAMeasurements 0 [{ message := ⟨[], List.replicate hash1 1, []⟩ }]
        (.eof none)).result = .error (.panic (lit "integer divide by zero")) ∧
      ∀ rounds, List.Forall₂ Arrives
          (streamDualBuffers (List.replicate (bufferSize + 1) 0) (List.replicate hash1 1)) rounds →
        (receiveIMAMeasurements (bufferSize + 1) rounds (.eof none)).result ≠ .ok () := by
  refine ⟨streamDualBuffers_of_le (by decide) rfl, by decide, fun rounds h => ?_⟩
  have hlong : (List.replicate (bufferSize + 1) (0 : UInt8)).length = bufferSize + 1 :=
    List.length_replicate
  have hnot := @not_ok_of_lt _ _ (by rw [hlong]; omega) rfl rounds (.eof none) h
  rwa [hlong] at hnot

end SecureBinding.Progressbar
