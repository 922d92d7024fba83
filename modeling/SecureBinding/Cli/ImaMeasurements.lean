import SecureBinding.Go.Encoding
import SecureBinding.Lib.Except

/-!
# Cli.ImaMeasurements

The verification of a measurement log by the command `ima-measurements`
(`cli/ima_measurements.go`): PCR 10 is recomputed from the lines of the log and compared with the
value that came with it.

The loop looks at the fields of a line without counting them, goes on after a digest that cannot
be decoded, and does not ask the scanner why it stopped. A log that is not well formed is
therefore rejected only if what is left of it happens not to match (`verified_exactly_iff`).
-/

namespace SecureBinding.Cli

open Go Lib

/-! ### Lines -/

/-- `bufio.MaxScanTokenSize`. -/
def maxScanTokenSize : Nat := 64 * 1024

/-- The lines of a text. What stands after the last line break is one, unless it is empty. -/
def lines (text : Bytes) : List GoString :=
  let parts := split 0x0a text
  if parts.getLast? = some [] then parts.dropLast else parts

/-- `bufio.ScanLines` takes a carriage return at the end of a line away. -/
def dropCR (line : GoString) : GoString :=
  if line.getLast? = some 0x0d then line.dropLast else line

/-- What a `bufio.Scanner` delivers: a line that does not fit its buffer is the end. -/
def scan (text : Bytes) : List GoString :=
  ((lines text).takeWhile fun line => line.length < maxScanTokenSize).map dropCR

/-! ### The command -/

/-- The log file: why it cannot be opened, or what is read from it before EOF or an error. -/
inductive Reading
  | notOpened (text : GoString)
  | read (content : Bytes) (err : Option GoString)

/-- What the scanner gets to see. A file that was not opened is nil, which cannot be read. -/
def Reading.content : Reading → Bytes
  | notOpened _ => []
  | read content _ => content

/-- What `printError` prints. -/
inductive Message
  | notOpened (text : GoString)
  | badDigest (err : HexError)
  | notVerified
  deriving Repr, DecidableEq

def Reading.messages : Reading → List Message
  | notOpened text => [.notOpened text]
  | read _ _ => []

inductive Panic
  | indexOutOfRange (index : Nat)
  deriving Repr, DecidableEq

/-- What the command prints: errors, and whether the measurements are verified. -/
structure Report where
  errors : List Message
  verified : Bool
  deriving Repr, DecidableEq

/-- `vtpm.Hash1`. -/
def hash1 : Nat := 20

/-- The digest of an entry; one of zeros stands for a violation and is replaced. -/
def entryDigest (digestHex : GoString) : Except HexError Bytes :=
  hexDecode (if digestHex = List.replicate 40 0x30 then List.replicate 40 0x66 else digestHex)

variable (sha1 : Bytes → Bytes)

/-- One round of the loop. -/
def extendLine (pcr : Bytes) (line : GoString) : Except Panic (Bytes × List Message) :=
  match fields line with
  | [] => .error (.indexOutOfRange 0)
  | index :: rest =>
    if index ≠ lit "10" then .ok (pcr, [])
    else
      match rest with
      | [] => .error (.indexOutOfRange 1)
      | digestHex :: _ =>
        match entryDigest digestHex with
        | .error err => .ok (pcr, [.badDigest err])
        | .ok digest => .ok (sha1 (pcr ++ digest), [])

def extendLines : Bytes → List GoString → Except Panic (Bytes × List Message)
  | pcr, [] => .ok (pcr, [])
  | pcr, line :: rest => do
    let (pcr, errors) ← extendLine sha1 pcr line
    let (pcr, more) ← extendLines pcr rest
    return (pcr, errors ++ more)

/-- The command, once the log is in its file and `pcr10` is known. -/
def verifyMeasurements (r : Reading) (pcr10 : Bytes) : Except Panic Report := do
  let (calculatedPCR10, errors) ← extendLines sha1 (List.replicate hash1 0) (scan r.content)
  if hexEncode pcr10 ≠ hexEncode calculatedPCR10 then
    return ⟨r.messages ++ errors ++ [.notVerified], false⟩
  else return ⟨r.messages ++ errors, true⟩

/-! ### What the log says -/

/-- The digest of a line that is an entry of PCR 10. -/
def pcr10Digest (line : GoString) : Option Bytes :=
  match fields line with
  | index :: digestHex :: _ => if index = lit "10" then (entryDigest digestHex).toOption else none
  | _ => none

/-- PCR 10 after all entries of the lines. -/
def extendAll (ls : List GoString) : Bytes :=
  (ls.filterMap pcr10Digest).foldl (fun pcr digest => sha1 (pcr ++ digest)) (List.replicate hash1 0)

/-- A line that is an entry: the index of a PCR, a digest, and more. -/
def IsEntry (line : GoString) : Prop :=
  ∃ index digestHex rest, fields line = index :: digestHex :: rest ∧ (hexDecode digestHex).isOk = true

/-- The log was read to its end, and every line is an entry. -/
inductive WellFormed : Reading → Prop
  | read {content : Bytes} (short : ∀ line ∈ lines content, line.length < maxScanTokenSize)
      (entries : ∀ line ∈ lines content, IsEntry (dropCR line)) : WellFormed (.read content none)

/-- The report is what the log says, and a log that is not well formed is reported. -/
def Exact (r : Reading) (pcr10 : Bytes) (out : Except Panic Report) : Prop :=
  ∃ report, out = .ok report ∧
    (report.verified = true ↔ WellFormed r ∧ extendAll sha1 ((lines r.content).map dropCR) = pcr10) ∧
    (¬WellFormed r → report.errors ≠ [])

/-- The fields that the loop looks at are there. -/
def Indexable (line : GoString) : Prop := fields line ≠ [] ∧ fields line ≠ [lit "10"]

variable {sha1} {pcr : Bytes}

/-- One round goes well exactly if the fields are there, and then extends the value by the digest
that the line has. -/
theorem extendLine_ok_iff {line : GoString} {next : Bytes} :
    (∃ errors, extendLine sha1 pcr line = .ok (next, errors)) ↔ Indexable line ∧
      next = (pcr10Digest line).elim pcr fun digest => sha1 (pcr ++ digest) := by
  unfold extendLine Indexable pcr10Digest
  rcases fields line with _ | ⟨index, _ | ⟨digestHex, rest⟩⟩
  · simp
  · by_cases h : index = lit "10"
    · simp [h]
    · simpa [h] using eq_comm
  · by_cases h : index = lit "10"
    · cases hd : entryDigest digestHex <;> simpa [h, hd, Except.toOption] using eq_comm
    · simpa [h] using eq_comm

theorem extendLines_ok_iff {ls : List GoString} {next : Bytes} :
    (∃ errors, extendLines sha1 pcr ls = .ok (next, errors)) ↔ (∀ line ∈ ls, Indexable line) ∧
      next = (ls.filterMap pcr10Digest).foldl (fun pcr digest => sha1 (pcr ++ digest)) pcr := by
  induction ls generalizing pcr with
  | nil => simp [extendLines, eq_comm]
  | cons line ls ih =>
    have hfold : ((line :: ls).filterMap pcr10Digest).foldl (fun pcr d => sha1 (pcr ++ d)) pcr =
        (ls.filterMap pcr10Digest).foldl (fun pcr d => sha1 (pcr ++ d))
          ((pcr10Digest line).elim pcr fun d => sha1 (pcr ++ d)) := by
      cases h : pcr10Digest line <;> simp [h]
    rw [hfold, List.forall_mem_cons, and_assoc, ← ih]
    constructor
    · intro h
      obtain ⟨errors, h⟩ := h
      obtain ⟨⟨mid, first⟩, hline, h⟩ := bind_ok_iff.mp h
      obtain ⟨⟨last, more⟩, hrest, heq⟩ := bind_ok_iff.mp h
      obtain ⟨rfl, -⟩ := Prod.mk.inj (Except.ok.inj heq)
      obtain ⟨hidx, rfl⟩ := extendLine_ok_iff.mp ⟨first, hline⟩
      exact ⟨hidx, more, hrest⟩
    · intro h
      obtain ⟨hidx, more, hrest⟩ := h
      obtain ⟨first, hline⟩ := extendLine_ok_iff.mpr ⟨hidx, rfl⟩
      refine ⟨first ++ more, bind_ok_iff.mpr ⟨_, hline, bind_ok_iff.mpr ⟨_, hrest, rfl⟩⟩⟩

theorem IsEntry.indexable {line : GoString} (h : IsEntry line) : Indexable line := by
  obtain ⟨index, digestHex, rest, heq, -⟩ := h
  simp [Indexable, heq]

theorem WellFormed.scan_eq {r : Reading} (h : WellFormed r) :
    scan r.content = (lines r.content).map dropCR := by
  cases h with
  | read short _ =>
    rw [scan, List.takeWhile_eq_self_iff.mpr]
    exact fun line hline => decide_eq_true (short line hline)

theorem WellFormed.indexable {r : Reading} (h : WellFormed r) :
    ∀ line ∈ scan r.content, Indexable line := by
  rw [h.scan_eq]
  cases h with
  | read _ entries =>
    intro line hline
    obtain ⟨raw, hraw, rfl⟩ := List.mem_map.mp hline
    exact (entries raw hraw).indexable

/-- A call returns exactly if the fields that it looks at are there; then it compares what the
lines that it was given say, and reports a mismatch. -/
theorem verifyMeasurements_ok_iff {r : Reading} {pcr10 : Bytes} {report : Report}
    (h : verifyMeasurements sha1 r pcr10 = .ok report) :
    (∀ line ∈ scan r.content, Indexable line) ∧
      (report.verified = true ↔ extendAll sha1 (scan r.content) = pcr10) ∧
      (report.verified = false → report.errors ≠ []) := by
  obtain ⟨⟨calculated, errors⟩, hlines, h⟩ := bind_ok_iff.mp h
  obtain ⟨hidx, rfl⟩ := extendLines_ok_iff.mp ⟨errors, hlines⟩
  refine ⟨hidx, ?_⟩
  dsimp only at h
  split at h
  · rename_i hne
    cases h
    have hne : ¬extendAll sha1 (scan r.content) = pcr10 :=
      fun heq => hne (congrArg hexEncode heq.symm)
    simp [hne]
  · rename_i heq
    cases h
    have heq : extendAll sha1 (scan r.content) = pcr10 :=
      (hexEncode_injective (not_not.mp heq)).symm
    simp [heq]

/-- The verdict is exact for the logs that are well formed, and for others exactly if every line
that is scanned has the fields that are looked at, and the entries that are left of the log do
not lead to PCR 10. -/
theorem verified_exactly_iff (sha1 : Bytes → Bytes) (r : Reading) (pcr10 : Bytes) :
    Exact sha1 r pcr10 (verifyMeasurements sha1 r pcr10) ↔ WellFormed r ∨
      ((∀ line ∈ scan r.content, Indexable line) ∧ extendAll sha1 (scan r.content) ≠ pcr10) := by
  have hreturns : (∀ line ∈ scan r.content, Indexable line) →
      ∃ report, verifyMeasurements sha1 r pcr10 = .ok report := by
    intro hidx
    obtain ⟨errors, hlines⟩ := (@extendLines_ok_iff sha1 _ _ _).mpr ⟨hidx, rfl⟩
    unfold verifyMeasurements
    rw [hlines, ok_bind]
    dsimp only
    split <;> exact ⟨_, rfl⟩
  constructor
  · intro h
    obtain ⟨report, hrep, hver, -⟩ := h
    obtain ⟨hidx, hmat, -⟩ := verifyMeasurements_ok_iff hrep
    by_cases hfmd : WellFormed r
    · exact .inl hfmd
    · refine .inr ⟨hidx, fun heq => hfmd ?_⟩
      exact (hver.mp (hmat.mpr heq)).1
  · intro h
    by_cases hfmd : WellFormed r
    · obtain ⟨report, hrep⟩ := hreturns hfmd.indexable
      obtain ⟨-, hmat, -⟩ := verifyMeasurements_ok_iff hrep
      rw [hfmd.scan_eq] at hmat
      exact ⟨report, hrep, by simp [hmat, hfmd], fun hnot => absurd hfmd hnot⟩
    · -- A bad log must not be verified, and a report that does not verify has an error.
      obtain ⟨hidx, hne⟩ := h.resolve_left hfmd
      obtain ⟨report, hrep⟩ := hreturns hidx
      obtain ⟨-, hmat, herrors⟩ := verifyMeasurements_ok_iff hrep
      have hfalse : report.verified = false := by
        rw [Bool.eq_false_iff]
        exact fun htrue => hne (hmat.mp htrue)
      exact ⟨report, hrep, by simp [hfalse, hfmd], fun _ => herrors hfalse⟩

/-- A blank line ends the process; and a log whose only entry cannot be decoded is verified, for
a PCR 10 of zeros. -/
theorem bad_logs_pass :
    verifyMeasurements id (.read (lit "\n") none) [] = .error (.indexOutOfRange 0) ∧
      verifyMeasurements id (.read (lit "10 xy\n") none) (List.replicate hash1 0) =
        .ok ⟨[.badDigest (.invalidByte 0x78)], true⟩ := by
  decide +kernel

end SecureBinding.Cli
