import SecureBinding.Attestation.GeneratedPolicy
import SecureBinding.Go.Bufio

/-!
# Manager.AttestationPolicy

The model of `FetchAttestationPolicy` of the manager (`manager/attestation_policy.go`), with
the wrapper of the `igvmmeasure` tool and the check of host data that it uses.

The tool writes its measurement in hexadecimal to a `bufio.Writer` that is never flushed, and
what comes out of that writer is encoded in hexadecimal once more. So the digest of a policy
is never the one that the tool has printed (`published_measurement_iff`). The generator declares
its digests as SHA-256; a library that checks their length refuses the default of 48 bytes, and
the policy has no digest at all.
-/

namespace SecureBinding.Manager

open Go Lib Corim Corimgen
open Attestation

/-! ### Configuration -/

/-- `qemu.VMInfo`, of its configuration those fields that are read. -/
structure VMInfo where
  enableSEVSNP : Bool := false
  enableHostData : Bool := false
  hostData : GoString := []
  launchTCB : Nat := 0
  deriving Repr, DecidableEq

/-- What `GetConfig` of a VM returns. -/
inductive VMConfig
  | qemu (info : VMInfo)
  /-- A value of another type. -/
  | other
  deriving Repr, DecidableEq

/-- `managerService`, of its fields those that are read. -/
structure Service (Signer : Type) where
  vms : GoString → Option VMConfig
  attestationPolicyBinaryPath : GoString
  /-- The CPU and the IGVM file of `qemuCfg`. -/
  cpu : GoString
  igvmFile : GoString
  signingKey : Option Signer

/-- What the service calls: the CoRIM generator, the run of a program with arguments (its
standard output, or the error of the run), and `strings.ToLower` outside ASCII. -/
structure Host (Signer : Type) extends Env Signer where
  exec : GoString → List GoString → Except String Bytes
  unicodeLower : GoString → GoString

/-! ### Errors -/

/-- The errors of `IgvmMeasurement.Run`. -/
inductive RunError
  | exec (text : String)
  | output (out : GoString)
  deriving Repr, DecidableEq

/-- The errors of `FetchAttestationPolicy`. -/
inductive FetchError
  | notFound (computationId : GoString)
  | notVMInfo
  | createMeasurement (text : String)
  | runMeasurement (e : RunError)
  | hostData (text : String)
  /-- The error of the generator. -/
  | generate (text : String)
  deriving Repr, DecidableEq

section Service

variable {Signer : Type} (host : Host Signer)

/-! ### The measurement tool -/

/-- `NewIgvmMeasurement`: the path of the binary. -/
def newIgvmMeasurement (binPath : GoString) : Except String GoString := do
  ensure (binPath ≠ []) "pathToBinary cannot be empty"
  return binPath

/-- `IgvmMeasurement.Run`: output of one line is written to `stdout` in lower case. -/
def run (binPath pathToFile : GoString) (stdout : Bufio.Writer) : Except RunError Bufio.Writer := do
  let out ← (host.exec binPath [pathToFile, lit "measure", lit "-b"]).mapError .exec
  ensure ((split 0x0a (trimSpace out)).length = 1) (.output out)
  return stdout.write (toLower host.unicodeLower out)

def normalizeSEVSNPHostData (hostData : GoString) : Except String GoString := do
  let normalized := toLower host.unicodeLower (trimSpace hostData)
  ensure (normalized.length = 64) "invalid SEV-SNP host data: expected 64 hex characters"
  let decoded ← (hexDecode normalized).mapError fun e => "invalid SEV-SNP host data: " ++ e.text
  ensure (decoded.length = 32) "invalid SEV-SNP host data: expected 32 bytes"
  return normalized

/-! ### The policy -/

def Service.igvmBinaryPath (service : Service Signer) : GoString :=
  service.attestationPolicyBinaryPath ++ lit "/igvmmeasure"

/-- The measurement of an SNP VM: what has reached the buffer under `stdout`, in hexadecimal. -/
def snpMeasurementText (service : Service Signer) : Except FetchError GoString := do
  let binPath ← (newIgvmMeasurement service.igvmBinaryPath).mapError .createMeasurement
  let stdout ← (run host binPath service.igvmFile Bufio.newWriter).mapError .runMeasurement
  return hexEncode stdout.delivered

/-- The host data of an SNP VM, if it is enabled. -/
def snpHostData (info : VMInfo) : Except FetchError GoString :=
  if info.enableHostData then (normalizeSEVSNPHostData host info.hostData).mapError .hostData
  else .ok []

def policyOptions (service : Service Signer) (info : VMInfo) : Except FetchError (Options Signer) :=
  let base : Options Signer :=
    { platform := lit "tdx", product := service.cpu, signingKey := service.signingKey }
  if info.enableSEVSNP then do
    let measurement ← snpMeasurementText host service
    let hostData ← snpHostData host info
    return { base with platform := lit "snp", measurement, hostData, launchTCB := info.launchTCB }
  else .ok base

/-- `FetchAttestationPolicy`; `generator.GenerateCoRIM` passes its options on. -/
def fetchAttestationPolicy (service : Service Signer) (uuids : UUIDs) (computationId : GoString) :
    Except FetchError Bytes := do
  let config ← ofOption (.notFound computationId) (service.vms computationId)
  match config with
  | .other => .error .notVMInfo
  | .qemu info =>
    let opts ← policyOptions host service info
    (generateCoRIM host.toEnv uuids opts).mapError .generate

end Service

/-! ### What reaches the policy -/

section Published

variable {Signer : Type} {host : Host Signer} {service : Service Signer} {uuids : UUIDs}
  {computationId : GoString} {info : VMInfo} {out m : GoString} {d : Bytes}

/-- The tool prints `m`, with or without a line break after it. -/
structure Prints (host : Host Signer) (service : Service Signer) (m out : GoString) : Prop where
  exec : host.exec service.igvmBinaryPath [service.igvmFile, lit "measure", lit "-b"] = .ok out
  line : out = m ∨ out = m ++ [0x0a]

/-- The digest of the policy in `b` is `d`, and it is not the default one. -/
def Publishes (lib : Library Signer) (b d : Bytes) : Prop :=
  ∃ manifest, parseCorim lib b = .ok manifest ∧ manifestDigests lib manifest = [d] ∧
    List.replicate 48 0 ∉ manifestDigests lib manifest

/-- What the service takes for the measurement when the tool has printed `out`. -/
def deliveredText (host : Host Signer) (out : GoString) : Bytes :=
  if out.length ≤ Bufio.defaultBufSize then [] else toLower host.unicodeLower out

def snpOptions (host : Host Signer) (service : Service Signer) (info : VMInfo)
    (out hostData : GoString) : Options Signer where
  platform := lit "snp"
  measurement := hexEncode (deliveredText host out)
  hostData := hostData
  launchTCB := info.launchTCB
  product := service.cpu
  signingKey := service.signingKey

theorem length_toLower_of_isGraphic {s : GoString} (h : ∀ a ∈ s, a < 0x80) :
    (toLower host.unicodeLower s).length = s.length := by
  have hall : s.all (· < 0x80) = true := by simpa using h
  rw [toLower, if_pos hall, List.length_map]

/-- A measurement in hexadecimal is one line of ASCII. -/
theorem output_of_prints (hprt : Prints host service m out) (hm : hexDecode m = .ok d) :
    split 0x0a (trimSpace out) = [m] ∧ (toLower host.unicodeLower out).length = out.length := by
  obtain ⟨-, hgra⟩ := length_of_hexDecode hm
  have hnewline : (0x0a : UInt8) ∉ m := by
    intro h
    obtain ⟨hlow, -⟩ := hgra _ h
    exact absurd hlow (by decide)
  have hascii : ∀ a ∈ m, a < 0x80 := by
    intro a ha
    have := (hgra a ha).2
    grind
  obtain rfl | rfl := hprt.line
  · rw [trimSpace_of_isGraphic hgra]
    exact ⟨split_of_notMem hnewline, length_toLower_of_isGraphic hascii⟩
  · rw [trimSpace_append_newline hgra]
    refine ⟨split_of_notMem hnewline, length_toLower_of_isGraphic ?_⟩
    intro a ha
    obtain ha | ha := List.mem_append.mp ha
    · exact hascii a ha
    · obtain rfl := List.mem_singleton.mp ha
      decide

/-- The text of the measurement that the service reads back. -/
theorem snpMeasurementText_of_prints (hprt : Prints host service m out) (hm : hexDecode m = .ok d) :
    snpMeasurementText host service = .ok (hexEncode (deliveredText host out)) := by
  obtain ⟨hline, hlen⟩ := output_of_prints hprt hm
  have hpath : service.igvmBinaryPath ≠ [] := by
    intro h
    exact absurd (List.append_eq_nil_iff.mp h).2 (by decide)
  have hdel : (Bufio.newWriter.write (toLower host.unicodeLower out)).delivered
      = deliveredText host out := by
    rw [deliveredText]
    split
    · rename_i hsh
      exact Bufio.delivered_write_of_length_le (hlen ▸ hsh)
    · rename_i hlong
      exact Bufio.delivered_write_of_lt_length (hlen ▸ Nat.not_le.mp hlong)
  rw [← hdel]
  simp only [snpMeasurementText, bind_ok_iff, mapError_ok_iff]
  refine ⟨service.igvmBinaryPath, ?_, _, ?_, rfl⟩
  · exact bind_ok_iff.mpr ⟨(), ensure_ok_iff.mpr hpath, rfl⟩
  · simp only [run, bind_ok_iff, mapError_ok_iff]
    exact ⟨out, hprt.exec, (), by rw [hline]; rfl, rfl⟩

/-- The call succeeds when the host data are valid and the generator takes the options. -/
theorem fetchAttestationPolicy_ok_iff {b : Bytes}
    (hvm : service.vms computationId = some (.qemu info)) (hsnp : info.enableSEVSNP = true)
    (hprt : Prints host service m out) (hm : hexDecode m = .ok d) :
    fetchAttestationPolicy host service uuids computationId = .ok b ↔
      ∃ hostData, snpHostData host info = .ok hostData ∧
        generateCoRIM host.toEnv uuids (snpOptions host service info out hostData) = .ok b := by
  have hoptions : ∀ opts, policyOptions host service info = .ok opts ↔
      ∃ hostData, snpHostData host info = .ok hostData ∧
        snpOptions host service info out hostData = opts := by
    intro opts
    rw [policyOptions, if_pos hsnp, snpMeasurementText_of_prints hprt hm]
    simp only [ok_bind, bind_ok_iff, pure_ok_iff]
    rfl
  rw [fetchAttestationPolicy, hvm]
  simp only [ofOption, ok_bind, bind_ok_iff, mapError_ok_iff, hoptions]
  constructor
  · intro h
    obtain ⟨_, ⟨hostData, hdata, rfl⟩, hgen⟩ := h
    exact ⟨hostData, hdata, hgen⟩
  · intro h
    obtain ⟨hostData, hdata, hgen⟩ := h
    exact ⟨_, ⟨hostData, hdata, rfl⟩, hgen⟩

/-- A measurement that is delivered has become its own text, which is longer. -/
theorem deliveredText_ne (hprt : Prints host service m out)
    (hm : hexDecode m = .ok d) (hlong : ¬ out.length ≤ Bufio.defaultBufSize) :
    deliveredText host out ≠ d := by
  obtain ⟨-, hlen⟩ := output_of_prints hprt hm
  obtain ⟨hdgts, -⟩ := length_of_hexDecode hm
  intro h
  rw [deliveredText, if_neg hlong] at h
  have hout : m.length ≤ out.length ∧ out.length ≤ m.length + 1 := by
    obtain rfl | rfl := hprt.line <;> simp
  rw [← h, hlen] at hdgts
  omega

/-- A policy that was made does not hold the measurement that was printed. -/
theorem not_publishes {b hostData : Bytes} (hlib : Lawful host.lib)
    (hprt : Prints host service m out) (hm : hexDecode m = .ok d)
    (hgen : generateCoRIM host.toEnv uuids (snpOptions host service info out hostData) = .ok b) :
    ¬ Publishes host.lib b d := by
  intro h
  obtain ⟨manifest, hload, hdgs, hdef⟩ := h
  have hmem : d ∈ manifestDigests host.lib manifest := by rw [hdgs]; simp
  have hstd := eq_of_mem_manifestDigests hlib
    (show lit "snp" ≠ lit "tdx" by decide) hgen hload hmem
  have hsnp : (snpOptions host service info out hostData).platform = lit "snp" := rfl
  rw [applyDefaults, if_pos hsnp] at hstd
  by_cases hsh : out.length ≤ Bufio.defaultBufSize
  · -- Nothing was delivered, and the default took the place of the empty measurement.
    have htext : (snpOptions host service info out hostData).measurement = [] := by
      rw [snpOptions, deliveredText, if_pos hsh]
      rfl
    simp only [htext, orDefault, if_true, snpDefaultMeasurement] at hstd
    rw [hexDecode_hexEncode] at hstd
    rw [Except.ok.inj hstd] at hdef
    exact hdef hmem
  · -- The text was delivered, and was encoded a second time.
    have htext : (snpOptions host service info out hostData).measurement
        = hexEncode (deliveredText host out) := rfl
    have hne : hexEncode (deliveredText host out) ≠ [] := by
      obtain ⟨-, hlen⟩ := output_of_prints hprt hm
      intro hnil
      have := length_hexEncode (deliveredText host out)
      rw [hnil, deliveredText, if_neg hsh, hlen] at this
      simp only [List.length_nil] at this
      omega
    simp only [htext, orDefault, if_neg hne] at hstd
    rw [hexDecode_hexEncode] at hstd
    exact deliveredText_ne hprt hm hsh (Except.ok.inj hstd)

/-- The policy of an SNP VM holds the measurement that the tool has printed exactly if there is
no policy: the host data are not valid, or the generator fails. -/
theorem published_measurement_iff (hlib : Lawful host.lib)
    (hvm : service.vms computationId = some (.qemu info)) (hsnp : info.enableSEVSNP = true)
    (hprints : Prints host service m out) (hm : hexDecode m = .ok d) :
    (∀ b, fetchAttestationPolicy host service uuids computationId = .ok b →
        Publishes host.lib b d) ↔
      ∀ hostData b, snpHostData host info = .ok hostData →
        generateCoRIM host.toEnv uuids (snpOptions host service info out hostData) ≠ .ok b := by
  constructor
  · intro h hostData b hdata hgen
    have hfetch := (fetchAttestationPolicy_ok_iff hvm hsnp hprints hm).mpr ⟨hostData, hdata, hgen⟩
    exact not_publishes hlib hprints hm hgen (h b hfetch)
  · intro h b hfetch
    obtain ⟨hostData, hdata, hgen⟩ := (fetchAttestationPolicy_ok_iff hvm hsnp hprints hm).mp hfetch
    exact absurd hgen (h hostData b hdata)

end Published

/-! ### A VM and its policy -/

/-- A manifest without a CoMID. -/
def sampleManifest : UnsignedCorim := { id := lit "snp-corim-01" }

/-- A host whose tool prints 48 bytes of `0xab`. -/
def sampleHost : Host Unit where
  lib := tableLibrary Attestation.sampleComid sampleManifest
  uuidString := hexEncode
  newSHA1 := id
  exec _ _ := .ok (hexEncode (List.replicate 48 0xab) ++ [0x0a])
  unicodeLower := id

/-- A service with two SNP VMs, the second of them with host data that are not valid. -/
def sampleService : Service Unit where
  vms := fun id =>
    if id = lit "vm" then some (.qemu { enableSEVSNP := true })
    else if id = lit "bad" then
      some (.qemu { enableSEVSNP := true, enableHostData := true, hostData := lit "xyz" })
    else none
  attestationPolicyBinaryPath := lit "/opt"
  cpu := []
  igvmFile := lit "vm.igvm"
  signingKey := none

theorem samplePrints : Prints sampleHost sampleService (hexEncode (List.replicate 48 0xab))
    (hexEncode (List.replicate 48 0xab) ++ [0x0a]) :=
  ⟨rfl, .inr rfl⟩

theorem published_measurement_sample :
    fetchAttestationPolicy sampleHost sampleService sampleUUIDs (lit "bad")
        = .error (.hostData "invalid SEV-SNP host data: expected 64 hex characters") ∧
      ∀ b, fetchAttestationPolicy sampleHost sampleService sampleUUIDs (lit "bad") = .ok b →
        Publishes sampleHost.lib b (List.replicate 48 0xab) := by
  refine ⟨by decide, ?_⟩
  have hvm : sampleService.vms (lit "bad")
      = some (.qemu { enableSEVSNP := true, enableHostData := true, hostData := lit "xyz" }) := by
    decide
  have hbad : snpHostData sampleHost
        { enableSEVSNP := true, enableHostData := true, hostData := lit "xyz" }
      = .error (.hostData "invalid SEV-SNP host data: expected 64 hex characters") := by
    decide
  refine (published_measurement_iff (tableLibrary_lawful _ _) hvm rfl samplePrints
    (hexDecode_hexEncode _)).mpr ?_
  intro hostData b hdata
  rw [hbad] at hdata
  cases hdata

/-- The policy of the first VM has no digest: nothing was delivered, the default does not fit
its algorithm, and the CoMID without a value is not added. -/
theorem published_policy_has_no_digest :
    Prints sampleHost sampleService (hexEncode (List.replicate 48 0xab))
        (hexEncode (List.replicate 48 0xab) ++ [0x0a]) ∧
      fetchAttestationPolicy sampleHost sampleService sampleUUIDs (lit "vm") = .ok [2] ∧
      parseCorim sampleHost.lib [2] = .ok sampleManifest ∧
      manifestDigests sampleHost.lib sampleManifest = [] :=
  ⟨samplePrints, by decide, by decide, by decide⟩

end SecureBinding.Manager
