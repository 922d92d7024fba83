import SecureBinding.Attestation.VerifyCoRIM
import SecureBinding.EAAttestation.Verify
import SecureBinding.Eat.CodecSound

/-!
# Atls.Evidence

The model of `pkg/atls/evidence_verifier.go`: evidence is decoded, its report is compared with
what the TLS exporter yields, and its measurement with the reference values of a policy file.

`verifyEvidence` also returns the signatures that were checked during the call. The platform
verifiers and the loader of the policy check none: they have no key.
-/

namespace SecureBinding.Atls

open Go Lib Corim Attestation
open Eat
open EAAttestation (EvidenceBinding)

/-- What the verifier calls: the EAT codec, the CoRIM library, the parsers of reports, SHA3-512
and `os.ReadFile`. -/
structure Env (Key SigningKey Signer : Type) where
  eat : Libraries Key SigningKey
  corim : Library Signer
  parsers : Parsers
  sha3 : Bytes → Bytes
  readFile : GoString → Except String Bytes

def platformTypeFromClaims (name : GoString) : PlatformType :=
  if name = lit "SNP" then .SNP
  else if name = lit "TDX" then .TDX
  else if name = lit "vTPM" then .VTPM
  else if name = lit "SNP-vTPM" then .SNPvTPM
  else if name = lit "Azure" then .Azure
  else .NoCC

section Verifier

variable {Key SigningKey Signer : Type} (env : Env Key SigningKey Signer)

/-! ### The binding to the session -/

def verifyTDXReportData (report expectedReportData : Bytes) : Except String Unit := do
  ensure (0x248 ≤ report.length) "atls: TDX report too small to extract report data"
  ensure (slice report 0x208 0x248 = expectedReportData)
    "atls: TDX report data does not match TLS exporter binding"

def compareSNPReportData (snpReport : SnpAttestation) (expectedReportData : Bytes) :
    Except String Unit := do
  let report ← ofOption "atls: SNP attestation is missing report data" snpReport.report
  ensure (report.reportData = expectedReportData)
    "atls: SNP report data does not match TLS exporter binding"

def snpReportFromAttestation (report : Bytes) : Option SnpAttestation :=
  match env.parsers.unmarshalAttestation report with
  | .error _ => none
  | .ok att => att.sevSnpAttestation

def verifySNPReportData (report expectedReportData : Bytes) : Except String Unit :=
  match snpReportFromAttestation env report with
  | some snpReport => compareSNPReportData snpReport expectedReportData
  | none => do
    let snpAtt ← (env.parsers.unmarshalSnp report).mapError
      ("atls: failed to parse SNP attestation report: " ++ ·)
    compareSNPReportData snpAtt expectedReportData

def verifySNPvTPMReportData (report expectedReportData : Bytes) : Except String Unit := do
  let att ← (env.parsers.unmarshalAttestation report).mapError
    ("atls: failed to parse SNP-vTPM attestation report: " ++ ·)
  let snpReport ← ofOption "atls: SNP-vTPM attestation is missing embedded SNP report"
    att.sevSnpAttestation
  compareSNPReportData snpReport (env.sha3 (expectedReportData ++ att.akPub))

/-- The extra data of a quote are the nonce. A quote that does not decode is passed over. -/
def quoteHasNonce (expectedNonce quote : Bytes) : Bool :=
  match env.parsers.decodeAttestationData quote with
  | .error _ => false
  | .ok extraData => extraData == expectedNonce

def verifyVTPMNonce (report expectedNonce : Bytes) : Except String Unit := do
  let att ← (env.parsers.unmarshalAttestation report).mapError
    ("atls: failed to parse vTPM attestation report: " ++ ·)
  ensure (att.quotes.any (quoteHasNonce env expectedNonce) = true)
    "atls: vTPM quote nonce does not match TLS exporter binding"

def verifyEvidenceBinding (platformType : PlatformType) (report : Bytes)
    (expected : EvidenceBinding) : Except String Unit :=
  match platformType with
  | .TDX => verifyTDXReportData report expected.reportData
  | .SNP | .Azure => verifySNPReportData env report expected.reportData
  | .SNPvTPM => do
    verifyVTPMNonce env report expected.nonce
    verifySNPvTPMReportData env report expected.reportData
  | .VTPM => verifyVTPMNonce env report expected.nonce
  | .NoCC =>
    .error ("atls: unsupported platform type for binding verification: "
      ++ toString platformType.toNat)

/-! ### The policy -/

def loadCoRIM (path : GoString) : Except String UnsignedCorim := do
  let corimBytes ← (env.readFile path).mapError ("atls: failed to read CoRIM file: " ++ ·)
  (parseCorim env.corim corimBytes).mapError ("atls: failed to parse CoRIM: " ++ ·)

/-- `platformVerifier`, the verifier being its `VerifyWithCoRIM`. -/
def platformVerifier (platformType : PlatformType) :
    Except String (Bytes → Option UnsignedCorim → Except String Unit) :=
  match platformType with
  | .SNP | .SNPvTPM | .VTPM => .ok (Vtpm.verifyWithCoRIM env.corim env.parsers)
  | .Azure => .ok (Azure.verifyWithCoRIM env.corim env.parsers)
  | .TDX => .ok (Tdx.verifyWithCoRIM env.corim)
  | .NoCC => .error ("atls: unsupported platform type: " ++ toString platformType.toNat)

/-! ### Evidence -/

/-- The checks of `VerifyEvidence` on decoded claims. -/
def checkClaims (policyPath : GoString) (claims : EATClaims) (expected : EvidenceBinding) :
    Except String Unit := do
  ensure (claims.nonce = expected.nonce) "atls: evidence nonce does not match TLS exporter binding"
  let platformType := platformTypeFromClaims claims.platformType
  verifyEvidenceBinding env platformType claims.rawReport expected
  let manifest ← loadCoRIM env policyPath
  let verifyWithCoRIM ← platformVerifier env platformType
  verifyWithCoRIM claims.rawReport (some manifest)

/-- `VerifyEvidence`, with the signatures that were checked on the way. -/
def verifyEvidence (policyPath : GoString) (evidence : Bytes) (expected : EvidenceBinding) :
    Except String Unit × List (SignatureCheck Key) :=
  if policyPath = [] then (.error "atls: attestation policy path is not set", [])
  else
    let decoded := decodeCBOR env.eat none evidence
    (do
      let claims ← decoded.1.mapError ("atls: failed to decode EAT evidence: " ++ ·)
      checkClaims env policyPath claims expected,
      decoded.2)

/-- `NewEvidenceVerifier`: the verifier that a session is given. -/
def newEvidenceVerifier (policyPath : GoString) : EAAttestation.Verifier :=
  fun evidence expected => (verifyEvidence env policyPath evidence expected).1

end Verifier

/-! ### When evidence is accepted -/

section Accepted

variable {Key SigningKey Signer : Type} {env : Env Key SigningKey Signer} {policyPath : GoString}
  {evidence report : Bytes} {expected : EvidenceBinding} {claims : EATClaims}
  {platformType : PlatformType}

/-- The measurement of a report is found in a manifest: `VerifyWithCoRIM` of the platform. -/
def Measured (env : Env Key SigningKey Signer) (platformType : PlatformType) (report : Bytes)
    (manifest : UnsignedCorim) : Prop :=
  ∃ verifyWithCoRIM, platformVerifier env platformType = .ok verifyWithCoRIM ∧
    verifyWithCoRIM report (some manifest) = .ok ()

/-- All comparisons of `VerifyEvidence` on decoded claims succeed. -/
structure Agrees (env : Env Key SigningKey Signer) (policyPath : GoString) (claims : EATClaims)
    (expected : EvidenceBinding) : Prop where
  nonce : claims.nonce = expected.nonce
  bound : verifyEvidenceBinding env (platformTypeFromClaims claims.platformType) claims.rawReport
    expected = .ok ()
  measured : ∃ manifest, loadCoRIM env policyPath = .ok manifest ∧
    Measured env (platformTypeFromClaims claims.platformType) claims.rawReport manifest

variable {u : Unit} {data : Bytes}

theorem checkClaims_ok_iff :
    checkClaims env policyPath claims expected = .ok u ↔ Agrees env policyPath claims expected := by
  simp only [checkClaims, bind_ok_iff, ensure_ok_iff]
  constructor
  · intro h
    obtain ⟨_, hnon, _, hbd, manifest, hload, verify, hvr, hvf⟩ := h
    exact ⟨hnon, hbd, manifest, hload, verify, hvr, hvf⟩
  · intro h
    obtain ⟨hnon, hbd, manifest, hload, verify, hvr, hvf⟩ := h
    exact ⟨(), hnon, (), hbd, manifest, hload, verify, hvr, hvf⟩

/-- Evidence is accepted when it decodes, without a key, to claims that agree. -/
theorem verifyEvidence_ok_iff : (verifyEvidence env policyPath evidence expected).1 = .ok u ↔
      policyPath ≠ [] ∧ ∃ claims, (decodeCBOR env.eat none evidence).1 = .ok claims ∧
        Agrees env policyPath claims expected := by
  unfold verifyEvidence
  by_cases hpath : policyPath = []
  · rw [if_pos hpath]
    exact iff_of_false (fun h => nomatch h) fun h => h.1 hpath
  · rw [if_neg hpath]
    simp only [bind_ok_iff, mapError_ok_iff, checkClaims_ok_iff]
    exact ⟨fun h => ⟨hpath, h⟩, fun h => h.2⟩

/-- No signature is checked. -/
theorem verifyEvidence_checks : (verifyEvidence env policyPath evidence expected).2 = [] := by
  unfold verifyEvidence
  split
  · rfl
  · exact decodeCBOR_none_checks

theorem compareSNPReportData_ok_iff {snp : SnpAttestation} :
    compareSNPReportData snp data = .ok u ↔ ∃ r, snp.report = some r ∧ r.reportData = data := by
  simp only [compareSNPReportData, bind_ok_iff, ofOption_ok_iff, ensure_ok_iff]

theorem verifyTDXReportData_ok_iff : verifyTDXReportData report data = .ok u ↔
      0x248 ≤ report.length ∧ slice report 0x208 0x248 = data := by
  simp only [verifyTDXReportData, bind_ok_iff, ensure_ok_iff]
  constructor
  · intro h
    obtain ⟨_, hlen, hdata⟩ := h
    exact ⟨hlen, hdata⟩
  · intro h
    exact ⟨(), h⟩

theorem verifyVTPMNonce_ok_iff {nonce : Bytes} : verifyVTPMNonce env report nonce = .ok u ↔
      ∃ att, env.parsers.unmarshalAttestation report = .ok att ∧
        ∃ quote ∈ att.quotes, env.parsers.decodeAttestationData quote = .ok nonce := by
  have hquo : ∀ quote, quoteHasNonce env nonce quote = true ↔
      env.parsers.decodeAttestationData quote = .ok nonce := by
    intro quote
    unfold quoteHasNonce
    cases env.parsers.decodeAttestationData quote <;> simp
  simp only [verifyVTPMNonce, bind_ok_iff, mapError_ok_iff, ensure_ok_iff, List.any_eq_true, hquo]

theorem verifySNPvTPMReportData_ok_iff : verifySNPvTPMReportData env report data = .ok u ↔
      ∃ att snp r, env.parsers.unmarshalAttestation report = .ok att ∧
        att.sevSnpAttestation = some snp ∧ snp.report = some r ∧
        r.reportData = env.sha3 (data ++ att.akPub) := by
  simp only [verifySNPvTPMReportData, bind_ok_iff, mapError_ok_iff, ofOption_ok_iff,
    compareSNPReportData_ok_iff]
  constructor
  · intro h
    obtain ⟨att, hatt, snp, hsnp, r, hr, hdata⟩ := h
    exact ⟨att, snp, r, hatt, hsnp, hr, hdata⟩
  · intro h
    obtain ⟨att, snp, r, hatt, hsnp, hr, hdata⟩ := h
    exact ⟨att, hatt, snp, hsnp, r, hr, hdata⟩

/-- The report data that are compared for an embedded SNP report are its own. -/
theorem verifySNPReportData_of_embedded {att : TpmAttestation} {snp : SnpAttestation}
    (hatt : env.parsers.unmarshalAttestation report = .ok att)
    (hsnp : att.sevSnpAttestation = some snp) :
    verifySNPReportData env report data = compareSNPReportData snp data := by
  have hfrom : snpReportFromAttestation env report = some snp := by
    rw [snpReportFromAttestation, hatt]
    exact hsnp
  rw [verifySNPReportData, hfrom]

end Accepted

end SecureBinding.Atls
