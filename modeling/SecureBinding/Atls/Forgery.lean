import SecureBinding.Atls.Evidence
import SecureBinding.Attestation.GeneratedPolicy

/-!
# Atls.Forgery

Evidence made from public data.

`VerifyEvidence` decodes evidence without a key and only compares: with the TLS exporter of the
connection, which both of its ends know, and with the reference digests of the policy. Whoever
knows these can write a report that passes (`agrees_forgedClaims`), so acceptance is backed by a
signature exactly for policies that accept nothing (`evidence_authenticated_iff`).
-/

namespace SecureBinding.Atls

open Go Lib Corim Attestation
open Eat
open EAAttestation (EvidenceBinding)

variable {Key SigningKey Signer : Type} {env : Env Key SigningKey Signer} {policyPath : GoString}
  {evidence report quote digest : Bytes} {expected : EvidenceBinding} {claims : EATClaims}
  {platform : PlatformType} {manifest : UnsignedCorim}

/-! ### What a policy accepts -/

/-- A digest of the manifest that reports of the platform can match. -/
def Offers (env : Env Key SigningKey Signer) (platform : PlatformType) (manifest : UnsignedCorim)
    (digest : Bytes) : Prop :=
  match platform with
  | .SNP | .SNPvTPM | .VTPM =>
    digest ≠ [] ∧ searchValid env.corim "vTPM" digest manifest = .ok true
  | .Azure => digest ≠ [] ∧ searchIfValid env.corim digest manifest = .ok true
  | .TDX => digest.length = 48 ∧ searchValid env.corim "TDX" digest manifest = .ok true
  | .NoCC => False

/-- A report with a measurement that is found has one of the digests on offer. -/
theorem offers_of_measured (h : Measured env platform report manifest) :
    ∃ digest, Offers env platform manifest digest := by
  obtain ⟨verify, hvr, hvf⟩ := h
  have hsnp : Vtpm.verifyWithCoRIM env.corim env.parsers report (some manifest) = .ok () →
      ∃ digest, digest ≠ [] ∧ searchValid env.corim "vTPM" digest manifest = .ok true := by
    intro hvtpm
    obtain ⟨snp, hemb, hsea⟩ := vtpm_verifyWithCoRIM_ok_iff.mp hvtpm
    exact ⟨_, hemb.measured, hsea⟩
  cases platform with
  | SNP | VTPM | SNPvTPM =>
    obtain rfl := Except.ok.inj hvr
    exact hsnp hvf
  | Azure =>
    obtain rfl := Except.ok.inj hvr
    obtain ⟨snp, hemb, hsea⟩ := azure_verifyWithCoRIM_ok_iff.mp hvf
    exact ⟨_, hemb.measured, hsea⟩
  | TDX =>
    obtain rfl := Except.ok.inj hvr
    obtain ⟨hlen, hsea⟩ := tdx_verifyWithCoRIM_ok_iff.mp hvf
    refine ⟨_, ?_, hsea⟩
    rw [slice, List.length_drop, List.length_take]
    omega
  | NoCC => cases hvr

/-! ### Forged reports -/

/-- An attestation with the report data, the nonce and the measurement that are asked for. -/
def forgedAttestation (env : Env Key SigningKey Signer) (platform : PlatformType)
    (quote digest : Bytes) (expected : EvidenceBinding) : TpmAttestation where
  quotes := [quote]
  sevSnpAttestation := some ⟨some
    { measurement := digest
      reportData :=
        if platform = .SNPvTPM then env.sha3 expected.reportData else expected.reportData }⟩

/-- A TDX report with the measurement and the report data where the verifiers look for them. -/
def forgedTDXReport (digest : Bytes) (expected : EvidenceBinding) : Bytes :=
  List.replicate 112 0 ++ (digest ++ (List.replicate 360 0 ++ expected.reportData))

/-- Claims with the nonce that is asked for and a report. -/
def forgedClaims (platform : PlatformType) (report : Bytes) (expected : EvidenceBinding) :
    EATClaims where
  nonce := expected.nonce
  platformType := getPlatformTypeName platform
  rawReport := report

/-- The values above can be encoded: the attested data of a quote with the nonce, the
attestation, and the claims. -/
structure Encodes (env : Env Key SigningKey Signer) (platform : PlatformType)
    (expected : EvidenceBinding) : Prop where
  attestation : ∃ quote, env.parsers.decodeAttestationData quote = .ok expected.nonce ∧
    ∀ digest, ∃ report, env.parsers.unmarshalAttestation report
      = .ok (forgedAttestation env platform quote digest expected)
  claims : ∀ report, ∃ evidence, PlainClaims env.eat evidence (forgedClaims platform report expected)

theorem platformTypeFromClaims_getPlatformTypeName (platform : PlatformType) :
    platformTypeFromClaims (getPlatformTypeName platform) = platform := by
  cases platform <;> decide

theorem verifyEvidenceBinding_forgedAttestation (htdx : platform ≠ .TDX) (hnocc : platform ≠ .NoCC)
    (hquo : env.parsers.decodeAttestationData quote = .ok expected.nonce)
    (hrep : env.parsers.unmarshalAttestation report
      = .ok (forgedAttestation env platform quote digest expected)) :
    verifyEvidenceBinding env platform report expected = .ok () := by
  have hnon : verifyVTPMNonce env report expected.nonce = .ok () :=
    verifyVTPMNonce_ok_iff.mpr ⟨_, hrep, quote, List.mem_singleton.mpr rfl, hquo⟩
  have hsnp : platform ≠ .SNPvTPM →
      verifySNPReportData env report expected.reportData = .ok () := by
    intro hne
    rw [verifySNPReportData_of_embedded hrep rfl]
    exact compareSNPReportData_ok_iff.mpr ⟨_, rfl, if_neg hne⟩
  cases platform with
  | SNP => exact hsnp (by decide)
  | VTPM => exact hnon
  | SNPvTPM =>
    refine bind_ok_iff.mpr ⟨(), hnon, verifySNPvTPMReportData_ok_iff.mpr ?_⟩
    refine ⟨_, _, _, hrep, rfl, rfl, ?_⟩
    exact congrArg env.sha3 (List.append_nil _).symm
  | Azure => exact hsnp (by decide)
  | TDX => exact absurd rfl htdx
  | NoCC => exact absurd rfl hnocc

/-- A forged attestation with a digest on offer is measured. -/
theorem measured_forgedAttestation (htdx : platform ≠ .TDX)
    (hofs : Offers env platform manifest digest) (hrep : env.parsers.unmarshalAttestation report
      = .ok (forgedAttestation env platform quote digest expected)) :
    Measured env platform report manifest := by
  have hemb : digest ≠ [] → EmbedsSnp env.parsers report ⟨some
      { measurement := digest
        reportData :=
          if platform = .SNPvTPM then env.sha3 expected.reportData else expected.reportData }⟩ :=
    fun hne => ⟨⟨_, hrep, rfl⟩, hne⟩
  have hvtpm : digest ≠ [] ∧ searchValid env.corim "vTPM" digest manifest = .ok true →
      Vtpm.verifyWithCoRIM env.corim env.parsers report (some manifest) = .ok () :=
    fun h => vtpm_verifyWithCoRIM_ok_iff.mpr ⟨_, hemb h.1, h.2⟩
  cases platform with
  | SNP | VTPM | SNPvTPM => exact ⟨_, rfl, hvtpm hofs⟩
  | Azure => exact ⟨_, rfl, azure_verifyWithCoRIM_ok_iff.mpr ⟨_, hemb hofs.1, hofs.2⟩⟩
  | TDX => exact absurd rfl htdx
  | NoCC => exact hofs.elim

/-- A forged TDX report is bound to the session, and measured if its digest is on offer. -/
theorem forgedTDXReport_passes (hsize : expected.reportData.length = 64)
    (hofs : Offers env .TDX manifest digest) :
    verifyEvidenceBinding env .TDX (forgedTDXReport digest expected) expected = .ok () ∧
      Measured env .TDX (forgedTDXReport digest expected) manifest := by
  obtain ⟨hdig, hsea⟩ := hofs
  have hlen : (forgedTDXReport digest expected).length = 584 := by
    simp only [forgedTDXReport, List.length_append, List.length_replicate, hdig, hsize]
  have hmrtd : slice (forgedTDXReport digest expected) 112 160 = digest :=
    slice_append (by rw [List.length_replicate]) (by rw [List.length_replicate, hdig])
  have hdata : slice (forgedTDXReport digest expected) 0x208 0x248 = expected.reportData := by
    have hpts : forgedTDXReport digest expected
        = (List.replicate 112 0 ++ digest ++ List.replicate 360 0) ++ (expected.reportData ++ []) := by
      simp only [forgedTDXReport, List.append_assoc, List.append_nil]
    have hbef : (List.replicate 112 0 ++ digest ++ List.replicate 360 0).length = 0x208 := by
      simp only [List.length_append, List.length_replicate, hdig]
    rw [hpts]
    exact slice_append hbef.symm (by rw [hbef, hsize])
  constructor
  · exact verifyTDXReportData_ok_iff.mpr ⟨by omega, hdata⟩
  · refine ⟨_, rfl, tdx_verifyWithCoRIM_ok_iff.mpr ⟨by omega, ?_⟩⟩
    rw [hmrtd]
    exact hsea

/-- For every digest on offer there is a report, made of it and of the binding, with which
claims agree. -/
theorem agrees_forgedClaims (hsize : expected.reportData.length = 64)
    (hencodes : Encodes env platform expected) (hload : loadCoRIM env policyPath = .ok manifest)
    (hofs : Offers env platform manifest digest) :
    ∃ report, Agrees env policyPath (forgedClaims platform report expected) expected := by
  have hagr : ∀ report, verifyEvidenceBinding env platform report expected = .ok () →
      Measured env platform report manifest →
      Agrees env policyPath (forgedClaims platform report expected) expected := by
    intro report hbd hmea
    have hplat := platformTypeFromClaims_getPlatformTypeName platform
    exact ⟨rfl, by rw [forgedClaims, hplat]; exact hbd, manifest, hload,
      by rw [forgedClaims, hplat]; exact hmea⟩
  by_cases htdx : platform = .TDX
  · subst htdx
    obtain ⟨hbd, hmea⟩ := forgedTDXReport_passes hsize hofs
    exact ⟨_, hagr _ hbd hmea⟩
  · have hnocc : platform ≠ .NoCC := by
      rintro rfl
      exact hofs
    obtain ⟨quote, hquo, hreports⟩ := hencodes.attestation
    obtain ⟨report, hrep⟩ := hreports digest
    exact ⟨report, hagr report
      (verifyEvidenceBinding_forgedAttestation htdx hnocc hquo hrep)
      (measured_forgedAttestation htdx hofs hrep)⟩

/-! ### Acceptance and signatures -/

/-- If the evidence is accepted, a signature that covers the report was checked during the call
and found valid, under a key that is trusted for this evidence. -/
def Authenticated (trusted : Bytes → Key → Prop) (covers : SignatureCheck Key → Bytes → Prop)
    (env : Env Key SigningKey Signer) (policyPath : GoString) (evidence : Bytes)
    (expected : EvidenceBinding) : Prop :=
  newEvidenceVerifier env policyPath evidence expected = .ok () →
    ∃ claims, (decodeCBOR env.eat none evidence).1 = .ok claims ∧
      ∃ check ∈ (verifyEvidence env policyPath evidence expected).2,
        check.valid = true ∧ trusted evidence check.key ∧ covers check claims.rawReport

/-- Since no signature is checked, only evidence that is rejected is authenticated. -/
theorem authenticated_iff_not_agrees {trusted : Bytes → Key → Prop}
    {covers : SignatureCheck Key → Bytes → Prop} :
    Authenticated trusted covers env policyPath evidence expected ↔
      ¬ (policyPath ≠ [] ∧ ∃ claims, (decodeCBOR env.eat none evidence).1 = .ok claims ∧
        Agrees env policyPath claims expected) := by
  rw [← verifyEvidence_ok_iff]
  constructor
  · intro h hac
    obtain ⟨_, -, check, hchk, -⟩ := h hac
    rw [verifyEvidence_checks] at hchk
    cases hchk
  · intro h hac
    exact absurd hac h

/-- Accepted evidence is authenticated only when the comparisons fail, and all evidence of a
platform is authenticated exactly if the policy has no digest to offer for it. -/
theorem evidence_authenticated_iff (trusted : Bytes → Key → Prop)
    (covers : SignatureCheck Key → Bytes → Prop) (policyPath : GoString)
    (expected : EvidenceBinding) (platform : PlatformType) :
    (∀ evidence, Authenticated trusted covers env policyPath evidence expected ↔
        ¬ (policyPath ≠ [] ∧ ∃ claims, (decodeCBOR env.eat none evidence).1 = .ok claims ∧
          Agrees env policyPath claims expected)) ∧
      (expected.reportData.length = 64 → Encodes env platform expected →
        ((∀ evidence claims, (decodeCBOR env.eat none evidence).1 = .ok claims →
            platformTypeFromClaims claims.platformType = platform →
            Authenticated trusted covers env policyPath evidence expected) ↔
          ¬ (policyPath ≠ [] ∧ ∃ manifest digest, loadCoRIM env policyPath = .ok manifest ∧
            Offers env platform manifest digest))) := by
  refine ⟨fun evidence => authenticated_iff_not_agrees, fun hsize hencodes => ?_⟩
  simp only [authenticated_iff_not_agrees]
  constructor
  · intro h hofs
    obtain ⟨hpath, manifest, digest, hload, hofs⟩ := hofs
    obtain ⟨report, hagr⟩ := agrees_forgedClaims hsize hencodes hload hofs
    obtain ⟨evidence, hpl⟩ := hencodes.claims report
    have hdec : (decodeCBOR env.eat none evidence).1
        = .ok (forgedClaims platform report expected) :=
      decodeCBOR_ok_iff.mpr (.inr hpl)
    exact h evidence _ hdec (platformTypeFromClaims_getPlatformTypeName platform)
      ⟨hpath, _, hdec, hagr⟩
  · intro h evidence claims hdec hplat hac
    obtain ⟨hpath, claims', hdec', hagr⟩ := hac
    obtain rfl := Except.ok.inj (hdec.symm.trans hdec')
    obtain ⟨manifest, hload, hmea⟩ := hagr.measured
    rw [hplat] at hmea
    obtain ⟨digest, hofs⟩ := offers_of_measured hmea
    exact h ⟨hpath, manifest, digest, hload, hofs⟩

/-! ### A policy file and forged evidence -/

/-- What a session expects of evidence. -/
def sampleBinding : EvidenceBinding where
  reportData := List.replicate 64 5
  nonce := List.replicate 32 6
  binding := []
  exportedValue := []

/-- An environment with the given policy, in which a text is the evidence with itself as the
report, and a report is an attestation with itself as the measurement. -/
def sampleEnv (manifest : UnsignedCorim) : Env Unit Unit Unit where
  eat :=
    { sampleLibraries with
      cose := { sampleLibraries.cose with unmarshalSign1 := fun _ => .error "not a message" }
      unmarshalCBOR := fun report => .ok (forgedClaims .SNP report sampleBinding) }
  corim := tableLibrary sampleComid manifest
  parsers :=
    { unmarshalAttestation := fun report => .ok
        { quotes := [sampleBinding.nonce]
          sevSnpAttestation := some ⟨some
            { measurement := report, reportData := sampleBinding.reportData }⟩ }
      unmarshalSnp := fun _ => .error "not an SNP attestation"
      decodeAttestationData := .ok
      quoteToProto := fun _ => .error "not a quote" }
  sha3 := id
  readFile _ := .ok [2]

theorem sampleEnv_encodes (manifest : UnsignedCorim) :
    Encodes (sampleEnv manifest) .SNP sampleBinding where
  attestation := ⟨sampleBinding.nonce, rfl, fun digest => ⟨digest, rfl⟩⟩
  claims report := ⟨report, ⟨_, rfl⟩, rfl⟩

theorem empty_policy_is_authenticated :
    loadCoRIM (sampleEnv {}) (lit "policy") = .ok {} ∧
      ∀ evidence claims, (decodeCBOR (sampleEnv {}).eat none evidence).1 = .ok claims →
        platformTypeFromClaims claims.platformType = .SNP →
        Authenticated (fun _ _ => True) (fun _ _ => True) (sampleEnv {}) (lit "policy") evidence
          sampleBinding := by
  have hload : loadCoRIM (sampleEnv {}) (lit "policy") = .ok {} := by decide
  refine ⟨hload, ((evidence_authenticated_iff _ _ (lit "policy") sampleBinding .SNP).2
    (by decide) (sampleEnv_encodes {})).mpr ?_⟩
  intro h
  obtain ⟨-, manifest, digest, hload', -, hsea⟩ := h
  obtain rfl := Except.ok.inj (hload.symm.trans hload')
  cases hsea

/-- Evidence that holds the reference digest and the binding is accepted, and no signature was
checked. -/
theorem forged_evidence_is_accepted :
    (verifyEvidence (sampleEnv sampleManifest) (lit "policy") (List.replicate 32 7)
        sampleBinding).1 = .ok () ∧
      (verifyEvidence (sampleEnv sampleManifest) (lit "policy") (List.replicate 32 7)
        sampleBinding).2.length = 0 :=
  ⟨by decide, by decide⟩

end SecureBinding.Atls
