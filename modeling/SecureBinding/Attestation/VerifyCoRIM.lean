import SecureBinding.Attestation.Corim
import SecureBinding.Attestation.Reports

/-!
# Attestation.VerifyCoRIM

The model of `VerifyWithCoRIM` of `pkg/attestation/vtpm`, `azure` and `tdx`: the measurement of
a report is looked for among the digests of a manifest.

The three share their loops over tags, reference values, measurements and digests. They differ
in the bytes they take for the measurement, in the texts of their errors, and in what an
invalid reference value does: it ends the search of the vTPM and the TDX verifier with an
error, and is passed over by the Azure one.
-/

namespace SecureBinding.Attestation

open Go Lib Corim

/-- The digests of a reference value, in the order of the loops. -/
def referenceDigests (rv : ReferenceValue) : List Bytes :=
  rv.measurements.flatMap fun m => (m.digests.getD []).map HashEntry.hashValue

/-- A manifest that is nil is dereferenced: the call panics. -/
def nilDereference : String := "runtime error: invalid memory address or nil pointer dereference"

section Verifiers

variable {Signer : Type} (lib : Library Signer) (parsers : Parsers)

/-! ### The search -/

/-- The reference values of a tag. Tags that do not hold a CoMID are passed over. -/
def tagReferenceValues (parseError : String) (tag : Bytes) : Except String (List ReferenceValue) :=
  if comidTag <+: tag then do
    let c ← (lib.comidFromCBOR (tag.drop comidTag.length)).mapError (parseError ++ ·)
    return c.referenceValues.getD []
  else .ok []

/-- The loops over the tags of a manifest and the reference values of a tag. -/
def searchTags (parseError : String) (matchValue : ReferenceValue → Except String Bool)
    (manifest : UnsignedCorim) : Except String Bool :=
  manifest.tags.anyM fun tag => do
    let rvs ← tagReferenceValues lib parseError tag
    rvs.anyM matchValue

/-- A reference value in the loops of `vtpm` and `tdx`: it must be valid. -/
def matchValid (platform : String) (measurement : Bytes) (rv : ReferenceValue) :
    Except String Bool := do
  (lib.measurementsValid rv.measurements).mapError
    ("invalid CoRIM measurements for " ++ platform ++ ": " ++ ·)
  return (referenceDigests rv).contains measurement

/-- A reference value in the loops of `azure`: one that is not valid does not count. -/
def matchIfValid (measurement : Bytes) (rv : ReferenceValue) : Except String Bool :=
  match lib.referenceValueValid rv with
  | .error _ => .ok false
  | .ok _ => .ok ((referenceDigests rv).contains measurement)

/-- The search of `vtpm` and `tdx`. -/
def searchValid (platform : String) (measurement : Bytes) (manifest : UnsignedCorim) :
    Except String Bool :=
  searchTags lib "failed to parse CoMID from tag: " (matchValid lib platform measurement) manifest

/-- The search of `azure`. -/
def searchIfValid (measurement : Bytes) (manifest : UnsignedCorim) : Except String Bool :=
  searchTags lib "failed to parse CoMID: " (matchIfValid lib measurement) manifest

/-- All reference digests of a manifest, whether or not a search reaches them. -/
def manifestDigests (manifest : UnsignedCorim) : List Bytes :=
  manifest.tags.flatMap fun tag =>
    match tagReferenceValues lib "" tag with
    | .ok rvs => rvs.flatMap referenceDigests
    | .error _ => []

/-! ### The verifiers -/

/-- The measurement of the SNP report that is embedded in a report. -/
def snpMeasurement (report : Bytes) : Except String Bytes := do
  let attestation ← (parsers.unmarshalAttestation report).mapError
    ("failed to unmarshal attestation report: " ++ ·)
  let snp ← ofOption "no SEV-SNP attestation found in report" attestation.sevSnpAttestation
  ensure (snp.measurement ≠ []) "no measurement in SEV-SNP report"
  return snp.measurement

/-- `VerifyWithCoRIM` of `vtpm`. -/
def Vtpm.verifyWithCoRIM (report : Bytes) (manifest : Option UnsignedCorim) :
    Except String Unit := do
  let manifest ← ofOption "CoRIM manifest is nil" manifest
  let measurement ← snpMeasurement parsers report
  let found ← searchValid lib "vTPM" measurement manifest
  ensure (found = true) "no matching reference value found in CoRIM for vTPM"

/-- `VerifyWithCoRIM` of `azure`. -/
def Azure.verifyWithCoRIM (report : Bytes) (manifest : Option UnsignedCorim) :
    Except String Unit := do
  let measurement ← snpMeasurement parsers report
  let manifest ← ofOption nilDereference manifest
  ensure (manifest.tags ≠ []) "no tags in CoRIM"
  let found ← searchIfValid lib measurement manifest
  ensure (found = true) "no matching reference value found in CoRIM for Azure SEV-SNP"

/-- `VerifyWithCoRIM` of `tdx`. -/
def Tdx.verifyWithCoRIM (report : Bytes) (manifest : Option UnsignedCorim) :
    Except String Unit := do
  let manifest ← ofOption "CoRIM manifest is nil" manifest
  ensure (160 ≤ report.length) "TDX report too small to extract MRTD"
  let found ← searchValid lib "TDX" (slice report 112 160) manifest
  ensure (found = true) "no matching reference value found in CoRIM for TDX"

end Verifiers

/-! ### When the verifiers accept -/

section Accepted

variable {Signer : Type} {lib : Library Signer} {parsers : Parsers} {report measurement : Bytes}
  {manifest : UnsignedCorim}

/-- The report embeds an SNP report that holds a measurement. -/
structure EmbedsSnp (parsers : Parsers) (report : Bytes) (snp : SnpAttestation) : Prop where
  embedded : ∃ att, parsers.unmarshalAttestation report = .ok att ∧ att.sevSnpAttestation = some snp
  measured : snp.measurement ≠ []

theorem snpMeasurement_ok_iff :
    snpMeasurement parsers report = .ok measurement ↔
      ∃ snp, EmbedsSnp parsers report snp ∧ snp.measurement = measurement := by
  simp only [snpMeasurement, bind_ok_iff, mapError_ok_iff, ofOption_ok_iff,
    ensure_ok_iff, pure_ok_iff]
  constructor
  · intro h
    obtain ⟨att, hatt, snp, hsnp, _, hne, hm⟩ := h
    exact ⟨snp, ⟨⟨att, hatt, hsnp⟩, hne⟩, hm⟩
  · intro h
    obtain ⟨snp, ⟨⟨att, hatt, hsnp⟩, hne⟩, hm⟩ := h
    exact ⟨att, hatt, snp, hsnp, (), hne, hm⟩

theorem EmbedsSnp.unique {snp snp' : SnpAttestation} (h : EmbedsSnp parsers report snp)
    (h' : EmbedsSnp parsers report snp') : snp = snp' := by
  obtain ⟨⟨att, hatt, hsnp⟩, -⟩ := h
  obtain ⟨⟨att', hatt', hsnp'⟩, -⟩ := h'
  obtain rfl : att = att' := Except.ok.inj (hatt.symm.trans hatt')
  exact Option.some.inj (hsnp.symm.trans hsnp')

theorem vtpm_verifyWithCoRIM_ok_iff {u : Unit} :
    Vtpm.verifyWithCoRIM lib parsers report (some manifest) = .ok u ↔
      ∃ snp, EmbedsSnp parsers report snp ∧
        searchValid lib "vTPM" snp.measurement manifest = .ok true := by
  simp only [Vtpm.verifyWithCoRIM, bind_ok_iff, ofOption_ok_iff, Option.some.injEq,
    snpMeasurement_ok_iff, ensure_ok_iff]
  constructor
  · intro h
    obtain ⟨_, rfl, _, ⟨snp, hsnp, rfl⟩, _, hsea, rfl⟩ := h
    exact ⟨snp, hsnp, hsea⟩
  · intro h
    obtain ⟨snp, hsnp, hsea⟩ := h
    exact ⟨manifest, rfl, _, ⟨snp, hsnp, rfl⟩, true, hsea, rfl⟩

/-- A search that finds something had a tag to look at. -/
theorem tags_ne_nil_of_searchTags {parseError : String}
    {matchValue : ReferenceValue → Except String Bool}
    (h : searchTags lib parseError matchValue manifest = .ok true) : manifest.tags ≠ [] := by
  obtain ⟨tag, htag, -⟩ := exists_of_anyM_eq_ok_true h
  exact List.ne_nil_of_mem htag

theorem azure_verifyWithCoRIM_ok_iff {u : Unit} :
    Azure.verifyWithCoRIM lib parsers report (some manifest) = .ok u ↔
      ∃ snp, EmbedsSnp parsers report snp ∧
        searchIfValid lib snp.measurement manifest = .ok true := by
  simp only [Azure.verifyWithCoRIM, bind_ok_iff, ofOption_ok_iff, Option.some.injEq,
    snpMeasurement_ok_iff, ensure_ok_iff]
  constructor
  · intro h
    obtain ⟨_, ⟨snp, hsnp, rfl⟩, _, rfl, _, -, _, hsea, rfl⟩ := h
    exact ⟨snp, hsnp, hsea⟩
  · intro h
    obtain ⟨snp, hsnp, hsea⟩ := h
    exact ⟨_, ⟨snp, hsnp, rfl⟩, manifest, rfl, (), tags_ne_nil_of_searchTags hsea, true, hsea, rfl⟩

theorem tdx_verifyWithCoRIM_ok_iff {u : Unit} :
    Tdx.verifyWithCoRIM lib report (some manifest) = .ok u ↔
      160 ≤ report.length ∧ searchValid lib "TDX" (slice report 112 160) manifest = .ok true := by
  simp only [Tdx.verifyWithCoRIM, bind_ok_iff, ofOption_ok_iff, Option.some.injEq, ensure_ok_iff]
  constructor
  · intro h
    obtain ⟨_, rfl, _, hlen, _, hsea, rfl⟩ := h
    exact ⟨hlen, hsea⟩
  · intro h
    obtain ⟨hlen, hsea⟩ := h
    exact ⟨manifest, rfl, (), hlen, true, hsea, rfl⟩

/-! ### Manifests with one CoMID -/

theorem tagReferenceValues_comid {parseError : String} {c : Comid} {b : Bytes}
    (h : lib.comidFromCBOR b = .ok c) :
    tagReferenceValues lib parseError (comidTag ++ b) = .ok (c.referenceValues.getD []) := by
  rw [tagReferenceValues, if_pos (List.prefix_append _ _), List.drop_left, h]
  rfl

/-- The search through a manifest of one CoMID with one reference value. -/
theorem searchTags_singleton {parseError : String}
    {matchValue : ReferenceValue → Except String Bool} {c : Comid} {rv : ReferenceValue} {b : Bytes}
    (htags : manifest.tags = [comidTag ++ b]) (h : lib.comidFromCBOR b = .ok c)
    (hrvs : c.referenceValues = some [rv]) :
    searchTags lib parseError matchValue manifest = .ok true ↔ matchValue rv = .ok true := by
  have hone : ∀ {α : Type} {p : α → Except String Bool} {a : α},
      [a].anyM p = .ok true ↔ p a = .ok true := by
    intro α p a
    rw [List.anyM_cons, bind_ok_iff]
    constructor
    · intro h
      obtain ⟨hit, ha, h⟩ := h
      cases hit with
      | true => exact ha
      | false => cases h
    · intro ha
      exact ⟨true, ha, rfl⟩
  rw [searchTags, htags, hone, tagReferenceValues_comid h, hrvs]
  exact hone

end Accepted

end SecureBinding.Attestation
