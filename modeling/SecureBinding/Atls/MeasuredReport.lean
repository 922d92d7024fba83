import SecureBinding.Atls.Forgery

/-!
# Atls.MeasuredReport

Which report is measured, and which one is bound to the session.

* `measured_report_bound_iff`: for a vTPM the quote is bound and an SNP report beside it is
  measured, and for TDX other bytes are compared than those of REPORTDATA. For the other
  platforms the two are the same report.
* `tdx_fields_agree_iff`: the fields of a TDX quote that the verifiers look at are RTMR3 with the
  first bytes of REPORTDATA, and MRSIGNERSEAM.
-/

namespace SecureBinding.Atls

open Go Lib Corim Attestation
open Eat
open EAAttestation (EvidenceBinding)

variable {Key SigningKey Signer : Type} {env : Env Key SigningKey Signer} {policyPath : GoString}
  {evidence report : Bytes} {expected : EvidenceBinding} {claims : EATClaims}
  {platform : PlatformType} {manifest : UnsignedCorim}

/-! ### The report that is measured -/

/-- The report data of the embedded SNP report are those of the session or, for an SNP-vTPM,
the hash over them and the attestation key. -/
def SnpBound (env : Env Key SigningKey Signer) (platform : PlatformType) (report : Bytes)
    (expected : EvidenceBinding) : Prop :=
  ∃ att snp r, env.parsers.unmarshalAttestation report = .ok att ∧
    att.sevSnpAttestation = some snp ∧ snp.report = some r ∧
    (r.reportData = expected.reportData ∨
      platform = .SNPvTPM ∧ r.reportData = env.sha3 (expected.reportData ++ att.akPub))

/-- The report is a TDX quote whose REPORTDATA are those of the session. -/
def TdxBound (env : Env Key SigningKey Signer) (report : Bytes) (expected : EvidenceBinding) :
    Prop :=
  ∃ quote, env.parsers.quoteToProto report = .ok (.v4 quote) ∧
    quote.tdQuoteBody.reportData = expected.reportData

/-- The report that is measured is bound to the session by its own report data. It is never a
TPM quote: what `VerifyWithCoRIM` measures is an SNP report or a TDX quote. -/
def MeasuredReportBound (env : Env Key SigningKey Signer) (platform : PlatformType)
    (report : Bytes) (expected : EvidenceBinding) : Prop :=
  if platform = .TDX then TdxBound env report expected else SnpBound env platform report expected

/-- A report whose measurement was found, except a TDX quote, embeds an SNP report. -/
theorem embedsSnp_of_measured (htdx : platform ≠ .TDX)
    (h : Measured env platform report manifest) : ∃ snp, EmbedsSnp env.parsers report snp := by
  obtain ⟨verify, hvr, hvf⟩ := h
  have hvtpm : Vtpm.verifyWithCoRIM env.corim env.parsers report (some manifest) = .ok () →
      ∃ snp, EmbedsSnp env.parsers report snp := by
    intro h
    obtain ⟨snp, hsnp, -⟩ := vtpm_verifyWithCoRIM_ok_iff.mp h
    exact ⟨snp, hsnp⟩
  cases platform with
  | SNP | VTPM | SNPvTPM =>
    obtain rfl := Except.ok.inj hvr
    exact hvtpm hvf
  | Azure =>
    obtain rfl := Except.ok.inj hvr
    obtain ⟨snp, hsnp, -⟩ := azure_verifyWithCoRIM_ok_iff.mp hvf
    exact ⟨snp, hsnp⟩
  | TDX => exact absurd rfl htdx
  | NoCC => cases hvr

/-- The report data that `verifySNPReportData` compares are those of the SNP report that is
measured: a report that is an SNP report alone passes the comparison but cannot be measured. -/
theorem snpBound_of_verifySNPReportData
    (hbd : verifySNPReportData env report expected.reportData = .ok ())
    (hemb : ∃ snp, EmbedsSnp env.parsers report snp) : SnpBound env platform report expected := by
  obtain ⟨snp, ⟨att, hatt, hsnp⟩, -⟩ := hemb
  rw [verifySNPReportData_of_embedded hatt hsnp, compareSNPReportData_ok_iff] at hbd
  obtain ⟨r, hr, hdata⟩ := hbd
  exact ⟨att, snp, r, hatt, hsnp, hr, .inl hdata⟩

/-- Claims that agree are about a bound report, unless the platform is a vTPM or TDX. -/
theorem snpBound_of_agrees (hagr : Agrees env policyPath claims expected)
    (hvtpm : platformTypeFromClaims claims.platformType ≠ .VTPM)
    (htdx : platformTypeFromClaims claims.platformType ≠ .TDX) :
    SnpBound env (platformTypeFromClaims claims.platformType) claims.rawReport expected := by
  obtain ⟨manifest, -, hmea⟩ := hagr.measured
  have hemb := embedsSnp_of_measured htdx hmea
  have hbd := hagr.bound
  cases hplat : platformTypeFromClaims claims.platformType with
  | SNP | Azure =>
    rw [hplat] at hbd
    exact snpBound_of_verifySNPReportData hbd hemb
  | VTPM => exact absurd hplat hvtpm
  | SNPvTPM =>
    rw [hplat] at hbd
    obtain ⟨_, -, hdata⟩ := bind_ok_iff.mp hbd
    obtain ⟨att, snp, r, hatt, hsnp, hr, hhash⟩ := verifySNPvTPMReportData_ok_iff.mp hdata
    exact ⟨att, snp, r, hatt, hsnp, hr, .inr ⟨rfl, hhash⟩⟩
  | TDX => exact absurd hplat htdx
  | NoCC =>
    rw [hplat] at hbd
    cases hbd

/-- The measured report of accepted evidence is bound to the session exactly if, for a vTPM with
a fresh quote, the SNP report beside the quote has the report data of the session, and for TDX a
report with the report data at offset 520 has them in its REPORTDATA too. -/
theorem measured_report_bound_iff (hdecode : (decodeCBOR env.eat none evidence).1 = .ok claims) :
    ((verifyEvidence env policyPath evidence expected).1 = .ok () →
        MeasuredReportBound env (platformTypeFromClaims claims.platformType) claims.rawReport
          expected) ↔
      ∀ manifest, policyPath ≠ [] → claims.nonce = expected.nonce →
        loadCoRIM env policyPath = .ok manifest →
        (platformTypeFromClaims claims.platformType = .VTPM →
          verifyVTPMNonce env claims.rawReport expected.nonce = .ok () →
          Measured env .VTPM claims.rawReport manifest →
          SnpBound env .VTPM claims.rawReport expected) ∧
        (platformTypeFromClaims claims.platformType = .TDX →
          verifyTDXReportData claims.rawReport expected.reportData = .ok () →
          Measured env .TDX claims.rawReport manifest →
          TdxBound env claims.rawReport expected) := by
  -- The decoder gives one set of claims, so acceptance is a matter of these.
  have hac : (verifyEvidence env policyPath evidence expected).1 = .ok () ↔
      policyPath ≠ [] ∧ Agrees env policyPath claims expected := by
    rw [verifyEvidence_ok_iff]
    constructor
    · intro h
      obtain ⟨hpath, claims', hdecode', hagr⟩ := h
      obtain rfl := Except.ok.inj (hdecode.symm.trans hdecode')
      exact ⟨hpath, hagr⟩
    · intro h
      exact ⟨h.1, claims, hdecode, h.2⟩
  rw [hac]
  constructor
  · intro h manifest hpath hnon hload
    constructor
    · intro hplat hquo hmea
      have hbd := h ⟨hpath, hnon, by rw [hplat]; exact hquo, manifest, hload,
        by rw [hplat]; exact hmea⟩
      rw [hplat, MeasuredReportBound, if_neg (by decide)] at hbd
      exact hbd
    · intro hplat hdata hmea
      have hbd := h ⟨hpath, hnon, by rw [hplat]; exact hdata, manifest, hload,
        by rw [hplat]; exact hmea⟩
      rw [hplat, MeasuredReportBound, if_pos rfl] at hbd
      exact hbd
  · intro h hagr
    obtain ⟨hpath, hagr⟩ := hagr
    obtain ⟨hnon, hbin, manifest, hload, hmea⟩ := id hagr
    obtain ⟨hvtpm, htdx⟩ := h manifest hpath hnon hload
    -- On the other platforms the report that is measured is the one that was checked.
    by_cases hplat : platformTypeFromClaims claims.platformType = .VTPM
    · rw [hplat] at hbin hmea
      rw [MeasuredReportBound, hplat, if_neg (by decide)]
      exact hvtpm hplat hbin hmea
    · by_cases hplat' : platformTypeFromClaims claims.platformType = .TDX
      · rw [hplat'] at hbin hmea
        rw [MeasuredReportBound, hplat', if_pos rfl]
        exact htdx hplat' hbin hmea
      · rw [MeasuredReportBound, if_neg hplat']
        exact snpBound_of_agrees hagr hplat hplat'

theorem measured_report_bound_sample :
    (verifyEvidence (sampleEnv sampleManifest) (lit "policy") (List.replicate 32 7)
        sampleBinding).1 = .ok () ∧
      MeasuredReportBound (sampleEnv sampleManifest) .SNP (List.replicate 32 7) sampleBinding := by
  have hdec : (decodeCBOR (sampleEnv sampleManifest).eat none (List.replicate 32 7)).1
      = .ok (forgedClaims .SNP (List.replicate 32 7) sampleBinding) := by
    decide
  have hac : (verifyEvidence (sampleEnv sampleManifest) (lit "policy") (List.replicate 32 7)
      sampleBinding).1 = .ok () := by
    decide
  have hplat : platformTypeFromClaims
      (forgedClaims .SNP (List.replicate 32 7) sampleBinding).platformType = .SNP :=
    platformTypeFromClaims_getPlatformTypeName .SNP
  have hbd := (measured_report_bound_iff hdec).mpr
    (fun manifest _ _ _ => ⟨fun h => absurd (hplat.symm.trans h) (by decide),
      fun h => absurd (hplat.symm.trans h) (by decide)⟩) hac
  rw [hplat] at hbd
  exact ⟨hac, hbd⟩

/-- A report with a fresh quote, and an SNP report of another session beside it. -/
def staleEnv : Env Unit Unit Unit :=
  { sampleEnv sampleManifest with
    eat :=
      { (sampleEnv sampleManifest).eat with
        unmarshalCBOR := fun report => .ok (forgedClaims .VTPM report sampleBinding) }
    parsers := tableParsers
      [([1], { quotes := [sampleBinding.nonce]
               sevSnpAttestation := some ⟨some
                 { measurement := List.replicate 32 7, reportData := List.replicate 64 1 }⟩ })] [] }

/-- The stale SNP report supplies the measurement of accepted evidence. -/
theorem stale_report_is_measured :
    (verifyEvidence staleEnv (lit "policy") [1] sampleBinding).1 = .ok () ∧
      ¬ MeasuredReportBound staleEnv .VTPM [1] sampleBinding := by
  refine ⟨by decide, ?_⟩
  intro h
  obtain ⟨att, snp, r, hatt, hsnp, hr, hdata⟩ := h
  obtain rfl := Except.ok.inj hatt
  obtain rfl := Option.some.inj hsnp
  obtain rfl := Option.some.inj hr
  obtain hdata | ⟨hplat, -⟩ := hdata
  · exact absurd hdata (by decide)
  · cases hplat

/-! ### The fields of a TDX quote -/

/-- The digest is the main one of a reference value: the generator lists MRTD first, and MRSEAM
and the RTMRs after it. -/
def ListedAsMRTD (lib : Library Signer) (manifest : UnsignedCorim) (digest : Bytes) : Prop :=
  ∃ tag ∈ manifest.tags, ∃ rvs, tagReferenceValues lib "" tag = .ok rvs ∧
    ∃ rv ∈ rvs, ∃ main more, rv.measurements = main :: more ∧
      digest ∈ (main.digests.getD []).map HashEntry.hashValue

/-- `verifyTDXReportData` and `VerifyWithCoRIM` are about REPORTDATA and MRTD of a quote exactly
if RTMR3 followed by 16 bytes of REPORTDATA, and MRSIGNERSEAM, lead to the same verdicts. The
claims of a quote have its MRTD. -/
theorem tdx_fields_agree_iff {parsers : Parsers} {lib : Library Signer} {quote : QuoteV4}
    (hparsers : parsers.QuoteLawful) (hquote : parsers.quoteToProto report = .ok (.v4 quote))
    (data : Bytes) (manifest : UnsignedCorim) :
    (((verifyTDXReportData report data = .ok () ↔ quote.tdQuoteBody.reportData = data) ∧
        (Tdx.verifyWithCoRIM lib report (some manifest) = .ok () →
          ListedAsMRTD lib manifest quote.tdQuoteBody.mrTd)) ↔
      (quote.tdQuoteBody.rtmr3 ++ quote.tdQuoteBody.reportData.take 16 = data ↔
          quote.tdQuoteBody.reportData = data) ∧
        (searchValid lib "TDX" quote.tdQuoteBody.mrSignerSeam manifest = .ok true →
          ListedAsMRTD lib manifest quote.tdQuoteBody.mrTd)) ∧
      ∀ claims claims', extractTDXClaims parsers claims report = .ok claims' →
        claims'.measurements = quote.tdQuoteBody.mrTd := by
  have hlayout := hparsers hquote
  have hlen := length_of_laidOut hlayout
  have hdata : verifyTDXReportData report data = .ok () ↔
      quote.tdQuoteBody.rtmr3 ++ quote.tdQuoteBody.reportData.take 16 = data := by
    rw [verifyTDXReportData_ok_iff, slice_rtmr3 hlayout]
    exact ⟨fun h => h.2, fun h => ⟨by omega, h⟩⟩
  have hmrtd : Tdx.verifyWithCoRIM lib report (some manifest) = .ok () ↔
      searchValid lib "TDX" quote.tdQuoteBody.mrSignerSeam manifest = .ok true := by
    rw [tdx_verifyWithCoRIM_ok_iff, slice_mrSignerSeam hlayout]
    exact ⟨fun h => h.2, fun h => ⟨by omega, h⟩⟩
  refine ⟨by rw [hdata, hmrtd], ?_⟩
  intro claims claims' hext
  exact measurements_of_extractTDXClaims hquote hext

/-- A quote with a different byte in each of the fields that matter. -/
def sampleQuote : QuoteV4 where
  signature := []
  tdQuoteBody :=
    { teeTcbSvn := List.replicate 16 0, mrSeam := List.replicate 48 0
      mrSignerSeam := List.replicate 48 1, seamAttributes := List.replicate 8 0
      tdAttributes := List.replicate 8 0, xfam := List.replicate 8 0
      mrTd := List.replicate 48 2, mrConfigId := List.replicate 48 0
      mrOwner := List.replicate 48 0, mrOwnerConfig := List.replicate 48 0
      rtmr0 := List.replicate 48 0, rtmr1 := List.replicate 48 0, rtmr2 := List.replicate 48 0
      rtmr3 := List.replicate 48 3, reportData := List.replicate 64 4 }

def sampleRawQuote : Bytes := List.replicate 48 0 ++ sampleQuote.tdQuoteBody.bytes

/-- Parsers that know the sample quote. -/
def quoteParsers : Parsers := tableParsers [] [(sampleRawQuote, sampleQuote)]

theorem quoteParsers_lawful : quoteParsers.QuoteLawful := by
  intro raw quote h
  obtain ⟨quote', hlkp, hquo⟩ := map_ok_iff.mp h
  rw [ofOption_ok_iff, List.lookup_cons] at hlkp
  cases hraw : raw == sampleRawQuote with
  | false =>
    rw [hraw] at hlkp
    cases hlkp
  | true =>
    rw [hraw] at hlkp
    cases hlkp
    cases hquo
    obtain rfl := beq_iff_eq.mp hraw
    refine ⟨?_, List.replicate 48 0, [], rfl, (List.append_nil _).symm⟩
    constructor <;> rfl

theorem tdx_fields_agree_sample :
    quoteParsers.quoteToProto sampleRawQuote = .ok (.v4 sampleQuote) ∧
      (verifyTDXReportData sampleRawQuote (List.replicate 64 9) = .ok () ↔
        sampleQuote.tdQuoteBody.reportData = List.replicate 64 9) ∧
      (Tdx.verifyWithCoRIM (tableLibrary sampleComid {}) sampleRawQuote (some {}) = .ok () →
        ListedAsMRTD (tableLibrary sampleComid {}) {} sampleQuote.tdQuoteBody.mrTd) := by
  have hquo : quoteParsers.quoteToProto sampleRawQuote = .ok (.v4 sampleQuote) := by
    decide +kernel
  refine ⟨hquo, ((tdx_fields_agree_iff quoteParsers_lawful hquo (List.replicate 64 9) {}).1.mpr
    ⟨?_, ?_⟩)⟩
  · decide
  · intro h
    cases h

/-- A CoMID that lists one digest as MRTD and another one after it. -/
def tdxComid : Comid where
  tagID := lit "tdx-tag"
  referenceValues := some [⟨{ classID := [3] },
    [{ key := [4], digests := some [⟨7, List.replicate 48 8⟩] },
      { key := [5], digests := some [⟨7, List.replicate 48 1⟩] }]⟩]

/-- The CoRIM library of the policy with that CoMID. -/
def tdxLibrary : Library Unit := tableLibrary tdxComid sampleManifest

/-- The REPORTDATA of the sample quote are refused, other report data are taken in their place,
and its MRSIGNERSEAM is found among the digests that are not for MRTD. -/
theorem tdx_checks_other_fields :
    quoteParsers.quoteToProto sampleRawQuote = .ok (.v4 sampleQuote) ∧
      verifyTDXReportData sampleRawQuote sampleQuote.tdQuoteBody.reportData
        = .error "atls: TDX report data does not match TLS exporter binding" ∧
      verifyTDXReportData sampleRawQuote (List.replicate 48 3 ++ List.replicate 16 4) = .ok () ∧
      Tdx.verifyWithCoRIM tdxLibrary sampleRawQuote (some sampleManifest) = .ok () ∧
      ¬ ListedAsMRTD tdxLibrary sampleManifest sampleQuote.tdQuoteBody.mrTd := by
  refine ⟨by decide +kernel, by decide +kernel, by decide +kernel, by decide +kernel, ?_⟩
  intro h
  obtain ⟨tag, htag, rvs, hrvs, rv, hrv, main, more, hms, hmem⟩ := h
  obtain rfl := List.mem_singleton.mp htag
  obtain rfl := Except.ok.inj hrvs
  obtain rfl := List.mem_singleton.mp hrv
  obtain ⟨rfl, -⟩ := List.cons.inj hms
  exact absurd hmem (by decide)

end SecureBinding.Atls
