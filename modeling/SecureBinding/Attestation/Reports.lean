import SecureBinding.Go.Strings
import SecureBinding.Lib.Except

/-!
# Attestation.Reports

The attestation reports of `pkg/attestation` as the platform libraries parse them: the
`attest.Attestation` of a vTPM with an SNP report embedded in it, the SNP report alone, the
attested data of a TPM quote, and the TDX quote.

The parsers are parameters (`Parsers`). The layout of a TDX quote is part of its format, so
that of a v4 quote is written out (`TDQuoteBody.bytes`), and the parser is assumed to follow it.
-/

namespace SecureBinding.Attestation

open Go

inductive PlatformType
  | SNP
  | VTPM
  | SNPvTPM
  | Azure
  | TDX
  | NoCC
  deriving Repr, DecidableEq

/-- The number of a platform type. -/
def PlatformType.toNat : PlatformType → Nat
  | SNP => 0
  | VTPM => 1
  | SNPvTPM => 2
  | Azure => 3
  | TDX => 4
  | NoCC => 5

/-! ### SNP and vTPM reports -/

/-- `sevsnp.Report`, of its fields those that are read or constrained. -/
structure SnpReport where
  reportData : Bytes := []
  measurement : Bytes := []
  hostData : Bytes := []
  policy : Nat := 0
  launchTcb : Nat := 0

/-- `sevsnp.Attestation`. -/
structure SnpAttestation where
  report : Option SnpReport := none

/-- `GetReport().GetMeasurement()`, which is empty when there is no report. -/
def SnpAttestation.measurement (snp : SnpAttestation) : Bytes :=
  (snp.report.map SnpReport.measurement).getD []

/-- `attest.Attestation`: the attestation key, the quotes, and the SNP report if there is one. -/
structure TpmAttestation where
  akPub : Bytes := []
  quotes : List Bytes := []
  sevSnpAttestation : Option SnpAttestation := none

/-! ### TDX quotes -/

structure TDQuoteBody where
  teeTcbSvn : Bytes
  mrSeam : Bytes
  mrSignerSeam : Bytes
  seamAttributes : Bytes
  tdAttributes : Bytes
  xfam : Bytes
  mrTd : Bytes
  mrConfigId : Bytes
  mrOwner : Bytes
  mrOwnerConfig : Bytes
  rtmr0 : Bytes
  rtmr1 : Bytes
  rtmr2 : Bytes
  rtmr3 : Bytes
  reportData : Bytes
  deriving Repr, DecidableEq

/-- `tdx.QuoteV4`, with the signature of its signed data. -/
structure QuoteV4 where
  tdQuoteBody : TDQuoteBody
  signature : Bytes
  deriving Repr, DecidableEq

/-- What `abi.QuoteToProto` returns. -/
inductive Quote
  | v4 (quote : QuoteV4)
  /-- A quote of another version. -/
  | other
  deriving Repr, DecidableEq

/-- The fields of a quote body have their sizes. -/
structure TDQuoteBody.Sized (body : TDQuoteBody) : Prop where
  teeTcbSvn : body.teeTcbSvn.length = 16
  mrSeam : body.mrSeam.length = 48
  mrSignerSeam : body.mrSignerSeam.length = 48
  seamAttributes : body.seamAttributes.length = 8
  tdAttributes : body.tdAttributes.length = 8
  xfam : body.xfam.length = 8
  mrTd : body.mrTd.length = 48
  mrConfigId : body.mrConfigId.length = 48
  mrOwner : body.mrOwner.length = 48
  mrOwnerConfig : body.mrOwnerConfig.length = 48
  rtmr0 : body.rtmr0.length = 48
  rtmr1 : body.rtmr1.length = 48
  rtmr2 : body.rtmr2.length = 48
  rtmr3 : body.rtmr3.length = 48
  reportData : body.reportData.length = 64

/-- The fields before the measurement of the signer of the SEAM module. -/
def TDQuoteBody.beforeSigner (body : TDQuoteBody) : Bytes := body.teeTcbSvn ++ body.mrSeam

/-- The fields between the measurement of the signer and MRTD. -/
def TDQuoteBody.signerToMrTd (body : TDQuoteBody) : Bytes :=
  body.seamAttributes ++ body.tdAttributes ++ body.xfam

/-- The fields between MRTD and the last of the runtime measurement registers. -/
def TDQuoteBody.mrTdToRtmr3 (body : TDQuoteBody) : Bytes :=
  body.mrConfigId ++ body.mrOwner ++ body.mrOwnerConfig ++ body.rtmr0 ++ body.rtmr1 ++ body.rtmr2

/-- The body of a quote as bytes: its fields in their order. -/
def TDQuoteBody.bytes (body : TDQuoteBody) : Bytes :=
  body.beforeSigner ++ body.mrSignerSeam ++ body.signerToMrTd ++ body.mrTd ++ body.mrTdToRtmr3
    ++ body.rtmr3 ++ body.reportData

/-- A raw v4 quote: a header of 48 bytes, the body, and the signed data. -/
def QuoteV4.LaidOut (raw : Bytes) (quote : QuoteV4) : Prop :=
  quote.tdQuoteBody.Sized ∧
    ∃ header signed : Bytes, header.length = 48 ∧ raw = header ++ quote.tdQuoteBody.bytes ++ signed

/-! ### Parsers -/

/-- The parsers of the platform libraries. -/
structure Parsers where
  /-- `proto.Unmarshal` into an `attest.Attestation`. -/
  unmarshalAttestation : Bytes → Except String TpmAttestation
  /-- `proto.Unmarshal` into a `sevsnp.Attestation`. -/
  unmarshalSnp : Bytes → Except String SnpAttestation
  /-- `tpm2.DecodeAttestationData`, of which only `ExtraData` is read. -/
  decodeAttestationData : Bytes → Except String Bytes
  /-- `abi.QuoteToProto` of go-tdx-guest. -/
  quoteToProto : Bytes → Except String Quote

/-- Parsers that know the given reports; attested data of a quote is its extra data. -/
def tableParsers (reports : List (Bytes × TpmAttestation)) (quotes : List (Bytes × QuoteV4)) :
    Parsers where
  unmarshalAttestation b := Lib.ofOption "not an attestation" (reports.lookup b)
  unmarshalSnp _ := .error "not an SNP attestation"
  decodeAttestationData := .ok
  quoteToProto b := (Lib.ofOption "not a quote" (quotes.lookup b)).map Quote.v4

/-- The quote parser follows the layout of a v4 quote. -/
def Parsers.QuoteLawful (parsers : Parsers) : Prop :=
  ∀ {raw quote}, parsers.quoteToProto raw = .ok (.v4 quote) → quote.LaidOut raw

/-! ### Where the fields of a quote are -/

section Layout

variable {raw : Bytes} {quote : QuoteV4}

theorem length_of_laidOut (h : quote.LaidOut raw) : 632 ≤ raw.length := by
  obtain ⟨hs, header, signed, hhd, rfl⟩ := h
  simp only [List.length_append, TDQuoteBody.bytes, TDQuoteBody.beforeSigner,
    TDQuoteBody.signerToMrTd, TDQuoteBody.mrTdToRtmr3, hs.teeTcbSvn, hs.mrSeam,
    hs.mrSignerSeam, hs.seamAttributes, hs.tdAttributes, hs.xfam, hs.mrTd, hs.mrConfigId,
    hs.mrOwner, hs.mrOwnerConfig, hs.rtmr0, hs.rtmr1, hs.rtmr2, hs.rtmr3, hs.reportData]
  omega

/-- Bytes 112 to 159 are MRSIGNERSEAM. -/
theorem slice_mrSignerSeam (h : quote.LaidOut raw) :
    slice raw 112 160 = quote.tdQuoteBody.mrSignerSeam := by
  obtain ⟨hs, header, signed, hhd, rfl⟩ := h
  have hbef : (header ++ quote.tdQuoteBody.beforeSigner).length = 112 := by
    simp [TDQuoteBody.beforeSigner, hhd, hs.teeTcbSvn, hs.mrSeam]
  simp only [TDQuoteBody.bytes, List.append_assoc]
  rw [← List.append_assoc header]
  exact slice_append hbef.symm (by rw [hbef, hs.mrSignerSeam])

/-- Bytes 520 to 583 are RTMR3 and the first 16 bytes of REPORTDATA. -/
theorem slice_rtmr3 (h : quote.LaidOut raw) :
    slice raw 0x208 0x248 = quote.tdQuoteBody.rtmr3 ++ quote.tdQuoteBody.reportData.take 16 := by
  obtain ⟨hs, header, signed, hhd, rfl⟩ := h
  obtain ⟨body, signature⟩ := quote
  have hbef : (header ++ (body.beforeSigner ++ body.mrSignerSeam ++ body.signerToMrTd
      ++ body.mrTd ++ body.mrTdToRtmr3)).length = 520 := by
    simp [TDQuoteBody.beforeSigner, TDQuoteBody.signerToMrTd, TDQuoteBody.mrTdToRtmr3, hhd,
      hs.teeTcbSvn, hs.mrSeam, hs.mrSignerSeam, hs.seamAttributes, hs.tdAttributes, hs.xfam, hs.mrTd,
      hs.mrConfigId, hs.mrOwner, hs.mrOwnerConfig, hs.rtmr0, hs.rtmr1, hs.rtmr2]
  have hspl : header ++ body.bytes ++ signed
      = (header ++ (body.beforeSigner ++ body.mrSignerSeam ++ body.signerToMrTd ++ body.mrTd
          ++ body.mrTdToRtmr3))
        ++ ((body.rtmr3 ++ body.reportData.take 16) ++ (body.reportData.drop 16 ++ signed)) := by
    conv_lhs => rw [TDQuoteBody.bytes, ← List.take_append_drop 16 body.reportData]
    simp only [List.append_assoc]
  rw [hspl]
  exact slice_append hbef.symm (by
    rw [hbef, List.length_append, List.length_take, hs.rtmr3, hs.reportData]; rfl)

end Layout

end SecureBinding.Attestation
