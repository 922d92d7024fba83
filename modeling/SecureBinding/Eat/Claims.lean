import SecureBinding.Attestation.Reports

/-!
# Eat.Claims

The claims of an entity attestation token (`pkg/attestation/eat/eat.go`), and how they are
filled from a TDX quote (`extractTDXClaims` of `extractor.go`).
-/

namespace SecureBinding.Eat

open Go Lib Attestation

/-! ### Claims -/

structure SNPExtensions where
  measurement : Bytes := []
  tcb : GoString := []
  platformInfo : Nat := 0
  policy : Nat := 0
  familyID : Bytes := []
  imageID : Bytes := []
  vmpl : Int := 0
  signatureAlgo : Int := 0
  currentTCB : Nat := 0
  reportedTCB : Nat := 0
  chipID : Bytes := []
  committedTCB : Nat := 0
  launchTCB : Nat := 0
  signature : Bytes := []
  deriving Repr, DecidableEq

structure TDXModuleInfo where
  major : UInt8
  minor : UInt8
  buildNum : UInt16
  buildDate : UInt32
  deriving Repr, DecidableEq

structure TDXExtensions where
  mrtd : Bytes := []
  rtmr0 : Bytes := []
  rtmr1 : Bytes := []
  rtmr2 : Bytes := []
  rtmr3 : Bytes := []
  xfam : Nat := 0
  tdAttributes : Nat := 0
  mrConfigID : Bytes := []
  mrOwner : Bytes := []
  mrOwnerConfig : Bytes := []
  mrSeam : Bytes := []
  tdxModule : Option TDXModuleInfo := none
  signature : Bytes := []
  deriving Repr, DecidableEq

structure VTPMExtensions where
  pcrs : List (GoString × GoString) := []
  eventLog : Bytes := []
  quote : Bytes := []
  deriving Repr, DecidableEq

/-- `EATClaims`. The values of the submodules, which nothing here reads, are kept encoded. -/
structure EATClaims where
  issuer : GoString := []
  subject : GoString := []
  issuedAt : Int := 0
  expiresAt : Int := 0
  nonce : Bytes := []
  ueid : Bytes := []
  oemid : Int := 0
  hwModel : Bytes := []
  hwVersion : GoString := []
  swName : GoString := []
  swVersion : GoString := []
  debugStatus : Int := 0
  intUse : Int := 0
  measurements : Bytes := []
  platformType : GoString := []
  submods : List (GoString × Bytes) := []
  snpExtensions : Option SNPExtensions := none
  tdxExtensions : Option TDXExtensions := none
  vtpmExtensions : Option VTPMExtensions := none
  rawReport : Bytes := []
  deriving Repr, DecidableEq

def getPlatformTypeName : PlatformType → GoString
  | .SNP => lit "SNP"
  | .TDX => lit "TDX"
  | .VTPM => lit "vTPM"
  | .SNPvTPM => lit "SNP-vTPM"
  | .Azure => lit "Azure"
  | .NoCC => lit "NoCC"

/-! ### TDX -/

/-- `OEMID_INTEL`. -/
def oemidIntel : Int := 343

/-- `binary.LittleEndian.Uint64` of at least eight bytes. -/
def littleEndianUint64 (b : Bytes) : Nat := (b.take 8).foldr (fun x n => x.toNat + 256 * n) 0

/-- `extractTDXClaims`. The parsed body holds four runtime measurements and eight bytes of
`XFAM` and of attributes. -/
def extractTDXClaims (parsers : Parsers) (claims : EATClaims) (report : Bytes) :
    Except String EATClaims := do
  let quote ← (parsers.quoteToProto report).mapError ("failed to parse TDX quote: " ++ ·)
  match quote with
  | .other => .error "unsupported TDX quote format"
  | .v4 quote =>
    let tdReport := quote.tdQuoteBody
    return { claims with
      tdxExtensions := some
        { mrtd := tdReport.mrTd
          rtmr0 := tdReport.rtmr0
          rtmr1 := tdReport.rtmr1
          rtmr2 := tdReport.rtmr2
          rtmr3 := tdReport.rtmr3
          xfam := littleEndianUint64 tdReport.xfam
          tdAttributes := littleEndianUint64 tdReport.tdAttributes
          mrConfigID := tdReport.mrConfigId
          mrOwner := tdReport.mrOwner
          mrOwnerConfig := tdReport.mrOwnerConfig
          mrSeam := tdReport.mrSeam
          signature := quote.signature }
      measurements := tdReport.mrTd
      ueid := if 32 ≤ tdReport.mrTd.length then tdReport.mrTd.take 32 else claims.ueid
      oemid := oemidIntel
      hwModel := lit "Intel-TDX" }

/-- The measurement claim of a TDX quote is its MRTD. -/
theorem measurements_of_extractTDXClaims {parsers : Parsers} {claims claims' : EATClaims}
    {report : Bytes} {quote : QuoteV4} (hquo : parsers.quoteToProto report = .ok (.v4 quote))
    (h : extractTDXClaims parsers claims report = .ok claims') :
    claims'.measurements = quote.tdQuoteBody.mrTd := by
  rw [extractTDXClaims, hquo] at h
  cases h
  rfl

end SecureBinding.Eat
