import SecureBinding.EA.Codec

/-!
# EA.Request

The model of `request.go`, `cmw_attestation.go` and `policy.go` of `pkg/atls/ea`: the
authenticator request, the extension that carries an attestation, and which extensions a
certificate entry may have.
-/

namespace SecureBinding.EA

open Go

/-! ### Authenticator requests -/

def signatureAlgorithmsExtensionType : UInt16 := 0x000d

structure AuthenticatorRequest where
  type : UInt8
  context : Bytes
  extensions : List Extension
  deriving Repr, DecidableEq

namespace AuthenticatorRequest

def marshal (r : AuthenticatorRequest) : Except Error Bytes :=
  if r.type ≠ handshakeTypeCertificateRequest ∧ r.type ≠ handshakeTypeClientCertificateRequest then
    .error .unsupportedHandshakeType
  else if r.context.length > 255 then .error .invalidLength
  else
    match marshalExtensions r.extensions with
    | .error e => .error e
    | .ok extVec =>
      marshalHandshakeMessage ⟨r.type, UInt8.ofNat r.context.length :: (r.context ++ extVec)⟩

/-- A request that can be written has a context that a certificate message can repeat. -/
theorem context_length_of_marshal {r : AuthenticatorRequest} {b : Bytes}
    (h : r.marshal = .ok b) : r.context.length ≤ 255 := by
  unfold marshal at h
  split at h
  · cases h
  · split at h
    · cases h
    · omega

/-- `UnmarshalAuthenticatorRequest`: the request and the rest. -/
def unmarshal (b : Bytes) : Except Error (AuthenticatorRequest × Bytes) :=
  match unmarshalHandshakeMessage b with
  | .error e => .error e
  | .ok (hm, rest) =>
    if hm.type ≠ handshakeTypeCertificateRequest
        ∧ hm.type ≠ handshakeTypeClientCertificateRequest then
      .error .unsupportedHandshakeType
    else
      match hm.body with
      | [] => .error .truncated
      | n :: body =>
        if body.length < n.toNat then .error .truncated
        else
          match unmarshalExtensions (body.drop n.toNat) with
          | .error e => .error e
          | .ok (exts, leftover) =>
            if leftover.length ≠ 0 then .error .invalidLength
            else .ok (⟨hm.type, body.take n.toNat, exts⟩, rest)

end AuthenticatorRequest

/-! ### Signature schemes -/

/-- The loop of `parseSignatureSchemesExtension` over the numbers of the vector. -/
def readSchemes : Bytes → List UInt16
  | a :: b :: rest => UInt16.ofNat (readUint16 a b) :: readSchemes rest
  | _ => []

/-- The data of an extension that lists signature schemes. -/
def parseSignatureSchemes : Bytes → Option (List UInt16)
  | a :: b :: rest =>
    let vecLen := readUint16 a b
    if vecLen < 2 ∨ vecLen % 2 ≠ 0 ∨ rest.length ≠ vecLen then none else some (readSchemes rest)
  | _ => none

/-- `parseSignatureSchemesExtension`: the first extension of the type decides. -/
def parseSignatureSchemesExtension (exts : List Extension) (type : UInt16) : Option (List UInt16) :=
  (exts.find? fun e => e.type == type).bind fun e => parseSignatureSchemes e.data

def AuthenticatorRequest.signatureSchemes (r : AuthenticatorRequest) : Option (List UInt16) :=
  parseSignatureSchemesExtension r.extensions signatureAlgorithmsExtensionType

def marshalSignatureSchemesExtension (type : UInt16) (schemes : List UInt16) :
    Except Error Extension :=
  if schemes.length = 0 then .error .invalidLength
  else if schemes.length > 0x7fff then .error .invalidLength
  else .ok ⟨type, putUint16 (2 * schemes.length) ++ schemes.flatMap fun s => putUint16 s.toNat⟩

def signatureAlgorithmsExtension (schemes : List UInt16) : Except Error Extension :=
  marshalSignatureSchemesExtension signatureAlgorithmsExtensionType schemes

/-! ### The attestation extension -/

def cmwAttestationExtensionType : UInt16 := 0xff00

def cmwAttestationOfferExtension : Extension := ⟨cmwAttestationExtensionType, []⟩

def cmwAttestationDataExtension (cmw : Bytes) : Except Error Extension :=
  if cmw.length = 0 ∨ cmw.length + 2 > 0xffff then .error .invalidLength
  else .ok ⟨cmwAttestationExtensionType, putUint16 cmw.length ++ cmw⟩

/-- The data of an attestation extension. -/
def extractCMWAttestation : Bytes → Except Error Bytes
  | a :: b :: cmw =>
    if readUint16 a b = 0 ∨ readUint16 a b ≠ cmw.length then .error .invalidLength else .ok cmw
  | _ => .error .invalidLength

/-- `ExtractCMWAttestationFromExtensions`: the first extension of the type decides, and
`none` says that there is none. -/
def extractCMWAttestationFromExtensions (exts : List Extension) : Except Error (Option Bytes) :=
  match exts.find? fun e => e.type == cmwAttestationExtensionType with
  | none => .ok none
  | some e => (extractCMWAttestation e.data).map some

/-- `ValidateCMWAttestationPlacement`: only the first entry may carry an attestation. -/
def validateCMWAttestationPlacement (entries : List CertificateEntry) : Except Error Unit :=
  if entries.tail.any fun entry =>
      entry.extensions.any fun e => e.type == cmwAttestationExtensionType then
    .error .badRequest
  else .ok ()

/-! ### Permitted extensions -/

structure SpontaneousAuthenticatorPolicy where
  allowedSignatureSchemes : List UInt16 := []
  allowedCertificateExtensions : List UInt16 := []

def requestPermitsCertificateExtension (req : Option AuthenticatorRequest) (type : UInt16) : Bool :=
  match req with
  | none => false
  | some req => req.extensions.any fun e => e.type == type

def policyPermitsCertificateExtension (policy : Option SpontaneousAuthenticatorPolicy)
    (type : UInt16) : Bool :=
  match policy with
  | none => false
  | some policy => policy.allowedCertificateExtensions.contains type

def policyPermitsSignatureScheme (policy : Option SpontaneousAuthenticatorPolicy)
    (scheme : UInt16) : Bool :=
  match policy with
  | none => true
  | some policy =>
    policy.allowedSignatureSchemes.isEmpty || policy.allowedSignatureSchemes.contains scheme

/-- What decides on an extension: the request if there is one, else the policy. -/
def permitsCertificateExtension (req : Option AuthenticatorRequest)
    (policy : Option SpontaneousAuthenticatorPolicy) (type : UInt16) : Bool :=
  if req.isSome then requestPermitsCertificateExtension req type
  else policyPermitsCertificateExtension policy type

def validateCertificateEntryExtensions (exts : List Extension)
    (req : Option AuthenticatorRequest) (policy : Option SpontaneousAuthenticatorPolicy) :
    Except Error Unit :=
  if exts.all fun e => permitsCertificateExtension req policy e.type then .ok ()
  else .error .badRequest

end SecureBinding.EA
