import SecureBinding.Go.Crypto
import SecureBinding.Go.Json.Unmarshal
import SecureBinding.Go.Tls

/-!
# EAAttestation.Verify

The model of `pkg/atls/eaattestation`: the attestation payload, the binder that ties it to
a TLS session and a leaf key, and `VerifyPayload`.

A verifier is an interface whose nil value is `none`. A payload that is handed on is never
nil, since `ParsePayload` returns one or fails.
-/

namespace SecureBinding.EAAttestation

open Go Go.Crypto Go.Json Lib

/-! ### Data model -/

inductive Error
  | malformedPayload
  | missingStatement
  | missingBinder
  | aikPubHashMismatch
  | bindingMismatch
  | unexpectedExporterLabel
  | missingAttestation
  | evidenceVerificationMissing
  | resultsVerificationMissing
  | notTLS13
  | unknownCipherSuite (suite : UInt16)
  /-- The error of an exporter, of `crypto/x509` or of a verifier. -/
  | external (text : String)
  deriving Repr, DecidableEq

structure AttestationBinder where
  exporterLabel : GoString := []
  aikPubHash : Bytes := []
  binding : Bytes := []
  deriving Repr, DecidableEq

structure Payload where
  version : Int := 0
  mediaType : GoString := []
  evidence : Bytes := []
  attestationResults : Bytes := []
  binder : AttestationBinder := {}
  deriving Repr, DecidableEq

structure EvidenceBinding where
  reportData : Bytes
  nonce : Bytes
  binding : Bytes
  exportedValue : Bytes
  deriving Repr, DecidableEq

structure VerifiedPayload where
  payload : Payload
  evidenceVerified : Bool
  resultsVerified : Bool
  bindingVerified : Bool
  usedExporterLabel : GoString
  binding : EvidenceBinding
  deriving Repr, DecidableEq

/-- `EvidenceVerifier` and `ResultsVerifier`: the statement and what it must be bound to. -/
abbrev Verifier := Bytes → EvidenceBinding → Except String Unit

structure VerificationPolicy where
  evidenceVerifier : Option Verifier := none
  resultsVerifier : Option Verifier := none

def VerificationPolicy.requiresAttestation (p : VerificationPolicy) : Bool :=
  p.evidenceVerifier.isSome || p.resultsVerifier.isSome

/-! ### Payloads -/

def Payload.validate (p : Payload) : Except Error Unit := do
  ensure (p.evidence ≠ [] ∨ p.attestationResults ≠ []) .missingStatement
  ensure (p.binder.aikPubHash ≠ [] ∧ p.binder.binding ≠ []) .missingBinder

/-- `Payload.VerifyExporterLabel`: a payload without a label has the expected one. -/
def Payload.verifyExporterLabel (p : Payload) (expectedLabel : GoString) : Except Error Unit :=
  ensure (p.binder.exporterLabel = [] ∨ p.binder.exporterLabel = expectedLabel)
    .unexpectedExporterLabel

/-- A field of type `string`. -/
def stringField (name : String) (set : GoString → Payload → Payload) :
    GoString × StructField Payload :=
  (lit name, { store := storeString set })

/-- A field of type `[]byte`. -/
def bytesField (name : String) (get : Payload → Bytes) (set : Bytes → Payload → Payload) :
    GoString × StructField Payload :=
  (lit name, { store := storeBytes get set })

/-- The fields of `AttestationBinder` in JSON. -/
def binderFields : StructType Payload :=
  [stringField "exporter_label" fun s p => { p with binder.exporterLabel := s },
    bytesField "aik_pub_hash" (fun p => p.binder.aikPubHash)
      fun b p => { p with binder.aikPubHash := b },
    bytesField "binding" (fun p => p.binder.binding) fun b p => { p with binder.binding := b }]

/-- The fields of `Payload` in JSON. -/
def payloadFields : StructType Payload :=
  [(lit "version", { store := storeInt fun n p => { p with version := n } }),
    stringField "media_type" fun s p => { p with mediaType := s },
    bytesField "evidence" Payload.evidence fun b p => { p with evidence := b },
    bytesField "attestation_results" Payload.attestationResults
      fun b p => { p with attestationResults := b },
    (lit "binder", { store := storeStruct binderFields, shape := StructType.shape binderFields })]

def parsePayload (raw : Bytes) : Except Error Payload := do
  ensure (raw ≠ []) .malformedPayload
  match (Json.parse raw).bind fun v => storeStruct payloadFields v {} with
  | none => .error .malformedPayload
  | some p =>
    p.validate
    return p

/-! ### The binding -/

section Binding

variable {V : Type} (prim : Primitives V)

def exporterLabelAttestation : GoString := lit "Attestation"

def exportedAttestationValueLen : Nat := 32

def authenticatorHashTLS13 (suite : UInt16) : Except Error Hash :=
  if suite = Tls.tlsAes128GcmSha256 ∨ suite = Tls.tlsChacha20Poly1305Sha256 then .ok .sha256
  else if suite = Tls.tlsAes256GcmSha384 then .ok .sha384
  else .error (.unknownCipherSuite suite)

def exportAttestationValue (st : Tls.ConnectionState) (label : GoString) (contextValue : Bytes) :
    Except Error (Bytes × Hash) := do
  ensure (st.version = Tls.versionTLS13) .notTLS13
  let h ← authenticatorHashTLS13 st.cipherSuite
  let out ← (st.exportKeyingMaterial label contextValue exportedAttestationValueLen).mapError
    .external
  return (out, h)

/-- `PublicKeyBytes`, of a certificate that is not nil. -/
def publicKeyBytes (leaf : Certificate) : Except Error Bytes :=
  if leaf.rawSubjectPublicKeyInfo ≠ [] then .ok leaf.rawSubjectPublicKeyInfo
  else (prim.marshalPKIXPublicKey leaf.publicKey).mapError .external

def aikPublicKeyHash (h : Hash) (pubKey : Bytes) : Bytes := prim.sum h pubKey

def bindingValue (h : Hash) (pubKey exportedValue : Bytes) : Bytes :=
  prim.sum h (pubKey ++ exportedValue)

/-- `ComputeBinding`: the exported value, the hash of the key and the binding. -/
def computeBinding (st : Tls.ConnectionState) (label : GoString) (context : Bytes)
    (leaf : Certificate) : Except Error (Bytes × Bytes × Bytes) := do
  let (exportedValue, h) ← exportAttestationValue st label context
  let pub ← publicKeyBytes prim leaf
  return (exportedValue, aikPublicKeyHash prim h pub, bindingValue prim h pub exportedValue)

/-! ### Verification -/

def verifyBinderValues (aikPubHash binding : Bytes) (binder : AttestationBinder) :
    Except Error Unit := do
  ensure (aikPubHash = binder.aikPubHash) .aikPubHashMismatch
  ensure (binding = binder.binding) .bindingMismatch

/-- The check of one statement, and whether a verifier has accepted it. A statement that is
there and has no verifier is an error. -/
def verifyStatement (verifier : Option Verifier) (missing : Error) (statement : Bytes)
    (expected : EvidenceBinding) : Except Error Bool :=
  match statement, verifier with
  | [], _ => .ok false
  | _ :: _, none => .error missing
  | _ :: _, some verify => ((verify statement expected).mapError .external).map fun _ => true

/-- What evidence must be bound to. -/
def expectedEvidenceBinding (binding exportedValue : Bytes) : EvidenceBinding where
  reportData := prim.sum .sha512 binding
  nonce := prim.sha256 exportedValue
  binding := binding
  exportedValue := exportedValue

def verifyPayload (st : Tls.ConnectionState) (defaultLabel : GoString) (context : Bytes)
    (leaf : Certificate) (payload : Payload) (policy : VerificationPolicy) :
    Except Error VerifiedPayload := do
  payload.validate
  payload.verifyExporterLabel defaultLabel
  let (exportedValue, aikPubHash, binding) ← computeBinding prim st defaultLabel context leaf
  verifyBinderValues aikPubHash binding payload.binder
  let expected := expectedEvidenceBinding prim binding exportedValue
  let evidenceVerified ← verifyStatement policy.evidenceVerifier .evidenceVerificationMissing
    payload.evidence expected
  let resultsVerified ← verifyStatement policy.resultsVerifier .resultsVerificationMissing
    payload.attestationResults expected
  return ⟨payload, evidenceVerified, resultsVerified, true, defaultLabel, expected⟩

/-! ### What a verified payload says -/

/-- The payload `v` speaks for the connection `st`, the context and the leaf: its binder was
checked, every statement in it was verified, and the value it is bound to is the one that the
connection exports. -/
structure Speaks (st : Tls.ConnectionState) (label : GoString) (context : Bytes)
    (v : VerifiedPayload) : Prop where
  bindingVerified : v.bindingVerified = true
  evidence : v.payload.evidence ≠ [] → v.evidenceVerified = true
  results : v.payload.attestationResults ≠ [] → v.resultsVerified = true
  statement : v.payload.evidence ≠ [] ∨ v.payload.attestationResults ≠ []
  exported : ∃ h, exportAttestationValue st label context = .ok (v.binding.exportedValue, h)

theorem verifyStatement_of_ne_nil {verifier : Option Verifier} {missing : Error}
    {statement : Bytes} {expected : EvidenceBinding} {verified : Bool}
    (h : verifyStatement verifier missing statement expected = .ok verified)
    (hne : statement ≠ []) : verified = true := by
  cases statement with
  | nil => exact absurd rfl hne
  | cons a rest =>
    cases verifier with
    | none => cases h
    | some verify =>
      obtain ⟨_, -, hv⟩ := map_ok_iff.mp h
      exact hv.symm

theorem validate_eq_ok {p : Payload} {u : Unit} (h : p.validate = .ok u) :
    p.evidence ≠ [] ∨ p.attestationResults ≠ [] := by
  obtain ⟨_, h, -⟩ := bind_ok_iff.mp h
  exact ensure_ok_iff.mp h

theorem computeBinding_exported {prim : Primitives V} {st : Tls.ConnectionState}
    {label : GoString} {context : Bytes} {leaf : Certificate} {e a b : Bytes}
    (h : computeBinding prim st label context leaf = .ok (e, a, b)) :
    ∃ hash, exportAttestationValue st label context = .ok (e, hash) := by
  obtain ⟨⟨e', hash⟩, hexp, h⟩ := bind_ok_iff.mp h
  obtain ⟨pub, -, h⟩ := bind_ok_iff.mp h
  cases h
  exact ⟨hash, hexp⟩

theorem verifyPayload_speaks {prim : Primitives V} {st : Tls.ConnectionState}
    {label : GoString} {context : Bytes} {leaf : Certificate} {payload : Payload}
    {policy : VerificationPolicy} {v : VerifiedPayload}
    (h : verifyPayload prim st label context leaf payload policy = .ok v) :
    Speaks st label context v := by
  obtain ⟨_, hval, h⟩ := bind_ok_iff.mp h
  obtain ⟨_, -, h⟩ := bind_ok_iff.mp h
  obtain ⟨⟨e, a, b⟩, hbin, h⟩ := bind_ok_iff.mp h
  obtain ⟨_, -, h⟩ := bind_ok_iff.mp h
  obtain ⟨ev, hev, h⟩ := bind_ok_iff.mp h
  obtain ⟨rv, hrv, h⟩ := bind_ok_iff.mp h
  cases h
  exact {
    bindingVerified := rfl
    evidence := verifyStatement_of_ne_nil hev
    results := verifyStatement_of_ne_nil hrv
    statement := validate_eq_ok hval
    exported := computeBinding_exported hbin }

end Binding

end SecureBinding.EAAttestation
