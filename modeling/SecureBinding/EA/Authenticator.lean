import SecureBinding.EA.Request
import SecureBinding.EAAttestation.Verify

/-!
# EA.Authenticator

The model of `exporters.go`, `sigscheme.go`, `certverify.go`, `session.go` and of
`validateAuthenticator` in `pkg/atls/ea`.

Validation first reads and checks the authenticator, which changes nothing:
`checkAuthenticator`. What follows has effects. The intermediates of the chain are added to
the pool of the caller, and the context is recorded in the session. Both are therefore
passed in and returned.
-/

namespace SecureBinding.EA

open Go Go.Crypto Lib

/-! ### Exporters -/

abbrev Role := UInt8

def roleClient : Role := 1

def roleServer : Role := 2

def authenticatorHashTLS13 (suite : UInt16) : Except Error Hash :=
  if suite = Tls.tlsAes128GcmSha256 ∨ suite = Tls.tlsChacha20Poly1305Sha256 then .ok .sha256
  else if suite = Tls.tlsAes256GcmSha384 then .ok .sha384
  else .error (.unknownCipherSuite suite)

/-- The label of an exporter of one role: `EXPORTER-client …` or `EXPORTER-server …`. Every
role but the server's is taken for the client's. -/
def exporterLabel (role : Role) (purpose : List String) : GoString :=
  litPieces ((if role = roleServer then "EXPORTER-server " else "EXPORTER-client ") :: purpose)

/-- What `ExportHandshakeContext` and `ExportFinishedKey` have in common. -/
def exportFor (st : Tls.ConnectionState) (label : GoString) : Except Error (Bytes × Hash) := do
  ensure (st.version = Tls.versionTLS13) .notTLS13
  let h ← authenticatorHashTLS13 st.cipherSuite
  let out ← (st.exportKeyingMaterial label [] h.size).mapError .exporter
  return (out, h)

def exportHandshakeContext (st : Tls.ConnectionState) (role : Role) : Except Error (Bytes × Hash) :=
  exportFor st (exporterLabel role ["authenticator handshake context"])

def exportFinishedKey (st : Tls.ConnectionState) (role : Role) : Except Error (Bytes × Hash) :=
  exportFor st (exporterLabel role ["authenticator finished key"])

/-! ### Sessions -/

/-- `Session`, as `NewSession` builds it: the contexts that have been used. -/
structure Session where
  used : List Bytes := []
  deriving Repr, DecidableEq

/-- `MarkContextUsed`. A nil session accepts every context. -/
def markContextUsed (session : Option Session) (context : Bytes) :
    Except Error Unit × Option Session :=
  match session with
  | none => (.ok (), none)
  | some s =>
    if context ∈ s.used then (.error .contextReuse, some s)
    else (.ok (), some ⟨context :: s.used⟩)

/-- The session lets the context through. -/
def Unused (session : Option Session) (context : Bytes) : Prop :=
  ∀ s, session = some s → context ∉ s.used

section Sessions

variable {session : Option Session} {context : Bytes}

theorem markContextUsed_of_unused (h : Unused session context) :
    markContextUsed session context = (.ok (), session.map fun s => ⟨context :: s.used⟩) := by
  cases session with
  | none => rfl
  | some s => exact if_neg (h s rfl)

theorem markContextUsed_of_not_unused (h : ¬Unused session context) :
    markContextUsed session context = (.error .contextReuse, session) := by
  obtain ⟨s, hs⟩ := not_forall.mp h
  obtain ⟨rfl, hused⟩ := Classical.not_imp.mp hs
  exact if_pos (not_not.mp hused)

/-- A context that is recorded changes every session but the nil one. -/
theorem record_eq_self_iff :
    (session.map fun s => (⟨context :: s.used⟩ : Session)) = session ↔ session = none := by
  cases session with
  | none => simp
  | some s =>
    obtain ⟨used⟩ := s
    simp

end Sessions

/-! ### Signatures -/

def eaContextString : Bytes := lit "Exported Authenticator"

def buildCertVerifyInput (transcriptHash : Bytes) : Bytes :=
  List.replicate 64 0x20 ++ eaContextString ++ [0] ++ transcriptHash

section Environment

variable {V : Type} (prim : Primitives V)

def hashConcat (h : Hash) (chunks : List Bytes) : Bytes := prim.sum h chunks.flatten

def verifyCertVerify (pub : PublicKey) (scheme : UInt16) (transcriptHash signature : Bytes) :
    Except Error Unit :=
  let msg := buildCertVerifyInput transcriptHash
  if scheme = Tls.ecdsaWithP256AndSHA256 then
    match pub with
    | .ecdsa k => ensure (prim.verifyASN1 k (prim.sum .sha256 msg) signature) .signatureMismatch
    | _ => .error .unsupportedSignatureScheme
  else if scheme = Tls.pssWithSHA256 then
    match pub with
    | .rsa k => ensure (prim.verifyPSS k (prim.sum .sha256 msg) signature) .signatureMismatch
    | _ => .error .unsupportedSignatureScheme
  else if scheme = Tls.ed25519 then
    match pub with
    | .ed25519 k => ensure (prim.verifyEd25519 k msg signature) .signatureMismatch
    | _ => .error .unsupportedSignatureScheme
  else .error (.unknownSignatureScheme scheme)

/-! ### The checks without effects -/

/-- What the exporters of a connection give to an authenticator. -/
structure Keys where
  hash : Hash
  handshakeContext : Bytes
  finishedKey : Bytes

/-- The two exports at the start of `validateAuthenticator`. -/
def exportKeys (st : Tls.ConnectionState) (role : Role) : Except Error Keys := do
  ensure (st.version = Tls.versionTLS13) .notTLS13
  let (hsCtx, h) ← exportHandshakeContext st role
  let (fk, _) ← exportFinishedKey st role
  return ⟨h, hsCtx, fk⟩

/-- The request in the transcript, and the schemes it offers. -/
def requestBytes : Option AuthenticatorRequest → Except Error (Bytes × List UInt16)
  | none => .ok ([], [])
  | some req => do
    let bytes ← req.marshal
    match req.signatureSchemes with
    | some schemes => return (bytes, schemes)
    | none => .error .missingSignatureAlgorithms

/-- The verify data of a Finished message over a transcript. -/
def finishedMAC (keys : Keys) (chunks : List Bytes) : Bytes :=
  prim.hmac keys.hash keys.finishedKey
    (hashConcat prim keys.hash (keys.handshakeContext :: chunks))

/-- An authenticator that has passed: the empty one, or one with a certificate chain. -/
inductive Checked
  | empty (context : Bytes)
  | full (context : Bytes) (leaf : Certificate) (intermediates : List Certificate)
      (cmw : Option Bytes)

/-- The branch for an authenticator that begins with Finished. -/
def checkEmpty (keys : Keys) (req : Option AuthenticatorRequest) (reqBytes : Bytes)
    (firstHm : HandshakeMessage) (rest : Bytes) : Except Error Checked :=
  match req with
  | none => .error .unsupportedHandshakeType
  | some req => do
    ensure (rest = []) .unsupportedHandshakeType
    let (finMsg, _) ← unmarshalFinishedMessage (rawHandshakeMessage firstHm)
    let certBytes ← CertificateMessage.marshal { context := req.context }
    ensure (finishedMAC prim keys [reqBytes, certBytes] = finMsg.verifyData) .finishedMismatch
    return .empty req.context

/-- A message whose absence or wrong type is reported as `err`. -/
def expectMessage (b : Bytes) (type : UInt8) (err : Error) :
    Except Error (HandshakeMessage × Bytes) :=
  match unmarshalHandshakeMessage b with
  | .error _ => .error err
  | .ok (hm, rest) => if hm.type = type then .ok (hm, rest) else .error err

/-- `x509.ParseCertificate` of an entry. -/
def parseEntry (e : CertificateEntry) : Except Error Certificate :=
  (prim.parseCertificate e.certDER).mapError .x509

/-- The checks of a certificate message against the request and the policy; the chain it
carries and its attestation. -/
def checkEntries (req : Option AuthenticatorRequest)
    (policy : Option SpontaneousAuthenticatorPolicy) (entries : List CertificateEntry) :
    Except Error (Certificate × List Certificate × Option Bytes) :=
  match entries with
  | [] => .error .unsupportedHandshakeType
  | first :: others => do
    validateCMWAttestationPlacement entries
    entries.forM fun entry => validateCertificateEntryExtensions entry.extensions req policy
    let cmw ← extractCMWAttestationFromExtensions first.extensions
    ensure (cmw = none ∨ permitsCertificateExtension req policy cmwAttestationExtensionType = true)
      .badRequest
    let leaf ← parseEntry prim first
    let intermediates ← others.mapM (parseEntry prim)
    return (leaf, intermediates, cmw)

/-- The branch for an authenticator that begins with Certificate. -/
def checkCertificate (keys : Keys) (req : Option AuthenticatorRequest)
    (policy : Option SpontaneousAuthenticatorPolicy) (reqBytes : Bytes) (offered : List UInt16)
    (certHm : HandshakeMessage) (rest : Bytes) : Except Error Checked := do
  let (cvHm, rest) ←
    expectMessage rest handshakeTypeCertificateVerify .unsupportedHandshakeType
  let (finHm, rest) ← expectMessage rest handshakeTypeFinished .invalidLength
  ensure (rest = []) .invalidLength
  let certBytes := rawHandshakeMessage certHm
  let cvBytes := rawHandshakeMessage cvHm
  let (certMsg, _) ← unmarshalCertificateMessage certBytes
  let (cvMsg, _) ← unmarshalCertificateVerifyMessage cvBytes
  let (finMsg, _) ← unmarshalFinishedMessage (rawHandshakeMessage finHm)
  ensure (∀ r, req = some r → certMsg.context = r.context) .contextMismatch
  let (leaf, intermediates, cmw) ← checkEntries prim req policy certMsg.entries
  ensure (req = none ∨ cvMsg.algorithm ∈ offered) .unsupportedSignatureScheme
  verifyCertVerify prim leaf.publicKey cvMsg.algorithm
    (hashConcat prim keys.hash [keys.handshakeContext, reqBytes, certBytes]) cvMsg.signature
  ensure (finishedMAC prim keys [reqBytes, certBytes, cvBytes] = finMsg.verifyData)
    .finishedMismatch
  return .full certMsg.context leaf intermediates cmw

/-- `validateAuthenticator` up to the verification of the chain. -/
def checkAuthenticator (st : Tls.ConnectionState) (role : Role)
    (req : Option AuthenticatorRequest) (policy : Option SpontaneousAuthenticatorPolicy)
    (authBytes : Bytes) : Except Error Checked := do
  let keys ← exportKeys st role
  let (reqBytes, offered) ← requestBytes req
  let (firstHm, rest) ← unmarshalHandshakeMessage authBytes
  if firstHm.type = handshakeTypeFinished then
    checkEmpty prim keys req reqBytes firstHm rest
  else if firstHm.type = handshakeTypeCertificate then
    checkCertificate prim keys req policy reqBytes offered firstHm rest
  else .error .unsupportedHandshakeType

/-! ### Validation -/

/-- The errors of `validateAuthenticator`. -/
inductive ValidateError
  | ea (err : Error)
  | attestation (err : EAAttestation.Error)
  deriving Repr, DecidableEq

structure ValidationResult where
  context : Bytes
  chain : List Certificate := []
  cmwAttestation : Bytes := []
  attestation : Option EAAttestation.VerifiedPayload := none
  empty : Bool := false
  deriving Repr, DecidableEq

/-- The pool a chain is verified with: that of the caller, or a new one. -/
def poolWith (opts : VerifyOptions V) (intermediates : List Certificate) : List Certificate :=
  intermediates.foldl addCert (opts.intermediates.getD [])

/-- What verification leaves in the options of the caller: a new pool is not stored there. -/
def addIntermediates (intermediates : List Certificate) (opts : VerifyOptions V) :
    VerifyOptions V :=
  { opts with intermediates := opts.intermediates.map fun _ => poolWith opts intermediates }

/-- `leaf.Verify`, if there are options. -/
def verifyLeaf (opts : Option (VerifyOptions V)) (leaf : Certificate)
    (intermediates : List Certificate) : Except Error Unit :=
  match opts with
  | none => .ok ()
  | some opts =>
    (prim.verifyCertificate opts.settings (poolWith opts intermediates) leaf).mapError .x509

/-- The end of `validateAuthenticator`: the attestation of a chain that has been verified. -/
def attest (st : Tls.ConnectionState) (attPolicy : Option EAAttestation.VerificationPolicy)
    (context : Bytes) (leaf : Certificate) (intermediates : List Certificate)
    (cmw : Option Bytes) : Except EAAttestation.Error ValidationResult :=
  -- Without a policy every statement lacks its verifier.
  let policy := attPolicy.getD {}
  match cmw with
  | none => do
    ensure (policy.requiresAttestation = false) .missingAttestation
    return { context, chain := leaf :: intermediates }
  | some cmw => do
    let parsed ← EAAttestation.parsePayload cmw
    let verified ← EAAttestation.verifyPayload prim st EAAttestation.exporterLabelAttestation
      context leaf parsed policy
    return { context, chain := leaf :: intermediates, cmwAttestation := cmw,
             attestation := some verified }

/-- What a call reads and changes: the session, and the options with their pool. -/
structure State (V : Type) where
  session : Option Session := none
  verifyOpts : Option (VerifyOptions V) := none

/-- `MarkContextUsed` on the session of a state, and then `next`. -/
def thenMark {α : Type} (s : State V) (context : Bytes) (next : Except ValidateError α) :
    Except ValidateError α × State V :=
  match markContextUsed s.session context with
  | (.error e, session) => (.error (.ea e), { s with session })
  | (.ok _, session) => (next, { s with session })

theorem thenMark_of_unused {V α : Type} {s : State V} {context : Bytes}
    {next : Except ValidateError α} (h : Unused s.session context) :
    thenMark s context next =
      (next, { s with session := s.session.map fun s => ⟨context :: s.used⟩ }) := by
  rw [thenMark, markContextUsed_of_unused h]

theorem thenMark_of_not_unused {V α : Type} {s : State V} {context : Bytes}
    {next : Except ValidateError α} (h : ¬Unused s.session context) :
    thenMark s context next = (.error (.ea .contextReuse), s) := by
  rw [thenMark, markContextUsed_of_not_unused h]

def validateAuthenticator (s : State V) (st : Tls.ConnectionState) (role : Role)
    (req : Option AuthenticatorRequest) (policy : Option SpontaneousAuthenticatorPolicy)
    (attPolicy : Option EAAttestation.VerificationPolicy) (authBytes : Bytes) :
    Except ValidateError ValidationResult × State V :=
  match checkAuthenticator prim st role req policy authBytes with
  | .error e => (.error (.ea e), s)
  | .ok (.empty context) => thenMark s context (.ok { context, empty := true })
  | .ok (.full context leaf intermediates cmw) =>
    let s' := { s with verifyOpts := s.verifyOpts.map (addIntermediates intermediates) }
    match verifyLeaf prim s.verifyOpts leaf intermediates with
    | .error e => (.error (.ea e), s')
    | .ok _ =>
      -- The context stays used when the attestation fails.
      thenMark s' context
        ((attest prim st attPolicy context leaf intermediates cmw).mapError .attestation)

end Environment

end SecureBinding.EA
