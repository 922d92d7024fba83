import SecureBinding.EA.Authenticator

/-!
# EA.Create

The model of `createAuthenticator` in `pkg/atls/ea`, with the choice of a signature scheme
in `sigscheme.go` and `signCertVerify` in `certverify.go`.

As in validation, what has no effects comes first: `buildAuthenticator` makes the context and
the bytes. Recording the context in the session is the last step.
-/

namespace SecureBinding.EA

open Go Go.Crypto Lib

/-! ### Errors -/

/-- The errors of `createAuthenticator`. -/
inductive CreateError
  | ea (err : Error)
  /-- An error of `rand.Read`. -/
  | rand (text : String)
  /-- An error of a signature. -/
  | sign (text : String)
  deriving Repr, DecidableEq

def CreateError.text : CreateError → String
  | ea err => err.text
  | rand text => text
  | sign text => text

/-! ### Signature schemes -/

inductive SigAlg
  | ecdsa
  | rsaPSS
  | ed25519

/-- `sigSchemeInfo`; `none` for the hash stands for 0. -/
structure SigSchemeInfo where
  scheme : UInt16
  alg : SigAlg
  hash : Option Hash

def signatureSchemeInfo (s : UInt16) : Except Error SigSchemeInfo :=
  if s = Tls.ecdsaWithP256AndSHA256 then .ok ⟨s, .ecdsa, some .sha256⟩
  else if s = Tls.pssWithSHA256 then .ok ⟨s, .rsaPSS, some .sha256⟩
  else if s = Tls.ed25519 then .ok ⟨s, .ed25519, none⟩
  else .error (.unknownSignatureScheme s)

/-- The function `compat` of `chooseSignatureScheme`. -/
def compat (priv : PrivateKey) (s : UInt16) : Bool :=
  match signatureSchemeInfo s with
  | .error _ => false
  | .ok info =>
    match info.alg, priv with
    | .ecdsa, .ecdsa curve _ => curve == "P-256"
    | .rsaPSS, .rsa _ => true
    | .ed25519, .ed25519 _ => true
    | _, _ => false

def chooseSignatureScheme (priv : PrivateKey) (offered : List UInt16) : Except Error UInt16 :=
  if offered.length > 0 then ofOption .unsupportedSignatureScheme (offered.find? (compat priv))
  else
    match priv with
    | .ecdsa curve _ =>
      if curve = "P-256" then .ok Tls.ecdsaWithP256AndSHA256 else .error .unsupportedSignatureScheme
    | .rsa _ => .ok Tls.pssWithSHA256
    | .ed25519 _ => .ok Tls.ed25519
    | .other _ => .error .unsupportedSignatureScheme

section Environment

variable {V : Type} (prim : Primitives V) (signer : Signer)

def signCertVerify (priv : PrivateKey) (scheme : UInt16) (transcriptHash : Bytes) :
    Except CreateError Bytes := do
  let info ← (signatureSchemeInfo scheme).mapError .ea
  let msg := buildCertVerifyInput transcriptHash
  match info.alg, priv with
  | .ecdsa, .ecdsa curve k => (signer.signASN1 curve k (prim.sum .sha256 msg)).mapError .sign
  | .rsaPSS, .rsa k => (signer.signPSS k (prim.sum .sha256 msg)).mapError .sign
  | .ed25519, .ed25519 k => .ok (signer.signEd25519 k msg)
  | _, _ => .error (.ea .unsupportedSignatureScheme)

/-! ### The messages -/

/-- `tls.Certificate`, with the fields that are read. -/
structure Identity where
  certificate : List Bytes := []
  privateKey : Option PrivateKey := none

def newRandomContext (n : Int) : Except CreateError Bytes :=
  if n ≤ 0 ∨ n > 255 then .error (.ea .invalidLength) else (signer.read n.toNat).mapError .rand

/-- The context of an authenticator: that of the request, or a new one. -/
def createContext : Option AuthenticatorRequest → Except CreateError Bytes
  | some req => .ok req.context
  | none => newRandomContext signer 32

/-- The branch for an identity without a certificate and without a key. -/
def createEmpty (keys : Keys) (req : Option AuthenticatorRequest) (reqBytes ctx : Bytes) :
    Except Error Bytes := do
  ensure (req.isSome = true) .badRequest
  let certBytes ← CertificateMessage.marshal { context := ctx }
  FinishedMessage.marshal ⟨finishedMAC prim keys [reqBytes, certBytes]⟩

/-- The entries of the certificate message: only the leaf has extensions. -/
def certificateEntries (chain : List Bytes) (leafEntryExtensions : List Extension) :
    List CertificateEntry :=
  match chain with
  | [] => []
  | leaf :: others => ⟨leaf, leafEntryExtensions⟩ :: others.map fun der => ⟨der, []⟩

/-- The branch for an identity with a key. -/
def createFull (keys : Keys) (req : Option AuthenticatorRequest)
    (policy : Option SpontaneousAuthenticatorPolicy) (reqBytes : Bytes) (offered : List UInt16)
    (ctx : Bytes) (priv : PrivateKey) (chain : List Bytes)
    (leafEntryExtensions : List Extension) : Except CreateError Bytes := do
  let scheme ← (chooseSignatureScheme priv offered).mapError .ea
  ensure (req.isSome = true ∨ policyPermitsSignatureScheme policy scheme = true)
    (.ea .unsupportedSignatureScheme)
  let certBytes ← (CertificateMessage.marshal
    ⟨ctx, certificateEntries chain leafEntryExtensions⟩).mapError .ea
  let sig ← signCertVerify prim signer priv scheme
    (hashConcat prim keys.hash [keys.handshakeContext, reqBytes, certBytes])
  let cvBytes ← (CertificateVerifyMessage.marshal ⟨scheme, sig⟩).mapError .ea
  let finBytes ← (FinishedMessage.marshal
    ⟨finishedMAC prim keys [reqBytes, certBytes, cvBytes]⟩).mapError .ea
  return certBytes ++ cvBytes ++ finBytes

/-- `createAuthenticator` up to the session: the context and the bytes. An identity has a
chain and a key or none of the two, so the key tells the empty one. -/
def buildAuthenticator (st : Tls.ConnectionState) (role : Role)
    (req : Option AuthenticatorRequest) (policy : Option SpontaneousAuthenticatorPolicy)
    (identity : Identity) (leafEntryExtensions : List Extension) :
    Except CreateError (Bytes × Bytes) := do
  ensure (st.version = Tls.versionTLS13) (.ea .notTLS13)
  ensure (req.isSome = true ∨ role = roleServer) (.ea .invalidRole)
  (validateCertificateEntryExtensions leafEntryExtensions req policy).mapError .ea
  ensure (identity.certificate = [] ↔ identity.privateKey = none) (.ea .badRequest)
  let (reqBytes, offered) ← (requestBytes req).mapError .ea
  let ctx ← createContext signer req
  let keys ← (exportKeys st role).mapError .ea
  match identity.privateKey with
  | none => do
    let finBytes ← (createEmpty prim keys req reqBytes ctx).mapError .ea
    return (ctx, finBytes)
  | some priv => do
    let bytes ← createFull prim signer keys req policy reqBytes offered ctx priv
      identity.certificate leafEntryExtensions
    return (ctx, bytes)

/-! ### createAuthenticator -/

def createAuthenticator (session : Option Session) (st : Tls.ConnectionState) (role : Role)
    (req : Option AuthenticatorRequest) (policy : Option SpontaneousAuthenticatorPolicy)
    (identity : Identity) (leafEntryExtensions : List Extension) :
    Except CreateError Bytes × Option Session :=
  match buildAuthenticator prim signer st role req policy identity leafEntryExtensions with
  | .error e => (.error e, session)
  | .ok (ctx, bytes) =>
    match markContextUsed session ctx with
    | (.error e, session) => (.error (.ea e), session)
    | (.ok _, session) => (.ok bytes, session)

end Environment

end SecureBinding.EA
