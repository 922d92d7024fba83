import SecureBinding.Agtp.JWT

/-!
# Agtp.CWT

The model of `pkg/agtp/cwt.go`: the reference adapters for identity grants and
session-binding statements encoded as CWTs in `COSE_Sign1` messages.

The COSE and CBOR libraries are parameters (`Cose`). What they decode are Go values of
dynamic types, and the code tells these types apart; `Label` and `Value` therefore
keep the types the code distinguishes. Labels of other types are never looked up and
are left out.
-/

namespace SecureBinding.Agtp

open Go IdentityPolicy
open JWT (Claims requireSessionBindingFields tokenTypeIdentityGrant
  tokenTypeSessionBinding)
open Token (VerifyError KeyFunc KeySource require isListed appendScopeValues
  SessionOptions SessionIdentityResult verifySessionIdentity)

/-! ### Decoded values -/

/-- A key of a `map[any]any`, with its dynamic type. -/
inductive Label
  | int (n : Int)
  | int64 (n : Int)
  | uint64 (n : Nat)
  | str (s : GoString)
  deriving Repr, DecidableEq

/-- A decoded value, with its dynamic type. -/
inductive Value
  | int (n : Int)
  | int64 (n : Int)
  | uint64 (n : Nat)
  | str (s : GoString)
  | bytes (b : Bytes)
  | strs (ss : List GoString)
  | arr (vs : List Value)
  | map (ms : List (Label × Value))
  | strMap (ms : List (GoString × Value))
  /-- A value of any other type. -/
  | other

/-- A `map[any]any`. -/
abbrev ClaimMap := List (Label × Value)

structure Sign1Message where
  protectedHeader : ClaimMap
  unprotectedHeader : ClaimMap
  payload : Bytes
  signature : Bytes

abbrev Algorithm := Int

/-- The COSE and CBOR libraries, for keys of type `Key`. -/
structure Cose (Key : Type) where
  /-- `(*Sign1Message).UnmarshalCBOR`. -/
  unmarshalSign1 : Bytes → Except String Sign1Message
  /-- `ProtectedHeader.Algorithm`. -/
  algorithm : ClaimMap → Except String Algorithm
  /-- `NewVerifier`, the verifier being what `(*Sign1Message).Verify` does with it. -/
  newVerifier : Algorithm → Key → Except String (Sign1Message → Except String Unit)
  /-- `cbor.Unmarshal` into a `map[any]any`. -/
  unmarshalMap : Bytes → Except String ClaimMap

def headerLabelKeyID : Label := .int64 4

def cwtClaimIssuer : Label := .int64 1

def cwtClaimSubject : Label := .int64 2

def cwtClaimAudience : Label := .int64 3

def cwtClaimExpirationTime : Label := .int64 4

def cwtClaimIssuedAt : Label := .int64 6

def cwtClaimCWTID : Label := .int64 7

def cwtClaimConfirmation : Label := .int64 8

/-! ### Reading claims -/

/-- `cwtKeyAliases`. The conversions between integer types wrap around. -/
def cwtKeyAliases : Label → List Label
  | .int64 k => [.int64 k, .int k, .uint64 (k % 2 ^ 64).toNat]
  | .int k => [.int k, .int64 k, .uint64 (k % 2 ^ 64).toNat]
  | .uint64 k => if k ≤ 2 ^ 63 - 1 then [.uint64 k, .int64 k, .int k] else [.uint64 k]
  | .str s => [.str s]

def cwtClaimValue (claims : ClaimMap) (key : Label) : Option Value :=
  (cwtKeyAliases key).findSome? fun candidate => claims.lookup candidate

def cwtStringValue : Value → Option GoString
  | .str s => some s
  | .bytes b => some b
  | _ => none

def cwtStringClaim (claims : ClaimMap) (key : Label) : Option GoString :=
  (cwtClaimValue claims key).bind cwtStringValue

def cwtMapStringValue (values : ClaimMap) (key : Label) : Option GoString :=
  (cwtClaimValue values key).bind cwtStringValue

def cwtStringClaimOrEmpty (claims : ClaimMap) (key : Label) : GoString :=
  (cwtStringClaim claims key).getD []

/-- `cwtStringClaimOrEmpty` of a claim with a name. -/
def namedClaim (claims : ClaimMap) (name : String) : GoString :=
  cwtStringClaimOrEmpty claims (.str (lit name))

def cwtStringSliceClaim (claims : ClaimMap) (key : Label) : List GoString :=
  match cwtClaimValue claims key with
  | some (.strs values) => values
  | some (.arr values) => values.filterMap cwtStringValue
  | some (.str value) => if isBlank value then [] else [value]
  | _ => []

/-- `cwtStringSliceClaim` of a claim with a name. -/
def namedClaims (claims : ClaimMap) (name : String) : List GoString :=
  cwtStringSliceClaim claims (.str (lit name))

def cwtTimeClaim (claims : ClaimMap) (key : Label) : Option Time :=
  match cwtClaimValue claims key with
  | some (.int v) => some (Time.unix v)
  | some (.int64 v) => some (Time.unix v)
  | some (.uint64 v) => if v > 2 ^ 63 - 1 then none else some (Time.unix v)
  | _ => none

def cwtIDFromClaims (claims : ClaimMap) : GoString := cwtStringClaimOrEmpty claims cwtClaimCWTID

def cwtConfirmationKey (claims : ClaimMap) : GoString :=
  match (cwtClaimValue claims cwtClaimConfirmation).or (cwtClaimValue claims (.str (lit "cnf"))) with
  | some (.map cnf) => (cwtMapStringValue cnf (.str (lit "kid"))).getD []
  | some (.strMap cnf) => ((cnf.lookup (lit "kid")).bind cwtStringValue).getD []
  | _ => []

def cwtAudienceMatches (claims : ClaimMap) (expected : GoString) : Bool :=
  match cwtClaimValue claims cwtClaimAudience with
  | none => false
  | some value =>
    match cwtStringValue value with
    | some audience => audience == expected
    | none =>
      match value with
      | .arr values => values.any fun item => cwtStringValue item == some expected
      | .strs values => values.contains expected
      | _ => false

def cwtProfileClaims (claims : ClaimMap) : Claims :=
  { profileType := namedClaim claims "profile_type"
    profileVersion := namedClaim claims "profile_version"
    legacyType := namedClaim claims "agtp_type"
    legacyVersion := namedClaim claims "agtp_version" }

/-! ### Options -/

structure CWTVerifyOptions (Key : Type) extends KeySource Key where
  expectedIssuer : GoString := []
  expectedAudience : GoString := []
  validAlgorithms : List Algorithm := []
  revokedCWTIDs : List GoString := []
  now : Time := 0

structure SessionIdentityCWTOptions (Key σ : Type) extends SessionOptions σ where
  grant : CWTVerifyOptions Key
  sessionBinding : CWTVerifyOptions Key

def algorithmReserved : Algorithm := 0

section Parsing

variable {Key : Type}

def validateCWTVerifyOptions (opts : CWTVerifyOptions Key) : Except VerifyError Unit := do
  require (!opts.validAlgorithms.isEmpty) .missingCOSEAlgorithms
  require (!opts.validAlgorithms.contains algorithmReserved) .unsafeCOSEAlgorithm
  require (!isBlank opts.expectedIssuer) .missingExpectedIssuer
  require (!isBlank opts.expectedAudience) .missingExpectedAudience

def cwtKeyFuncForOptions (opts : CWTVerifyOptions Key) : Except VerifyError (KeyFunc Key) := do
  require (opts.keyFunc.isSome || !opts.localKeys.isEmpty) .missingKeyFunc
  require (opts.keyFunc.isNone || opts.localKeys.isEmpty) .ambiguousKeySource
  opts.toKeySource.resolve id

/-- The verification time: the options' own, or the system clock. -/
def CWTVerifyOptions.time (opts : CWTVerifyOptions Key) (sysNow : SysTime) : Time :=
  if opts.now.isZero then sysNow.val else opts.now

/-! ### Parsing -/

/-- A claim of a time, which must be there. -/
def requireTime (value : Option Time) (err : Token.Err) : Except VerifyError Time :=
  match value with
  | some t => .ok t
  | none => .error (.sentinel err)

/-- `validateCWTRegisteredClaims`. The issuer is trimmed before it is compared. -/
def validateCWTRegisteredClaims (claims : ClaimMap) (opts : CWTVerifyOptions Key)
    (sysNow : SysTime) : Except VerifyError Unit := do
  require ((cwtStringClaim claims cwtClaimIssuer).map trimSpace == some opts.expectedIssuer)
    .invalidIssuer
  require (cwtAudienceMatches claims opts.expectedAudience) .invalidAudience
  let expiresAt ← requireTime (cwtTimeClaim claims cwtClaimExpirationTime) .missingExpiration
  let issuedAt ← requireTime (cwtTimeClaim claims cwtClaimIssuedAt) .missingIssuedAt
  require (!(opts.time sysNow).after expiresAt) .expiredToken
  require (!issuedAt.after (opts.time sysNow)) .futureToken

def keyIDFromCOSE (msg : Sign1Message) : Except VerifyError GoString :=
  match (msg.protectedHeader.lookup headerLabelKeyID).bind cwtStringValue with
  | some keyID => if isBlank keyID then .error (.sentinel .missingKeyID) else .ok keyID
  | none => .error (.sentinel .missingKeyID)

def parseCWT (cose : Cose Key) (token : Bytes) (opts : CWTVerifyOptions Key) (sysNow : SysTime) :
    Except VerifyError (ClaimMap × GoString) := do
  validateCWTVerifyOptions opts
  let keyFunc ← cwtKeyFuncForOptions opts
  let msg ← (cose.unmarshalSign1 token).mapError .library
  require (msg.unprotectedHeader.lookup headerLabelKeyID).isNone .unprotectedKeyID
  let alg ← (cose.algorithm msg.protectedHeader).mapError .library
  require (opts.validAlgorithms.contains alg) .unsafeCOSEAlgorithm
  let keyID ← keyIDFromCOSE msg
  let key ← keyFunc keyID
  let verify ← (cose.newVerifier alg key).mapError .library
  (verify msg).mapError .library
  let claims ← (cose.unmarshalMap msg.payload).mapError .library
  validateCWTRegisteredClaims claims opts sysNow
  return (claims, keyID)

/-! ### Verifiers -/

def identityGrantCWTHashSeed : GoString := lit "sbaip.identity-grant.cwt.v1" ++ [0]

def identityGrantCWTHash (sha256 : Bytes → Bytes) (token : Bytes) : GoString :=
  lit "sha256:" ++ hexEncode (sha256 (identityGrantCWTHashSeed ++ token))

def cwtGrantValues (claims : ClaimMap) : Values where
  service := namedClaim claims "service"
  tenant := namedClaim claims "tenant"
  deployment := namedClaim claims "deployment"
  environment := namedClaim claims "environment"
  workload := namedClaim claims "workload"
  agent :=
    if namedClaim claims "agent" = [] then cwtStringClaimOrEmpty claims cwtClaimSubject
    else namedClaim claims "agent"
  agentPublicKey := namedClaim claims "agent_public_key"
  computationID := namedClaim claims "computation_id"
  taskID := namedClaim claims "task_id"
  threadID := namedClaim claims "thread_id"
  delegationID := namedClaim claims "delegation_id"
  intentRef := namedClaim claims "intent_ref"
  capabilityRef := namedClaim claims "capability_ref"
  ontologyID := namedClaim claims "ontology_id"
  scopes := appendScopeValues (namedClaims claims "scopes") (namedClaim claims "scope")
  resources := appendScopeValues (namedClaims claims "resources") (namedClaim claims "resource")
  authorizationDetails := namedClaims claims "authorization_details"

def cwtGrantOf (sha256 : Bytes → Bytes) (token : Bytes) (opts : CWTVerifyOptions Key)
    (claims : ClaimMap) (signerKey : GoString) : VerifiedGrant where
  issuer := cwtStringClaimOrEmpty claims cwtClaimIssuer
  issuerKey := signerKey
  audience := opts.expectedAudience
  grantHash := identityGrantCWTHash sha256 token
  values := cwtGrantValues claims
  confirmationKey := cwtConfirmationKey claims
  authorizedEndpointKeys := namedClaims claims "authorized_endpoint_keys"
  issuedAt := (cwtTimeClaim claims cwtClaimIssuedAt).getD 0
  expiresAt := (cwtTimeClaim claims cwtClaimExpirationTime).getD 0

def verifyIdentityGrantCWT (sha256 : Bytes → Bytes) (cose : Cose Key) (token : Bytes)
    (opts : CWTVerifyOptions Key) (sysNow : SysTime) : Except VerifyError VerifiedGrant := do
  let (claims, signerKey) ← parseCWT cose token opts sysNow
  validateProfileClaims (cwtProfileClaims claims) tokenTypeIdentityGrant
  require (!isBlank (cwtIDFromClaims claims)) .missingCWTID
  require (!isListed (cwtIDFromClaims claims) opts.revokedCWTIDs) .revokedCWTID
  require (!isBlank (cwtStringClaimOrEmpty claims cwtClaimSubject)) .missingSubject
  require (!isBlank (cwtConfirmationKey claims)) .missingConfirmationKey
  return cwtGrantOf sha256 token opts claims signerKey

/-- The session binding of a statement's claims, as claims. -/
def cwtBindingClaims (claims : ClaimMap) : Claims where
  grantHash := namedClaim claims "grant_hash"
  leafKeySHA256 := namedClaim claims "leaf_public_key_sha256"
  tlsExporter := namedClaim claims "tls_exporter_sha256"
  requestContext := namedClaim claims "request_context_sha256"
  attestationBind := namedClaim claims "attestation_binder_sha256"
  nonce := namedClaim claims "nonce"

/-- The statement of a verified statement token. -/
def cwtStatementOf (opts : CWTVerifyOptions Key) (claims : ClaimMap) (signerKey : GoString) :
    VerifiedSessionBindingStatement where
  grantHash := (cwtBindingClaims claims).grantHash
  audience := opts.expectedAudience
  signerKey := signerKey
  binding :=
    { leafPublicKeySHA256 := (cwtBindingClaims claims).leafKeySHA256
      tlsExporterSHA256 := (cwtBindingClaims claims).tlsExporter
      requestContextSHA256 := (cwtBindingClaims claims).requestContext
      attestationBinderSHA256 := (cwtBindingClaims claims).attestationBind
      nonce := (cwtBindingClaims claims).nonce
      issuedAt := (cwtTimeClaim claims cwtClaimIssuedAt).getD 0
      expiresAt := (cwtTimeClaim claims cwtClaimExpirationTime).getD 0 }

def verifySessionBindingCWT (cose : Cose Key) (token : Bytes) (opts : CWTVerifyOptions Key)
    (sysNow : SysTime) : Except VerifyError VerifiedSessionBindingStatement := do
  let (claims, signerKey) ← parseCWT cose token opts sysNow
  validateProfileClaims (cwtProfileClaims claims) tokenTypeSessionBinding
  require (!isBlank (cwtIDFromClaims claims)) .missingCWTID
  require (!isListed (cwtIDFromClaims claims) opts.revokedCWTIDs) .revokedCWTID
  validateSessionBindingClaims (cwtBindingClaims claims)
  return cwtStatementOf opts claims signerKey

def verifySessionIdentityCWT {σ : Type} (sha256 : Bytes → Bytes) (cose : Cose Key)
    (grantToken bindingToken : Bytes) (opts : SessionIdentityCWTOptions Key σ)
    (sysNow : SysTime) (w : σ) : Except VerifyError SessionIdentityResult × σ :=
  verifySessionIdentity
    (fun now => verifyIdentityGrantCWT sha256 cose grantToken { opts.grant with now } sysNow)
    (fun now => verifySessionBindingCWT cose bindingToken { opts.sessionBinding with now } sysNow)
    opts.toSessionOptions sysNow w

end Parsing

/-! ### What the verifiers establish -/

/-- The message decodes, and the key found under the key id in its protected header
verifies it. -/
structure CWTParsed {Key : Type} (cose : Cose Key) (opts : CWTVerifyOptions Key) (token : Bytes)
    (keyID : GoString) (key : Key) : Prop where
  keyFunc : ∃ keyFunc, opts.toKeySource.resolve id = .ok keyFunc ∧ keyFunc keyID = .ok key
  signed : ∃ msg alg verify, cose.unmarshalSign1 token = .ok msg ∧
    keyIDFromCOSE msg = .ok keyID ∧ cose.algorithm msg.protectedHeader = .ok alg ∧
    alg ∈ opts.validAlgorithms ∧ cose.newVerifier alg key = .ok verify ∧ verify msg = .ok ()

variable {Key σ : Type} {sha256 : Bytes → Bytes} {cose : Cose Key} {token : Bytes}
  {opts : CWTVerifyOptions Key} {sysNow : SysTime}

theorem cwtParsed_of_parseCWT {claims : ClaimMap} {keyID : GoString}
    (h : parseCWT cose token opts sysNow = .ok (claims, keyID)) :
    ∃ key, CWTParsed cose opts token keyID key := by
  simp only [parseCWT, cwtKeyFuncForOptions, Lib.bind_ok_iff, Lib.mapError_ok_iff,
    Token.require_ok_iff] at h
  obtain ⟨_, -, keyFunc, ⟨_, -, _, -, hkeys⟩, msg, hmsg, _, -, alg, halg, _, hval, id, hid, key,
    hkey, verify, hvf, _, hsig, claims, -, _, -, rfl, rfl⟩ := h
  exact ⟨key, ⟨keyFunc, hkeys, hkey⟩,
    msg, alg, verify, hmsg, hid, halg, by simpa using hval, hvf, hsig⟩

theorem cwtParsed_of_verifyIdentityGrantCWT {grant : VerifiedGrant}
    (h : verifyIdentityGrantCWT sha256 cose token opts sysNow = .ok grant) :
    ∃ key, CWTParsed cose opts token grant.issuerKey key := by
  simp only [verifyIdentityGrantCWT, Lib.bind_ok_iff, Prod.exists, Lib.pure_ok_iff] at h
  obtain ⟨claims, signerKey, hpar, -, -, -, -, -, -, -, -, -, -, rfl⟩ := h
  exact cwtParsed_of_parseCWT hpar

theorem cwtParsed_of_verifySessionBindingCWT {statement : VerifiedSessionBindingStatement}
    (h : verifySessionBindingCWT cose token opts sysNow = .ok statement) :
    ∃ key, CWTParsed cose opts token statement.signerKey key := by
  simp only [verifySessionBindingCWT, Lib.bind_ok_iff, Prod.exists, Lib.pure_ok_iff] at h
  obtain ⟨claims, signerKey, hpar, -, -, -, -, -, -, -, -, rfl⟩ := h
  exact cwtParsed_of_parseCWT hpar

end SecureBinding.Agtp
