import SecureBinding.JWT.Claims
import SecureBinding.JWT.DuplicatesSound
import SecureBinding.Token.Session

/-!
# JWT.Verify

What the JWT verifiers of `pkg/clients/identity_jwt.go` and `pkg/agtp/jwt.go` have in
common: the options, the options handed to the JWT library, the key id of a header,
the parse itself, and the grants and statements made of the claims.

`Parsed` is what a successful parse has established about the token; the verifiers of
the two packages each prove their parse to establish it, and later results start from
there.
-/

namespace SecureBinding.JWT

open Go Go.Json
open IdentityPolicy
open Token (VerifyError KeySource KeyFunc KeyTable isListed require appendScopeValues
  SessionOptions)

/-! ### Constants of both packages -/

def tokenTypeIdentityGrant : GoString := lit "sbaip.identity-grant"

def tokenTypeSessionBinding : GoString := lit "sbaip.session-binding"

def tokenTypeSessionEnvelope : GoString := lit "sbaip.session-envelope"

def legacyTokenTypeIdentityGrant : GoString := lit "agtp.identity-grant"

def legacyTokenTypeSessionBinding : GoString := lit "agtp.session-binding"

def legacyTokenTypeSessionEnvelope : GoString := lit "agtp.session-envelope"

def profileVersion : GoString := lit "1"

def identityGrantJWTHashSeed : GoString := lit "sbaip.identity-grant.jwt.v1" ++ [0]

/-- `IdentityGrantHash`, over a hash function. -/
def identityGrantHash (sha256 : Bytes → Bytes) (tokenString : GoString) : GoString :=
  lit "sha256:" ++ hexEncode (sha256 (identityGrantJWTHashSeed ++ tokenString))

/-! ### Options and parsing -/

/-- `JWTVerifyOptions` of either package. -/
structure VerifyOptions (Key : Type) extends KeySource Key where
  expectedIssuer : GoString := []
  expectedAudience : GoString := []
  validMethods : List GoString := []
  revokedJWTIDs : List GoString := []
  now : Time := 0

section Verify

variable {Key : Type}

/-- The checks of the options, and the options of the library. `unsafeMethod` says
which signing methods must not be allowed. -/
def parserOptionsWith (unsafeMethod : GoString → Bool) (opts : VerifyOptions Key) :
    Except VerifyError ParserOptions :=
  if opts.keyFunc.isNone && opts.localKeys.isEmpty then .error (.sentinel .missingKeyFunc)
  else if opts.keyFunc.isSome && !opts.localKeys.isEmpty then
    .error (.sentinel .ambiguousKeySource)
  else if opts.validMethods.isEmpty then .error (.sentinel .missingValidMethods)
  else if opts.validMethods.any unsafeMethod then .error (.sentinel .unsafeSigningMethod)
  else if isBlank opts.expectedIssuer then .error (.sentinel .missingExpectedIssuer)
  else if isBlank opts.expectedAudience then .error (.sentinel .missingExpectedAudience)
  else .ok
    { validMethods := opts.validMethods
      issuer := opts.expectedIssuer
      audience := opts.expectedAudience
      timeFunc := if opts.now.isZero then none else some opts.now }

/-- The key id of a header, spelled as the package passes it on. -/
def keyIDWith (spell : GoString → GoString) (header : Header) : Except VerifyError GoString :=
  match header (lit "kid") with
  | some (.str keyID) =>
    if isBlank keyID then .error (.sentinel .missingKeyID) else .ok (spell keyID)
  | _ => .error (.sentinel .missingKeyID)

/-- The call of `ParseWithClaims` and what follows it. The callback finds the key by the
key id; it also stores the id, which is read back after a successful parse. -/
def parseVerified (lib : Library Key) (fields : StructType Claims)
    (spell : GoString → GoString) (revoked : List GoString) (parserOpts : ParserOptions)
    (keyFunc : KeyFunc Key) (tokenString : GoString) (sysNow : SysTime) :
    Except VerifyError (Claims × GoString) := do
  let (header, claims) ← (lib.parseWithClaims (unmarshalClaims fields) tokenString
    (fun header => keyIDWith spell header >>= keyFunc) parserOpts sysNow).mapError .library
  let signerKey ← keyIDWith spell header
  Token.require (!isListed claims.id revoked) .revokedJWTID
  return (claims, signerKey)

/-! ### Claims, grants and statements -/

/-- `requireSessionBindingFields` of `pkg/clients`, `validateSessionBindingClaims` of
`pkg/agtp`. -/
def requireSessionBindingFields (c : Claims) : Except VerifyError Unit := do
  require (!isBlank c.grantHash) .missingGrantHash
  require ([c.leafKeySHA256, c.tlsExporter, c.requestContext, c.nonce].all fun v => !isBlank v)
    .missingBindingField

/-- `claimTime` of `pkg/clients`. The library lets no token pass whose expiry is nil, which
`pkg/agtp` dereferences without a check. -/
def claimTime (value : Option Time) : Time := value.getD 0

def grantValues (claims : Claims) : Values :=
  { claims.values with
    agent := if claims.values.agent = [] then claims.subject else claims.values.agent
    scopes := appendScopeValues claims.values.scopes claims.scope
    resources := appendScopeValues claims.values.resources claims.resource }

def grantOf (sha256 : Bytes → Bytes) (tokenString : GoString) (opts : VerifyOptions Key)
    (claims : Claims) (signerKey : GoString) : VerifiedGrant where
  issuer := claims.issuer
  issuerKey := signerKey
  audience := opts.expectedAudience
  grantHash := identityGrantHash sha256 tokenString
  values := grantValues claims
  confirmationKey := claims.confirmationKeyID
  authorizedEndpointKeys := claims.endpointKeyIDs
  issuedAt := claimTime claims.issuedAt
  expiresAt := claimTime claims.expiresAt

/-- The session binding of a statement's claims. -/
def bindingOf (claims : Claims) : Binding where
  leafPublicKeySHA256 := claims.leafKeySHA256
  tlsExporterSHA256 := claims.tlsExporter
  requestContextSHA256 := claims.requestContext
  attestationBinderSHA256 := claims.attestationBind
  nonce := claims.nonce
  issuedAt := claimTime claims.issuedAt
  expiresAt := claimTime claims.expiresAt

/-- The statement of a verified statement token. -/
def statementOf (opts : VerifyOptions Key) (claims : Claims) (signerKey : GoString) :
    VerifiedSessionBindingStatement where
  grantHash := claims.grantHash
  audience := opts.expectedAudience
  signerKey := signerKey
  binding := bindingOf claims

structure SessionIdentityJWTOptions (Key σ : Type) extends SessionOptions σ where
  grant : VerifyOptions Key
  sessionBinding : VerifyOptions Key

/-! ### What a parse establishes -/

/-- A verified token: its decoded parts, the value of its payload, the key id of its
header as it is spelled there, and the key function that found the key. -/
structure Evidence (Key : Type) extends TokenParts Key where
  payloadValue : Json
  keyID : GoString
  keyFunc : KeyFunc Key

/-- The verification time: the options' own, or the system clock. -/
def VerifyOptions.time (opts : VerifyOptions Key) (sysNow : SysTime) : Time :=
  if opts.now.isZero then sysNow.val else opts.now

/-- The token is well formed and without duplicate members, its payload decodes into
the claims, the key of its header's key id verifies it, and its registered claims are
valid at time `now`. -/
structure Parsed (lib : Library Key) (fields : StructType Claims)
    (spell : GoString → GoString) (opts : VerifyOptions Key) (now : Time)
    (tokenString : GoString) (claims : Claims) (signerKey : GoString) (ev : Evidence Key) :
    Prop where
  split : split 0x2e tokenString = [ev.header, ev.payload, ev.signature]
  headerText : base64RawURLDecode ev.header = some ev.headerText
  payloadText : base64RawURLDecode ev.payload = some ev.payloadText
  headerValue : Json.parse ev.headerText = some (.obj ev.members)
  payloadValue : Json.parse ev.payloadText = some ev.payloadValue
  decoded : storeStruct fields ev.payloadValue {} = some claims
  headerUnique : NoDuplicates (.obj ev.members)
  payloadUnique : NoDuplicates ev.payloadValue
  keyID : storeMap ev.members (lit "kid") = some (.str ev.keyID)
  keyIDGiven : isBlank ev.keyID = false
  signer : signerKey = spell ev.keyID
  keyFunc : opts.toKeySource.resolve spell = .ok ev.keyFunc
  key : ev.keyFunc signerKey = .ok ev.key
  method : ev.alg ∈ opts.validMethods
  signed : ∃ signatureBytes, base64RawURLDecode ev.signature = some signatureBytes ∧
    lib.verify ev.alg (ev.header ++ [0x2e] ++ ev.payload) signatureBytes ev.key = true
  issuer : claims.issuer = opts.expectedIssuer
  audience : opts.expectedAudience ∈ claims.audience
  notExpired : ∃ e, claims.expiresAt = some e ∧ now < e
  notFuture : ∀ t, claims.issuedAt = some t → t ≤ now
  notRevoked : isListed claims.id opts.revokedJWTIDs = false

variable {lib : Library Key} {fields : StructType Claims} {spell : GoString → GoString}
  {unsafeMethod : GoString → Bool} {opts : VerifyOptions Key} {parserOpts : ParserOptions}
  {keyFunc : KeyFunc Key} {tokenString signerKey : GoString} {sysNow : SysTime} {claims : Claims}
  {stray : Decoder → Except ScanError Decoder}

theorem parserOptionsWith_eq_ok (sysNow : SysTime)
    (h : parserOptionsWith unsafeMethod opts = .ok parserOpts) :
    parserOpts.validMethods = opts.validMethods ∧ parserOpts.issuer = opts.expectedIssuer ∧
      parserOpts.audience = opts.expectedAudience ∧
      parserOpts.time sysNow = opts.time sysNow := by
  unfold parserOptionsWith at h
  iterate 6 (split at h; · cases h)
  cases h
  refine ⟨rfl, rfl, rfl, ?_⟩
  unfold ParserOptions.time VerifyOptions.time
  split <;> rfl

theorem keyIDWith_ok_iff {header : Header} {id : GoString} :
    keyIDWith spell header = .ok id ↔
      ∃ keyID, header (lit "kid") = some (.str keyID) ∧ isBlank keyID = false ∧
        id = spell keyID := by
  unfold keyIDWith
  constructor
  · intro h
    split at h
    · rename_i keyID hkid
      split at h
      · cases h
      · rename_i hbl
        cases h
        exact ⟨keyID, hkid, by simpa using hbl, rfl⟩
    · cases h
  · rintro ⟨keyID, hkid, hbl, rfl⟩
    simp [hkid, hbl]

/-- A token that passes the scanner, the options and the library is verified. -/
theorem parsed_of_parseVerified (hlib : Lawful lib) (hscan : scanToken stray tokenString = .ok ())
    (hopts : parserOptionsWith unsafeMethod opts = .ok parserOpts)
    (hkeys : opts.toKeySource.resolve spell = .ok keyFunc)
    (h : parseVerified lib fields spell opts.revokedJWTIDs parserOpts keyFunc tokenString sysNow =
      .ok (claims, signerKey)) :
    ∃ ev, Parsed lib fields spell opts (opts.time sysNow) tokenString claims signerKey ev := by
  simp only [parseVerified, Lib.bind_ok_iff, Lib.mapError_ok_iff, Prod.exists, Token.require_ok_iff] at h
  obtain ⟨header, claims, hpar, signer, hsnr, -, hrev, rfl, rfl⟩ := h
  obtain ⟨parts, hv⟩ := hlib hpar
  obtain ⟨hms, hiss, haud, htime⟩ := parserOptionsWith_eq_ok sysNow hopts
  have hhd := hv.headerMap
  subst hhd
  obtain ⟨keyID, hkid, hbl, rfl⟩ := keyIDWith_ok_iff.mp hsnr
  obtain ⟨v, hpay, hdec⟩ := Option.bind_eq_some_iff.mp hv.decoded
  have hkey := hv.key
  simp only [hsnr] at hkey
  obtain ⟨hheaderUnique, hpayloadUnique⟩ := (scanToken_ok_iff hv.split hv.headerText
    hv.payloadText hv.headerValue hpay).mp hscan
  have hreg := hv.registered
  rw [htime] at hreg
  exact ⟨{ parts with payloadValue := v, keyID := keyID, keyFunc := keyFunc },
    { split := hv.split, headerText := hv.headerText, payloadText := hv.payloadText
      headerValue := hv.headerValue, payloadValue := hpay, decoded := hdec
      headerUnique := hheaderUnique, payloadUnique := hpayloadUnique
      keyID := hkid, keyIDGiven := hbl, signer := rfl, keyFunc := hkeys, key := hkey
      method := hms ▸ hv.method, signed := ⟨_, hv.signatureBytes, hv.signed⟩
      issuer := hiss ▸ hreg.issuer, audience := haud ▸ hreg.audience
      notExpired := hreg.notExpired, notFuture := hreg.notFuture
      notRevoked := by simpa using hrev }⟩

/-- The claims in the payload of a token, verified or not. -/
def payloadClaims (fields : StructType Claims) (tokenString : GoString) : Option Claims :=
  match Go.split 0x2e tokenString with
  | [_, payload, _] => (base64RawURLDecode payload).bind (unmarshalClaims fields)
  | _ => none

/-- The key id in the header of a token, verified or not. -/
def headerKeyID (tokenString : GoString) : Option GoString :=
  match Go.split 0x2e tokenString with
  | [header, _, _] =>
    match (base64RawURLDecode header).bind Json.parse with
    | some (.obj members) =>
      match storeMap members (lit "kid") with
      | some (.str keyID) => some keyID
      | _ => none
    | _ => none
  | _ => none

variable {now now' : Time} {opts' : VerifyOptions Key} {claims' : Claims} {signerKey' : GoString}
  {ev ev' : Evidence Key}

theorem Parsed.payloadClaims_eq
    (h : Parsed lib fields spell opts now tokenString claims signerKey ev) :
    payloadClaims fields tokenString = some claims := by
  simp [payloadClaims, h.split, h.payloadText, unmarshalClaims, h.payloadValue, h.decoded]

theorem Parsed.headerKeyID_eq
    (h : Parsed lib fields spell opts now tokenString claims signerKey ev) :
    headerKeyID tokenString = some ev.keyID := by
  simp [headerKeyID, h.split, h.headerText, h.headerValue, h.keyID]

/-- A token determines its claims and its signer, whatever the options. -/
theorem Parsed.unique (h : Parsed lib fields spell opts now tokenString claims signerKey ev)
    (h' : Parsed lib fields spell opts' now' tokenString claims' signerKey' ev') :
    claims = claims' ∧ signerKey = signerKey' := by
  refine ⟨Option.some.inj (h.payloadClaims_eq.symm.trans h'.payloadClaims_eq), ?_⟩
  have hhd : ev.header = ev'.header := by
    have := h.split.symm.trans h'.split
    simp only [List.cons.injEq] at this
    exact this.1
  have htext : ev.headerText = ev'.headerText := by
    have := h.headerText
    rw [hhd, h'.headerText] at this
    exact (Option.some.inj this).symm
  have hmembers : ev.members = ev'.members := by
    have := h.headerValue
    rw [htext, h'.headerValue] at this
    simpa using this.symm
  have hkeyID : ev.keyID = ev'.keyID := by
    have := h.keyID
    rw [hmembers, h'.keyID] at this
    simpa using this.symm
  rw [h.signer, h'.signer, hkeyID]

end Verify

/-! ### Sample tokens -/

/-- A library whose signatures are the keys themselves. -/
def sampleLibrary : Library Bytes :=
  reference (fun _ => true) fun _ _ signature key => signature == key

theorem sampleLibrary_lawful : Lawful sampleLibrary := reference_lawful

/-- A grant of manager `m` to agent `a`, for audience `v`, signed under the key id `m1`
and valid until second 20. It confirms the key id `a1`. -/
def sampleGrant : GoString := litPieces
  ["eyJhbGciOiJ0Iiwia2lkIjoibTEifQ.", "eyJpc3MiOiJtIiwic3ViIjoiYSIsImF1ZCI6InYi",
    "LCJleHAiOjIwLCJqdGkiOiIxIiwicHJvZmlsZV90", "eXBlIjoic2JhaXAuaWRlbnRpdHktZ3JhbnQiLCJw",
    "cm9maWxlX3ZlcnNpb24iOiIxIiwiY25mIjp7Imtp", "ZCI6ImExIn19.AQ"]

/-- A statement of agent `a` for the grant with hash `ab`, signed under the key id `a1`
and valid until second 15: leaf key `l`, exporter `x`, context `c`, nonce `n`. -/
def sampleStatement : GoString := litPieces
  ["eyJhbGciOiJ0Iiwia2lkIjoiYTEifQ.", "eyJpc3MiOiJhIiwiYXVkIjoidiIsImV4cCI6MTUs",
    "Imp0aSI6IjIiLCJwcm9maWxlX3R5cGUiOiJzYmFp", "cC5zZXNzaW9uLWJpbmRpbmciLCJwcm9maWxlX3Zl",
    "cnNpb24iOiIxIiwiZ3JhbnRfaGFzaCI6InNoYTI1", "NjphYiIsImxlYWZfcHVibGljX2tleV9zaGEyNTYi",
    "OiJsIiwidGxzX2V4cG9ydGVyX3NoYTI1NiI6Ingi", "LCJyZXF1ZXN0X2NvbnRleHRfc2hhMjU2IjoiYyIs",
    "Im5vbmNlIjoibiJ9.Ag"]

/-- The options for a token of `issuer`, with one local key. -/
def sampleVerifyOptions (issuer keyID : GoString) (key : Bytes) : VerifyOptions Bytes where
  localKeys := [{ keyID, key := some key }]
  expectedIssuer := issuer
  expectedAudience := lit "v"
  validMethods := [lit "t"]

end SecureBinding.JWT
