import SecureBinding.JWT.Verify

/-!
# Agtp.JWT

The model of `pkg/agtp/jwt.go`: the reference adapters for identity grants,
session-binding statements and session envelopes encoded as JWTs.

The verifiers follow those of `pkg/clients` step by step, with differences that
matter: the options are judged before the token is scanned, signing methods are
compared with `none` without trimming them, and the key id of the header is passed on
as it is spelled there.
-/

namespace SecureBinding.Agtp

open Go IdentityPolicy JWT
open Token (VerifyError KeyFunc require SessionIdentityResult acceptSession
  verifySessionIdentity)

/-! ### Profile checks -/

def legacyTokenType (tokenType : GoString) : GoString :=
  if tokenType = tokenTypeIdentityGrant then legacyTokenTypeIdentityGrant
  else if tokenType = tokenTypeSessionBinding then legacyTokenTypeSessionBinding
  else if tokenType = tokenTypeSessionEnvelope then legacyTokenTypeSessionEnvelope
  else []

def profileTypeMatches (value expectedType : GoString) (allowLegacyValue : Bool) : Bool :=
  if value = [] then true
  else if value = expectedType then true
  else allowLegacyValue && value == legacyTokenType expectedType

def profileVersionMatches (value : GoString) : Bool := value == [] || value == profileVersion

def validateProfileClaims (c : Claims) (expectedType : GoString) : Except VerifyError Unit := do
  require (profileTypeMatches (trimSpace c.profileType) expectedType false) .invalidTokenType
  require (profileVersionMatches (trimSpace c.profileVersion)) .unsupportedVersion
  require (profileTypeMatches (trimSpace c.legacyType) expectedType true) .invalidTokenType
  require (profileVersionMatches (trimSpace c.legacyVersion)) .unsupportedVersion
  require (!isBlank c.profileType || !isBlank c.legacyType) .invalidTokenType
  require (!isBlank c.profileVersion || !isBlank c.legacyVersion) .unsupportedVersion

def validateSessionBindingClaims (c : Claims) : Except VerifyError Unit :=
  requireSessionBindingFields c

/-! ### Parsing -/

section Parsing

variable {Key : Type}

/-- `parserOptions`. A method is trimmed for the first comparison only. -/
def parserOptions (opts : VerifyOptions Key) : Except VerifyError ParserOptions :=
  parserOptionsWith
    (fun method => trimSpace method == [] || equalFoldASCII method (lit "none")) opts

def keyFuncForOptions (opts : VerifyOptions Key) : Except VerifyError (KeyFunc Key) :=
  opts.toKeySource.resolve id

/-- `parseJWT`; `keyIDFromToken` is `keyIDWith id`. -/
def parseJWT (lib : Library Key) (fields : Json.StructType Claims) (tokenString : GoString)
    (opts : VerifyOptions Key) (sysNow : SysTime) : Except VerifyError (Claims × GoString) := do
  let parserOpts ← parserOptions opts
  let keyFunc ← keyFuncForOptions opts
  (rejectDuplicateJWTJSONMembers tokenString).mapError Token.ofScan
  parseVerified lib fields id opts.revokedJWTIDs parserOpts keyFunc tokenString sysNow

/-! ### Verifiers -/

def verifyIdentityGrantJWT (sha256 : Bytes → Bytes) (lib : Library Key) (tokenString : GoString)
    (opts : VerifyOptions Key) (sysNow : SysTime) : Except VerifyError VerifiedGrant := do
  let (claims, signerKey) ← parseJWT lib (identityGrantClaims lib) tokenString opts sysNow
  validateProfileClaims claims tokenTypeIdentityGrant
  require (!isBlank claims.id) .missingJWTID
  require (!isBlank claims.subject) .missingSubject
  require (!isBlank claims.confirmationKeyID) .missingConfirmationKey
  return grantOf sha256 tokenString opts claims signerKey

def verifySessionBindingJWT (lib : Library Key) (tokenString : GoString)
    (opts : VerifyOptions Key) (sysNow : SysTime) :
    Except VerifyError VerifiedSessionBindingStatement := do
  let (claims, signerKey) ← parseJWT lib (sessionBindingClaims lib) tokenString opts sysNow
  validateProfileClaims claims tokenTypeSessionBinding
  require (!isBlank claims.id) .missingJWTID
  validateSessionBindingClaims claims
  return statementOf opts claims signerKey

def verifySessionIdentityJWT {σ : Type} (sha256 : Bytes → Bytes) (lib : Library Key)
    (grantToken bindingToken : GoString) (opts : SessionIdentityJWTOptions Key σ)
    (sysNow : SysTime) (w : σ) : Except VerifyError SessionIdentityResult × σ :=
  verifySessionIdentity
    (fun now => verifyIdentityGrantJWT sha256 lib grantToken { opts.grant with now } sysNow)
    (fun now => verifySessionBindingJWT lib bindingToken { opts.sessionBinding with now } sysNow)
    opts.toSessionOptions sysNow w

/-- The grant and the statement of an envelope: the outer token first, then the grant
it carries. -/
def openEnvelope (sha256 : Bytes → Bytes) (lib : Library Key) (envelopeToken : GoString)
    (grantOpts bindingOpts : VerifyOptions Key) (sysNow : SysTime) :
    Except VerifyError (VerifiedGrant × VerifiedSessionBindingStatement) := do
  let (claims, signerKey) ←
    parseJWT lib (sessionEnvelopeClaims lib) envelopeToken bindingOpts sysNow
  validateProfileClaims claims tokenTypeSessionEnvelope
  require (!isBlank claims.id) .missingJWTID
  require (!isBlank claims.identityGrantJWT) .missingIdentityGrant
  validateSessionBindingClaims claims
  let grant ← verifyIdentityGrantJWT sha256 lib claims.identityGrantJWT grantOpts sysNow
  return (grant, statementOf bindingOpts claims signerKey)

def verifySessionIdentityJWTEnvelope {σ : Type} (sha256 : Bytes → Bytes) (lib : Library Key)
    (envelopeToken : GoString) (opts : SessionIdentityJWTOptions Key σ) (sysNow : SysTime)
    (w : σ) : Except VerifyError SessionIdentityResult × σ :=
  if !opts.policy.enabled then (.error (.sentinel .missingIdentityPolicy), w)
  else if opts.replayCache.isNone then (.error (.sentinel .missingReplayCache), w)
  else
    let now := opts.time sysNow
    match openEnvelope sha256 lib envelopeToken { opts.grant with now }
        { opts.sessionBinding with now } sysNow with
    | .error e => (.error e, w)
    | .ok (grant, statement) => acceptSession opts.toSessionOptions now grant statement w

/-- The part of `VerifySessionIdentityJWTEnvelope` before the replay cache. -/
def judgeSessionIdentityJWTEnvelope {σ : Type} (sha256 : Bytes → Bytes) (lib : Library Key)
    (envelopeToken : GoString) (opts : SessionIdentityJWTOptions Key σ) (sysNow : SysTime) :
    Except VerifyError SessionIdentityResult := do
  require opts.policy.enabled .missingIdentityPolicy
  require opts.replayCache.isSome .missingReplayCache
  let opened ← openEnvelope sha256 lib envelopeToken { opts.grant with now := opts.time sysNow }
    { opts.sessionBinding with now := opts.time sysNow } sysNow
  Token.judgePair opts.toSessionOptions (opts.time sysNow) opened.1 opened.2

/-- The part of `VerifySessionIdentityJWT` before the replay cache. -/
def judgeSessionIdentityJWT {σ : Type} (sha256 : Bytes → Bytes) (lib : Library Key)
    (grantToken bindingToken : GoString) (opts : SessionIdentityJWTOptions Key σ)
    (sysNow : SysTime) : Except VerifyError SessionIdentityResult :=
  Token.judge
    (fun now => verifyIdentityGrantJWT sha256 lib grantToken { opts.grant with now } sysNow)
    (fun now => verifySessionBindingJWT lib bindingToken { opts.sessionBinding with now } sysNow)
    opts.toSessionOptions sysNow

end Parsing

/-! ### What the verifiers establish -/

variable {Key σ : Type} {sha256 : Bytes → Bytes} {lib : Library Key} {tokenString : GoString}
  {opts : VerifyOptions Key} {sysNow : SysTime}

theorem parsed_of_parseJWT (hlib : Lawful lib) {fields : Json.StructType Claims} {claims : Claims}
    {signerKey : GoString}
    (h : parseJWT lib fields tokenString opts sysNow = .ok (claims, signerKey)) :
    ∃ ev, Parsed lib fields id opts (opts.time sysNow) tokenString claims signerKey ev := by
  simp only [parseJWT, Lib.bind_ok_iff, Lib.mapError_ok_iff] at h
  obtain ⟨parserOpts, hopts, keyFunc, hkeys, _, hscan, hpar⟩ := h
  exact parsed_of_parseVerified hlib hscan hopts hkeys hpar

theorem parsed_of_verifyIdentityGrantJWT (hlib : Lawful lib) {grant : VerifiedGrant}
    (h : verifyIdentityGrantJWT sha256 lib tokenString opts sysNow = .ok grant) :
    ∃ claims signerKey ev,
      Parsed lib (identityGrantClaims lib) id opts (opts.time sysNow) tokenString claims signerKey
        ev ∧
      grant = grantOf sha256 tokenString opts claims signerKey := by
  simp only [verifyIdentityGrantJWT, Lib.bind_ok_iff, Prod.exists, Lib.pure_ok_iff] at h
  obtain ⟨claims, signerKey, hpar, -, -, -, -, -, -, -, -, rfl⟩ := h
  obtain ⟨ev, hev⟩ := parsed_of_parseJWT hlib hpar
  exact ⟨claims, signerKey, ev, hev, rfl⟩

theorem parsed_of_verifySessionBindingJWT (hlib : Lawful lib)
    {statement : VerifiedSessionBindingStatement}
    (h : verifySessionBindingJWT lib tokenString opts sysNow = .ok statement) :
    ∃ claims signerKey ev,
      Parsed lib (sessionBindingClaims lib) id opts (opts.time sysNow) tokenString claims signerKey
        ev ∧
      statement = statementOf opts claims signerKey := by
  simp only [verifySessionBindingJWT, Lib.bind_ok_iff, Prod.exists, Lib.pure_ok_iff] at h
  obtain ⟨claims, signerKey, hpar, -, -, -, -, -, -, rfl⟩ := h
  obtain ⟨ev, hev⟩ := parsed_of_parseJWT hlib hpar
  exact ⟨claims, signerKey, ev, hev, rfl⟩

/-- An opened envelope was parsed, and so was the grant in it. -/
theorem parsed_of_openEnvelope (hlib : Lawful lib) {grantOpts : VerifyOptions Key}
    {grant : VerifiedGrant} {statement : VerifiedSessionBindingStatement}
    (h : openEnvelope sha256 lib tokenString grantOpts opts sysNow = .ok (grant, statement)) :
    ∃ claims signerKey ev,
      Parsed lib (sessionEnvelopeClaims lib) id opts (opts.time sysNow) tokenString claims
        signerKey ev ∧
      verifyIdentityGrantJWT sha256 lib claims.identityGrantJWT grantOpts sysNow = .ok grant ∧
      statement = statementOf opts claims signerKey := by
  simp only [openEnvelope, Lib.bind_ok_iff, Prod.exists] at h
  obtain ⟨claims, signerKey, hpar, -, -, -, -, -, -, -, -, grant', hgr, rfl, rfl⟩ := h
  obtain ⟨ev, hev⟩ := parsed_of_parseJWT hlib hpar
  exact ⟨claims, signerKey, ev, hev, hgr, rfl⟩

section Sessions

variable {opts : SessionIdentityJWTOptions Key σ} {grantToken bindingToken : GoString}
  {r : SessionIdentityResult} {w w' : σ}

theorem verifySessionIdentityJWT_eq :
    verifySessionIdentityJWT sha256 lib grantToken bindingToken opts sysNow w =
      Token.thenRecord opts.replayCache
        (judgeSessionIdentityJWT sha256 lib grantToken bindingToken opts sysNow) w :=
  Token.verifySessionIdentity_eq

theorem verifySessionIdentityJWTEnvelope_eq :
    verifySessionIdentityJWTEnvelope sha256 lib tokenString opts sysNow w =
      Token.thenRecord opts.replayCache
        (judgeSessionIdentityJWTEnvelope sha256 lib tokenString opts sysNow) w := by
  unfold verifySessionIdentityJWTEnvelope judgeSessionIdentityJWTEnvelope require
  by_cases hen : opts.policy.enabled = true
  · rw [if_neg (by simp [hen]), if_pos hen, Lib.ok_bind]
    by_cases hca : opts.replayCache.isSome = true
    · rw [if_neg (by simpa [Option.isSome_iff_ne_none] using hca), if_pos hca, Lib.ok_bind]
      dsimp only
      cases openEnvelope sha256 lib tokenString { opts.grant with now := opts.time sysNow }
          { opts.sessionBinding with now := opts.time sysNow } sysNow with
      | error e => rfl
      | ok opened =>
        rw [Lib.ok_bind]
        exact Token.acceptSession_eq
    · rw [if_pos (by simpa using hca), if_neg hca]
      rfl
  · rw [if_pos (by simpa using hen), if_neg hen]
    rfl

theorem judgeSessionIdentityJWTEnvelope_ok_iff :
    judgeSessionIdentityJWTEnvelope sha256 lib tokenString opts sysNow = .ok r ↔
      opts.policy.enabled = true ∧ opts.replayCache.isSome = true ∧
      openEnvelope sha256 lib tokenString { opts.grant with now := opts.time sysNow }
        { opts.sessionBinding with now := opts.time sysNow } sysNow = .ok (r.grant, r.statement) ∧
      Token.Admissible opts.toSessionOptions (opts.time sysNow) r := by
  simp only [judgeSessionIdentityJWTEnvelope, Lib.bind_ok_iff, Token.require_ok_iff,
    Token.judgePair_ok_iff, exists_const, Prod.exists]
  constructor
  · intro h
    obtain ⟨hen, hca, grant, statement, hopen, rfl, rfl, hadm⟩ := h
    exact ⟨hen, hca, hopen, hadm⟩
  · intro h
    obtain ⟨hen, hca, hopen, hadm⟩ := h
    exact ⟨hen, hca, _, _, hopen, rfl, rfl, hadm⟩

theorem openEnvelope_of_accepted
    (h : verifySessionIdentityJWTEnvelope sha256 lib tokenString opts sysNow w = (.ok r, w')) :
    openEnvelope sha256 lib tokenString { opts.grant with now := opts.time sysNow }
      { opts.sessionBinding with now := opts.time sysNow } sysNow = .ok (r.grant, r.statement) := by
  rw [verifySessionIdentityJWTEnvelope_eq] at h
  obtain ⟨hju, -⟩ := Token.thenRecord_ok_iff.mp h
  obtain ⟨-, -, hopen, -⟩ := judgeSessionIdentityJWTEnvelope_ok_iff.mp hju
  exact hopen

end Sessions

end SecureBinding.Agtp
