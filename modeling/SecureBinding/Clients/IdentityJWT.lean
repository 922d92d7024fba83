import SecureBinding.JWT.Verify

/-!
# Clients.IdentityJWT

The model of `pkg/clients/identity_jwt.go`: the verifiers of identity grants and
session-binding statements encoded as JWTs, and of the two together.

The hash function and the JWT library are parameters. A function that may consult
`time.Now` takes the reading `sysNow`.
-/

namespace SecureBinding.Clients

open Go IdentityPolicy JWT
open Token (VerifyError KeyFunc require SessionIdentityResult verifySessionIdentity)

/-! ### Profile checks -/

def profileValueMatches (value expected : GoString) : Bool :=
  trimSpace value == [] || trimSpace value == expected

def legacyProfileValueMatches (value expected : GoString) : Bool :=
  if trimSpace value = [] then true
  else if trimSpace value = expected then true
  else if expected = tokenTypeIdentityGrant then trimSpace value == legacyTokenTypeIdentityGrant
  else if expected = tokenTypeSessionBinding then trimSpace value == legacyTokenTypeSessionBinding
  else false

def profileVersionMatches (value : GoString) : Bool :=
  trimSpace value == [] || trimSpace value == profileVersion

def requireProfile (c : Claims) (expected : GoString) : Except VerifyError Unit := do
  require (profileValueMatches c.profileType expected) .invalidTokenType
  require (legacyProfileValueMatches c.legacyType expected) .invalidTokenType
  require (profileVersionMatches c.profileVersion && profileVersionMatches c.legacyVersion)
    .unsupportedVersion
  require (!isBlank c.profileType || !isBlank c.legacyType) .invalidTokenType
  require (!isBlank c.profileVersion || !isBlank c.legacyVersion) .unsupportedVersion

/-! ### Parsing -/

section Parsing

variable {Key : Type}

/-- `jwtParserOptions`. The methods are trimmed before they are judged. -/
def jwtParserOptions (opts : VerifyOptions Key) : Except VerifyError ParserOptions :=
  parserOptionsWith
    (fun method => trimSpace method == [] || equalFoldASCII (trimSpace method) (lit "none")) opts

def verificationKeyFunc (opts : VerifyOptions Key) : Except VerifyError (KeyFunc Key) :=
  opts.toKeySource.resolve trimSpace

/-- `parseBindingJWT`; `tokenKeyID` is `keyIDWith trimSpace`. -/
def parseBindingJWT (lib : Library Key) (tokenString : GoString) (opts : VerifyOptions Key)
    (sysNow : SysTime) : Except VerifyError (Claims × GoString) := do
  (rejectDuplicateJWTMembers tokenString).mapError Token.ofScan
  let parserOpts ← jwtParserOptions opts
  let keyFunc ← verificationKeyFunc opts
  parseVerified lib (bindingJWTClaims lib) trimSpace opts.revokedJWTIDs parserOpts keyFunc
    tokenString sysNow

/-! ### Verifiers -/

def verifyIdentityGrantJWT (sha256 : Bytes → Bytes) (lib : Library Key) (tokenString : GoString)
    (opts : VerifyOptions Key) (sysNow : SysTime) : Except VerifyError VerifiedGrant := do
  let (claims, signerKey) ← parseBindingJWT lib tokenString opts sysNow
  requireProfile claims tokenTypeIdentityGrant
  require (!isBlank claims.id) .missingJWTID
  require (!isBlank claims.subject) .missingSubject
  require (!isBlank claims.confirmationKeyID) .missingConfirmationKey
  return grantOf sha256 tokenString opts claims signerKey

def verifySessionBindingJWT (lib : Library Key) (tokenString : GoString)
    (opts : VerifyOptions Key) (sysNow : SysTime) :
    Except VerifyError VerifiedSessionBindingStatement := do
  let (claims, signerKey) ← parseBindingJWT lib tokenString opts sysNow
  requireProfile claims tokenTypeSessionBinding
  require (!isBlank claims.id) .missingJWTID
  requireSessionBindingFields claims
  return statementOf opts claims signerKey

def verifySessionIdentityJWT {σ : Type} (sha256 : Bytes → Bytes) (lib : Library Key)
    (grantToken bindingToken : GoString) (opts : SessionIdentityJWTOptions Key σ)
    (sysNow : SysTime) (w : σ) : Except VerifyError SessionIdentityResult × σ :=
  verifySessionIdentity
    (fun now => verifyIdentityGrantJWT sha256 lib grantToken { opts.grant with now } sysNow)
    (fun now => verifySessionBindingJWT lib bindingToken { opts.sessionBinding with now } sysNow)
    opts.toSessionOptions sysNow w

/-- The part of `VerifySessionIdentityJWT` before the replay cache. -/
def judgeSessionIdentityJWT {σ : Type} (sha256 : Bytes → Bytes) (lib : Library Key)
    (grantToken bindingToken : GoString) (opts : SessionIdentityJWTOptions Key σ)
    (sysNow : SysTime) : Except VerifyError SessionIdentityResult :=
  Token.judge
    (fun now => verifyIdentityGrantJWT sha256 lib grantToken { opts.grant with now } sysNow)
    (fun now => verifySessionBindingJWT lib bindingToken { opts.sessionBinding with now } sysNow)
    opts.toSessionOptions sysNow

theorem verifySessionIdentityJWT_eq {σ : Type} {sha256 : Bytes → Bytes} {lib : Library Key}
    {grantToken bindingToken : GoString} {opts : SessionIdentityJWTOptions Key σ}
    {sysNow : SysTime} {w : σ} :
    verifySessionIdentityJWT sha256 lib grantToken bindingToken opts sysNow w =
      Token.thenRecord opts.replayCache
        (judgeSessionIdentityJWT sha256 lib grantToken bindingToken opts sysNow) w :=
  Token.verifySessionIdentity_eq

end Parsing

end SecureBinding.Clients
