import SecureBinding.Agtp.CWT
import SecureBinding.Eat.Claims

/-!
# Eat.Codec

The model of the encoders and the decoder of `pkg/attestation/eat`: claims as a CWT in a
`COSE_Sign1` message, claims as a JWT, and the decoder that tells the two apart by their bytes.

The COSE, CBOR and JSON codecs and the signature schemes are parameters (`Libraries`), and so
is `ParseWithClaims` of golang-jwt. The text of a JWT is put together here, since the decoder
looks at it.
-/

namespace SecureBinding.Eat

open Go Go.Json Lib
open Agtp (Cose Sign1Message Algorithm headerLabelKeyID)

/-! ### Libraries -/

/-- The libraries, for verification keys `Key` and signing keys `SigningKey`. -/
structure Libraries (Key SigningKey : Type) where
  /-- go-cose, for reading and verifying messages. -/
  cose : Cose Key
  /-- `cose.NewSigner`, the signer being the signature it makes for a message. -/
  newSigner : Algorithm → SigningKey → Except String (Sign1Message → Except String Bytes)
  /-- `(*Sign1Message).MarshalCBOR`. -/
  marshalSign1 : Sign1Message → Except String Bytes
  /-- `cbor.Marshal` of claims. -/
  marshalCBOR : EATClaims → Except String Bytes
  /-- `cbor.Unmarshal` into claims. -/
  unmarshalCBOR : Bytes → Except String EATClaims
  /-- `json.Marshal` of the struct in `MarshalJSON`: the claims and three texts. -/
  marshalJSON : EATClaims → GoString → GoString → GoString → Except String Bytes
  /-- `json.Unmarshal` into `jwtClaims`. -/
  unmarshalJSON : Bytes → Option EATClaims
  /-- Is this the name of a method of type `*jwt.SigningMethodECDSA`? -/
  isECDSA : GoString → Bool
  /-- `Sign` of ES256: the signed text and the key. -/
  signES256 : Bytes → SigningKey → Except String Bytes
  /-- `Verify` of a signing method: its name, the signed text, the signature and the key. -/
  verifyJWT : GoString → Bytes → Bytes → Key → Bool
  /-- `jwt.ParseWithClaims`: the token, the key callback on the method, and the clock. -/
  parseWithClaims : GoString → (GoString → Except GoString Key) → SysTime → Except String EATClaims
  /-- `ParseUnverified` of a parser. -/
  parseUnverified : GoString → Except String EATClaims

def algorithmES256 : Algorithm := -7

def headerLabelAlgorithm : Agtp.Label := .int64 1

section Codec

variable {Key SigningKey : Type} (libs : Libraries Key SigningKey)

/-! ### Encoders -/

/-- The issuer and the times that both encoders write into the claims: five minutes. -/
def stampClaims (issuer : GoString) (now : Int) (claims : EATClaims) : EATClaims :=
  { claims with issuer, issuedAt := now, expiresAt := now + 300 }

/-- The message of the CBOR encoder before it is signed. -/
def newSign1Message (issuer : GoString) (payload : Bytes) : Sign1Message where
  protectedHeader := [(headerLabelAlgorithm, .int64 algorithmES256)]
  unprotectedHeader := [(headerLabelKeyID, .bytes issuer)]
  payload := payload
  signature := []

/-- `(*CBOREncoder).Encode` at Unix time `now`: the claims as it leaves them, and the token. -/
def encodeToCBOR (signingKey : SigningKey) (issuer : GoString) (now : Int) (claims : EATClaims) :
    Except String (EATClaims × Bytes) := do
  let claims := stampClaims issuer now claims
  let payload ← (libs.marshalCBOR claims).mapError ("failed to encode CBOR payload: " ++ ·)
  let msg := newSign1Message issuer payload
  let sign ← (libs.newSigner algorithmES256 signingKey).mapError
    ("failed to create COSE signer: " ++ ·)
  let signature ← (sign msg).mapError ("failed to sign COSE message: " ++ ·)
  let signed ← (libs.marshalSign1 { msg with signature }).mapError
    ("failed to marshal COSE_Sign1: " ++ ·)
  return (claims, signed)

/-- `MarshalJSON` of the claims. -/
def marshalClaimsJSON (claims : EATClaims) : Except String Bytes :=
  libs.marshalJSON claims (hexEncode claims.nonce) (hexEncode claims.ueid)
    (hexEncode claims.measurements)

/-- The header of a token of `NewWithClaims` with ES256. -/
def es256Header : Bytes := lit "\x7b\"alg\":\"ES256\",\"typ\":\"JWT\"\x7d"

/-- The text of a token that is signed. -/
def signingString (payload : Bytes) : GoString :=
  base64RawURLEncode es256Header ++ 0x2e :: base64RawURLEncode payload

/-- `SignedString` of a token of `NewWithClaims` with ES256. -/
def signedString (claims : EATClaims) (signingKey : SigningKey) : Except String GoString := do
  let payload ← marshalClaimsJSON libs claims
  let signature ← libs.signES256 (signingString payload) signingKey
  return signingString payload ++ 0x2e :: base64RawURLEncode signature

/-- `(*JWTEncoder).Encode` at Unix time `now`: the claims as it leaves them, and the token. -/
def encodeToJWT (signingKey : SigningKey) (issuer : GoString) (now : Int) (claims : EATClaims) :
    Except String (EATClaims × GoString) := do
  let claims := stampClaims issuer now claims
  let token ← (signedString libs claims signingKey).mapError ("failed to sign JWT: " ++ ·)
  return (claims, token)

/-! ### The decoder -/

def isJWT (token : Bytes) : Bool :=
  if token.length < 10 then false
  else token.contains 0x2e && !(token.take 10).contains 0

/-- The key callback of `decodeJWT`. -/
def ecdsaKeyFunc (verifyKey : Key) (method : GoString) : Except GoString Key :=
  if libs.isECDSA method then .ok verifyKey
  else .error (lit "unexpected signing method: " ++ method)

/-- `decodeJWT`. A token that was parsed without a key is not marked as valid. -/
def decodeJWT (verifyKey : Option Key) (token : GoString) (sysNow : SysTime) :
    Except String EATClaims :=
  match verifyKey with
  | none => do
    let _ ← (libs.parseUnverified token).mapError ("failed to parse JWT: " ++ ·)
    .error "invalid JWT token"
  | some key =>
    (libs.parseWithClaims token (ecdsaKeyFunc libs key) sysNow).mapError
      ("failed to parse JWT: " ++ ·)

/-- A signature that was checked, and the outcome. -/
structure SignatureCheck (Key : Type) where
  key : Key
  message : Sign1Message
  valid : Bool

/-- The verification of a message with ES256 under a key, with the signature it has checked. -/
def verifySign1 (key : Key) (msg : Sign1Message) : Except String Unit × List (SignatureCheck Key) :=
  match libs.cose.newVerifier algorithmES256 key with
  | .error e => (.error ("failed to create COSE verifier: " ++ e), [])
  | .ok verify =>
    match verify msg with
    | .error e => (.error ("COSE signature verification failed: " ++ e), [⟨key, msg, false⟩])
    | .ok _ => (.ok (), [⟨key, msg, true⟩])

/-- The part of `decodeCBOR` that a nil key skips. -/
def verifyIfKey (verifyKey : Option Key) (msg : Sign1Message) :
    Except String Unit × List (SignatureCheck Key) :=
  match verifyKey with
  | none => (.ok (), [])
  | some key => verifySign1 libs key msg

/-- `decodeCBOR`, with the signatures that were checked on the way. A token that is not a COSE
message is decoded as plain CBOR, whether or not there is a key. -/
def decodeCBOR (verifyKey : Option Key) (token : Bytes) :
    Except String EATClaims × List (SignatureCheck Key) :=
  match libs.cose.unmarshalSign1 token with
  | .error _ => ((libs.unmarshalCBOR token).mapError ("failed to decode CBOR: " ++ ·), [])
  | .ok msg =>
    let verified := verifyIfKey libs verifyKey msg
    (do
      verified.1
      (libs.unmarshalCBOR msg.payload).mapError ("failed to decode CBOR payload: " ++ ·),
      verified.2)

def decode (verifyKey : Option Key) (token : Bytes) (sysNow : SysTime) : Except String EATClaims :=
  if isJWT token then decodeJWT libs verifyKey token sysNow
  else (decodeCBOR libs verifyKey token).1

end Codec

end SecureBinding.Eat
