import SecureBinding.Go.Json.Unmarshal
import SecureBinding.Token.Keys
import SecureBinding.GatewayRoute.Route

/-!
# JWT.Library

The interface to `github.com/golang-jwt/jwt/v5`.

The library is a parameter of the development (`Library`): its signing methods, the
decoders of its own claim types, and `ParseWithClaims`. What the development assumes
of it is its documented behaviour: `ParseWithClaims` returns no error only for a token
that is well formed, signed with an allowed method under the key the callback
returned, and whose registered claims pass the validation the options ask for
(`Verifies`, `Lawful`). `reference` is a library with these properties; the concrete
runs of later modules use it.
-/

namespace SecureBinding.JWT

open Go Go.Json
open IdentityPolicy (Values)
open Token (VerifyError)

/-! ### Claims -/

structure RegisteredClaims where
  issuer : GoString := []
  subject : GoString := []
  audience : List GoString := []
  expiresAt : Option Time := none
  notBefore : Option Time := none
  issuedAt : Option Time := none
  id : GoString := []
  deriving Repr, DecidableEq

/-- The values of the claim structs of `pkg/clients` and `pkg/agtp`. Each struct has
some of these fields; those that it has not stay empty. -/
structure Claims extends RegisteredClaims where
  profileType : GoString := []
  profileVersion : GoString := []
  legacyType : GoString := []
  legacyVersion : GoString := []
  confirmationKeyID : GoString := []
  endpointKeyIDs : List GoString := []
  identityGrantJWT : GoString := []
  grantHash : GoString := []
  leafKeySHA256 : GoString := []
  tlsExporter : GoString := []
  requestContext : GoString := []
  attestationBind : GoString := []
  nonce : GoString := []
  /-- The claims `service` to `authorization_details`. -/
  values : Values := {}
  scope : GoString := []
  resource : GoString := []
  /-- The claims of a gateway route assertion. -/
  route : GatewayRoute.RouteClaims := {}
  deriving Repr, DecidableEq

/-! ### The library -/

/-- The header of a token: a `map[string]any`. -/
abbrev Header := GoString → Option Json

/-- The options given to every parse: `WithValidMethods`, `WithIssuer`, `WithAudience`
and, with a clock of the caller, `WithTimeFunc`. `WithExpirationRequired` and
`WithIssuedAt` are always given. -/
structure ParserOptions where
  validMethods : List GoString
  issuer : GoString
  audience : GoString
  timeFunc : Option Time

def ParserOptions.time (opts : ParserOptions) (sysNow : SysTime) : Time :=
  opts.timeFunc.getD sysNow.val

/-- The library, for keys of type `Key`. -/
structure Library (Key : Type) where
  /-- Is there a signing method of this name? -/
  known : GoString → Bool
  /-- `Verify` of a signing method: name, signed text, signature and key. -/
  verify : GoString → Bytes → Bytes → Key → Bool
  /-- `(*NumericDate).UnmarshalJSON`. -/
  numericDate : Json → Option Time
  /-- `(*ClaimStrings).UnmarshalJSON`, on values other than `null`. -/
  claimStrings : Json → Option (List GoString)
  /-- `ParseWithClaims`: the decoder of the claims, the token, the key callback, the
  options and a reading of the system clock. -/
  parseWithClaims : (Bytes → Option Claims) → GoString → (Header → Except VerifyError Key) →
    ParserOptions → SysTime → Except String (Header × Claims)

/-- The parts of a token, decoded, and the key that verified it. -/
structure TokenParts (Key : Type) where
  header : GoString
  payload : GoString
  signature : GoString
  headerText : Bytes
  payloadText : Bytes
  signatureBytes : Bytes
  members : List (GoString × Json)
  alg : GoString
  key : Key

/-- The registered claims are valid at time `now`. -/
structure RegisteredValid (opts : ParserOptions) (now : Time) (claims : RegisteredClaims) :
    Prop where
  notExpired : ∃ e, claims.expiresAt = some e ∧ now < e
  notBefore : ∀ t, claims.notBefore = some t → t ≤ now
  notFuture : ∀ t, claims.issuedAt = some t → t ≤ now
  issuer : claims.issuer = opts.issuer
  audience : opts.audience ∈ claims.audience

/-- What a successful parse has established. -/
structure Verifies {Key : Type} (lib : Library Key) (unmarshal : Bytes → Option Claims)
    (tokenString : GoString) (keyFunc : Header → Except VerifyError Key) (opts : ParserOptions)
    (sysNow : SysTime) (header : Header) (claims : Claims) (parts : TokenParts Key) : Prop where
  split : split 0x2e tokenString = [parts.header, parts.payload, parts.signature]
  headerText : base64RawURLDecode parts.header = some parts.headerText
  payloadText : base64RawURLDecode parts.payload = some parts.payloadText
  signatureBytes : base64RawURLDecode parts.signature = some parts.signatureBytes
  headerValue : Json.parse parts.headerText = some (.obj parts.members)
  headerMap : header = storeMap parts.members
  decoded : unmarshal parts.payloadText = some claims
  alg : header (lit "alg") = some (.str parts.alg)
  known : lib.known parts.alg = true
  method : parts.alg ∈ opts.validMethods
  key : keyFunc header = .ok parts.key
  signed : lib.verify parts.alg (parts.header ++ [0x2e] ++ parts.payload) parts.signatureBytes
    parts.key = true
  registered : RegisteredValid opts (opts.time sysNow) claims.toRegisteredClaims

/-- The documented behaviour of `ParseWithClaims`. -/
def Lawful {Key : Type} (lib : Library Key) : Prop :=
  ∀ {unmarshal tokenString keyFunc opts sysNow header claims},
    lib.parseWithClaims unmarshal tokenString keyFunc opts sysNow = .ok (header, claims) →
    ∃ parts, Verifies lib unmarshal tokenString keyFunc opts sysNow header claims parts

/-- The other direction: `ParseWithClaims` makes no further demands. -/
def Complete {Key : Type} (lib : Library Key) : Prop :=
  ∀ {unmarshal tokenString keyFunc opts sysNow header claims parts},
    Verifies lib unmarshal tokenString keyFunc opts sysNow header claims parts →
    lib.parseWithClaims unmarshal tokenString keyFunc opts sysNow = .ok (header, claims)

/-! ### A reference library -/

instance (opts : ParserOptions) (now : Time) (claims : RegisteredClaims) :
    Decidable (RegisteredValid opts now claims) :=
  decidable_of_iff
    ((claims.expiresAt.any fun e => decide (now < e)) = true ∧
      (claims.notBefore.all fun t => decide (t ≤ now)) = true ∧
      (claims.issuedAt.all fun t => decide (t ≤ now)) = true ∧
      claims.issuer = opts.issuer ∧ opts.audience ∈ claims.audience) <| by
    simp only [Option.any_eq_true, Option.all_eq_true, decide_eq_true_eq]
    exact ⟨fun ⟨he, hn, hi, hiss, haud⟩ => ⟨he, hn, hi, hiss, haud⟩,
      fun ⟨he, hn, hi, hiss, haud⟩ => ⟨he, hn, hi, hiss, haud⟩⟩

/-- A whole number of seconds. -/
def referenceDate : Json → Option Time
  | .num raw =>
    if raw.all isDigit then
      some (Time.unix (raw.foldl (fun n a => n * 10 + (a.toNat - 0x30)) 0 : Nat))
    else none
  | _ => none

/-- A string, or an array of strings. -/
def referenceStrings : Json → Option (List GoString)
  | .str s => some [s]
  | .arr vs => vs.mapM fun
    | .str s => some s
    | _ => none
  | _ => none

/-- `ParseWithClaims` of the reference library. -/
def referenceParse {Key : Type} (known : GoString → Bool)
    (verify : GoString → Bytes → Bytes → Key → Bool) (unmarshal : Bytes → Option Claims)
    (tokenString : GoString) (keyFunc : Header → Except VerifyError Key) (opts : ParserOptions)
    (sysNow : SysTime) : Except String (Header × Claims) :=
  match split 0x2e tokenString with
  | [header, payload, signature] =>
    match base64RawURLDecode header, base64RawURLDecode payload, base64RawURLDecode signature with
    | some headerText, some payloadText, some signatureBytes =>
      match Json.parse headerText, unmarshal payloadText with
      | some (.obj members), some claims =>
        match storeMap members (lit "alg"), keyFunc (storeMap members) with
        | some (.str alg), .ok key =>
          if known alg ∧ alg ∈ opts.validMethods ∧
              verify alg (header ++ [0x2e] ++ payload) signatureBytes key ∧
              RegisteredValid opts (opts.time sysNow) claims.toRegisteredClaims then
            .ok (storeMap members, claims)
          else .error "token is not valid"
        | _, _ => .error "token is unverifiable"
      | _, _ => .error "token is malformed"
    | _, _, _ => .error "token is malformed"
  | _ => .error "token is malformed"

/-- A library that behaves as documented. -/
def reference {Key : Type} (known : GoString → Bool)
    (verify : GoString → Bytes → Bytes → Key → Bool) : Library Key where
  known := known
  verify := verify
  numericDate := referenceDate
  claimStrings := referenceStrings
  parseWithClaims := referenceParse known verify

theorem reference_lawful {Key : Type} {known : GoString → Bool}
    {verify : GoString → Bytes → Bytes → Key → Bool} : Lawful (reference known verify) := by
  intro unmarshal tokenString keyFunc opts sysNow header claims h
  simp only [reference, referenceParse] at h
  split at h
  · rename_i hd pl sg hspl
    split at h
    · rename_i ht pt sb hht hpt hsb
      split at h
      · rename_i ms cl hms hcl
        split at h
        · rename_i alg key halg hkey
          split at h
          · rename_i hcond
            obtain ⟨rfl, rfl⟩ := h
            exact ⟨⟨hd, pl, sg, ht, pt, sb, ms, alg, key⟩, hspl, hht, hpt, hsb, hms, rfl, hcl, halg,
              hcond.1, hcond.2.1, hkey, hcond.2.2.1, hcond.2.2.2⟩
          · cases h
        · cases h
      · cases h
    · cases h
  · cases h

theorem reference_complete {Key : Type} {known : GoString → Bool}
    {verify : GoString → Bytes → Bytes → Key → Bool} : Complete (reference known verify) := by
  intro unmarshal tokenString keyFunc opts sysNow header claims parts h
  obtain rfl := h.headerMap
  have hknown : known parts.alg = true := h.known
  have hsig : verify parts.alg (parts.header ++ [0x2e] ++ parts.payload) parts.signatureBytes
    parts.key = true := h.signed
  simp only [reference, referenceParse, h.split, h.headerText, h.payloadText, h.signatureBytes,
    h.headerValue, h.decoded, h.alg, h.key]
  rw [if_pos ⟨hknown, h.method, hsig, h.registered⟩]

end SecureBinding.JWT
