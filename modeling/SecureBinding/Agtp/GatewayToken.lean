import SecureBinding.Agtp.CWT

/-!
# Agtp.GatewayToken

The model of `pkg/agtp/gateway_route.go`, `gateway_route_jwt.go` and `gateway_route_cwt.go`:
gateway route assertions carried as JWT or as CWT.

The two verifiers differ in how they get an assertion out of a token, and are the same from
there on (`acceptGatewayRoute`). Both read the clock before they parse, if the options give no
time; the parser reads it once more (`parsed`).
-/

namespace SecureBinding.Agtp

open Go Go.Json JWT GatewayRoute
open Token (VerifyError require isListed)

/-! ### Claims -/

def routeField (name : String) (set : GoString → RouteClaims → RouteClaims) :
    GoString × StructField Claims :=
  stringField name fun s c => { c with route := set s c.route }

def gatewayRouteAssertionClaims {Key : Type} (lib : Library Key) : StructType Claims :=
  registeredClaims lib ++
  [routeField "gta_type" fun s r => { r with type := s },
    (lit "gta_version", { store := storeInt fun n c => { c with route.version := n } }),
    routeField "nonce" fun s r => { r with nonce := s },
    routeField "grant_hash" fun s r => { r with grantHash := s },
    routeField "gateway_session_binding_sha256"
      fun s r => { r with gatewaySessionBindingSHA256 := s },
    routeField "route_id" fun s r => { r with routeID := s },
    routeField "next_hop" fun s r => { r with nextHop := s },
    routeField "tenant" fun s r => { r with tenant := s },
    routeField "principal" fun s r => { r with principal := s },
    routeField "authority_scope" fun s r => { r with authorityScope := s },
    routeField "policy_id" fun s r => { r with policyID := s },
    routeField "target_agent" fun s r => { r with targetAgent := s },
    routeField "target_workload" fun s r => { r with targetWorkload := s },
    routeField "target_agent_key_thumbprint" fun s r => { r with targetAgentKeyThumbprint := s },
    routeField "upstream_authn" fun s r => { r with upstreamAuthn := s },
    routeField "upstream_peer" fun s r => { r with upstreamPeer := s },
    routeField "request_context_sha256" fun s r => { r with requestContextSHA256 := s },
    routeField "task_id" fun s r => { r with taskID := s },
    routeField "context_id" fun s r => { r with contextID := s },
    routeField "session_id" fun s r => { r with sessionID := s },
    routeField "audit_hash" fun s r => { r with auditHash := s },
    routeField "agent_hok_proof_sha256" fun s r => { r with agentHolderOfKeyProofSHA256 := s }]

/-- `gatewayRouteAssertionFromJWTClaims`. Of several audiences it takes the first. -/
def gatewayRouteAssertionFromJWTClaims (c : Claims) : Assertion where
  toRouteClaims := c.route
  issuer := c.issuer
  audience := c.audience.headD []
  id := c.id
  issuedAt := c.issuedAt.getD 0
  expiresAt := c.expiresAt.getD 0

/-- `cwtIntClaimOrZero`. The conversion of a `uint64` wraps around. -/
def cwtIntClaimOrZero (claims : ClaimMap) (key : Label) : Int :=
  match cwtClaimValue claims key with
  | some (.int v) => v
  | some (.int64 v) => v
  | some (.uint64 v) => Int.bmod v (2 ^ 64)
  | _ => 0

/-- The claims of a route assertion in a map. -/
def cwtRouteClaims (claims : ClaimMap) : RouteClaims where
  type := namedClaim claims "gta_type"
  version := cwtIntClaimOrZero claims (.str (lit "gta_version"))
  nonce := namedClaim claims "nonce"
  grantHash := namedClaim claims "grant_hash"
  gatewaySessionBindingSHA256 := namedClaim claims "gateway_session_binding_sha256"
  routeID := namedClaim claims "route_id"
  nextHop := namedClaim claims "next_hop"
  tenant := namedClaim claims "tenant"
  principal := namedClaim claims "principal"
  authorityScope := namedClaim claims "authority_scope"
  policyID := namedClaim claims "policy_id"
  targetAgent := namedClaim claims "target_agent"
  targetWorkload := namedClaim claims "target_workload"
  targetAgentKeyThumbprint := namedClaim claims "target_agent_key_thumbprint"
  upstreamAuthn := namedClaim claims "upstream_authn"
  upstreamPeer := namedClaim claims "upstream_peer"
  requestContextSHA256 := namedClaim claims "request_context_sha256"
  taskID := namedClaim claims "task_id"
  contextID := namedClaim claims "context_id"
  sessionID := namedClaim claims "session_id"
  auditHash := namedClaim claims "audit_hash"
  agentHolderOfKeyProofSHA256 := namedClaim claims "agent_hok_proof_sha256"

/-- `gatewayRouteAssertionFromCWTClaims`. The audience must be a single text. -/
def gatewayRouteAssertionFromCWTClaims (claims : ClaimMap) : Assertion where
  toRouteClaims := cwtRouteClaims claims
  issuer := (cwtStringClaim claims cwtClaimIssuer).getD []
  audience := (cwtStringClaim claims cwtClaimAudience).getD []
  id := cwtIDFromClaims claims
  issuedAt := (cwtTimeClaim claims cwtClaimIssuedAt).getD 0
  expiresAt := (cwtTimeClaim claims cwtClaimExpirationTime).getD 0

/-! ### Checks -/

def validateGatewayRouteCore (a : Assertion) : Except VerifyError Unit := do
  require (a.type == assertionType) .invalidTokenType
  require (a.version == assertionVersion) .unsupportedVersion
  require (!isBlank a.id) .missingJWTID

/-- A turn of the loop of `validateGatewayRouteAcceptance`. -/
def requireExpected (name : String) (want got : GoString) : Except FieldError Unit :=
  if isBlank want then .error ⟨name, .missingExpected⟩
  else if want ≠ got then .error ⟨name, .mismatch⟩
  else .ok ()

def validateGatewayRouteAcceptance (a : Assertion)
    (grantHash gatewaySessionBindingSHA256 holderProofSHA256 : GoString)
    (requireHolderProof : Bool) : Except FieldError Unit := do
  requireExpected "grant_hash" grantHash a.grantHash
  requireExpected "gateway_session_binding_sha256" gatewaySessionBindingSHA256
    a.gatewaySessionBindingSHA256
  if requireHolderProof then
    requireExpected "agent_hok_proof_sha256" holderProofSHA256 a.agentHolderOfKeyProofSHA256

def routeOptionsWithNow {σ : Type} (routeOpts : GatewayRoute.Options σ) (now : Time) :
    GatewayRoute.Options σ :=
  if routeOpts.now.isZero then { routeOpts with now } else routeOpts

/-! ### Verifiers -/

/-- The errors of the verifiers: of the token, of the acceptance checks, of `Validate`. -/
inductive GatewayRouteError
  | token (err : VerifyError)
  | acceptance (err : FieldError)
  | route (err : ValidateError)
  deriving Repr, DecidableEq

/-- What `GatewayRouteJWTOptions` and `GatewayRouteCWTOptions` share. -/
structure GatewayRoutePolicy (σ : Type) where
  expected : ExpectedRoute := {}
  proof : Option HolderOfKeyProof := none
  expectedGrantHash : GoString := []
  expectedGatewaySessionBindingSHA256 : GoString := []
  expectedAgentHolderOfKeyProofSHA256 : GoString := []
  route : GatewayRoute.Options σ := {}

structure GatewayRouteJWTOptions (Key σ : Type) extends GatewayRoutePolicy σ where
  assertion : VerifyOptions Key

structure GatewayRouteCWTOptions (Key σ : Type) extends GatewayRoutePolicy σ where
  assertion : CWTVerifyOptions Key

section Verifiers

variable {Key σ : Type}

def verifyGatewayRouteAssertionJWT (lib : Library Key) (tokenString : GoString)
    (opts : VerifyOptions Key) (parsed : SysTime) : Except VerifyError Assertion := do
  let (claims, _) ← parseJWT lib (gatewayRouteAssertionClaims lib) tokenString opts parsed
  let assertion := gatewayRouteAssertionFromJWTClaims claims
  validateGatewayRouteCore assertion
  return assertion

def verifyGatewayRouteAssertionCWT (cose : Cose Key) (token : Bytes) (opts : CWTVerifyOptions Key)
    (parsed : SysTime) : Except VerifyError Assertion := do
  let (claims, _) ← parseCWT cose token opts parsed
  require (cwtIDFromClaims claims != []) .missingCWTID
  require (!isListed (cwtIDFromClaims claims) opts.revokedCWTIDs) .revokedCWTID
  let assertion := gatewayRouteAssertionFromCWTClaims claims
  validateGatewayRouteCore assertion
  return assertion

/-- What the verifiers do with an assertion. `started` stands in for the clock of `Validate`,
which is not read: `routeOptionsWithNow` leaves no time unset. -/
def acceptGatewayRoute (policy : GatewayRoutePolicy σ) (now : Time) (started : SysTime)
    (verified : Except VerifyError Assertion) (w : σ) : Except GatewayRouteError Assertion × σ :=
  if policy.route.replayCache.isNone then (.error (.token (.sentinel .missingReplayCache)), w)
  else
    match verified with
    | .error err => (.error (.token err), w)
    | .ok assertion =>
      match validateGatewayRouteAcceptance assertion policy.expectedGrantHash
          policy.expectedGatewaySessionBindingSHA256 policy.expectedAgentHolderOfKeyProofSHA256
          policy.expected.requireAgentHolderOfKeyProof with
      | .error err => (.error (.acceptance err), w)
      | .ok () =>
        match validate assertion policy.proof policy.expected
            (routeOptionsWithNow policy.route (if now.isZero then started.val else now)) started
            w with
        | (some err, w') => (.error (.route err), w')
        | (none, w') => (.ok assertion, w')

def verifyGatewayRouteJWT (lib : Library Key) (tokenString : GoString)
    (opts : GatewayRouteJWTOptions Key σ) (started parsed : SysTime) (w : σ) :
    Except GatewayRouteError Assertion × σ :=
  acceptGatewayRoute opts.toGatewayRoutePolicy opts.assertion.now started
    (verifyGatewayRouteAssertionJWT lib tokenString opts.assertion parsed) w

def verifyGatewayRouteCWT (cose : Cose Key) (token : Bytes) (opts : GatewayRouteCWTOptions Key σ)
    (started parsed : SysTime) (w : σ) : Except GatewayRouteError Assertion × σ :=
  acceptGatewayRoute opts.toGatewayRoutePolicy opts.assertion.now started
    (verifyGatewayRouteAssertionCWT cose token opts.assertion parsed) w

end Verifiers

end SecureBinding.Agtp
