import SecureBinding.IdentityPolicy.ReplayCache

/-!
# GatewayRoute.Route

The model of `pkg/agtp/gatewayroute/route.go`: route assertions of a gateway, the proofs
of their target agents, the route a verifier expects, and `Validate`.

The checks collect all errors they find, in order, so each of them is a list; an assertion
passes with the empty one. `opts.Now` that is not set is replaced by a reading of the system
clock, and a replay cache is an object with state, as in `IdentityPolicy.SessionBinding`.
-/

namespace SecureBinding.GatewayRoute

open Go
open IdentityPolicy (ReplayCache)

/-! ### Errors -/

inductive Sentinel
  | missingExpected
  | missingObserved
  | mismatch
  | expired
  | future
  | replayDetected
  | unsafeValue
  deriving Repr, DecidableEq

/-- What `fieldError` makes: a field and a sentinel error. -/
structure FieldError where
  field : String
  err : Sentinel
  deriving Repr, DecidableEq

/-- The errors of `Validate`: the joined field errors, a replay, or what else the replay
cache says. -/
inductive ValidateError
  | joined (errs : List FieldError)
  | replayDetected
  | cache (err : IdentityPolicy.Error)
  deriving Repr, DecidableEq

/-! ### Data model -/

def assertionType : GoString := lit "ai2ai.gateway-route-assertion"

def assertionVersion : Int := 1

/-- The fields of an assertion that are no registered claims of a token. -/
structure RouteClaims where
  type : GoString := []
  version : Int := 0
  nonce : GoString := []
  grantHash : GoString := []
  gatewaySessionBindingSHA256 : GoString := []
  routeID : GoString := []
  nextHop : GoString := []
  tenant : GoString := []
  principal : GoString := []
  authorityScope : GoString := []
  policyID : GoString := []
  targetAgent : GoString := []
  targetWorkload : GoString := []
  targetAgentKeyThumbprint : GoString := []
  upstreamAuthn : GoString := []
  upstreamPeer : GoString := []
  requestContextSHA256 : GoString := []
  taskID : GoString := []
  contextID : GoString := []
  sessionID : GoString := []
  auditHash : GoString := []
  agentHolderOfKeyProofSHA256 : GoString := []
  deriving Repr, DecidableEq

/-- `Assertion`: a verified statement of a gateway about a route. -/
structure Assertion extends RouteClaims where
  issuer : GoString := []
  audience : GoString := []
  id : GoString := []
  issuedAt : Time := 0
  expiresAt : Time := 0
  deriving Repr, DecidableEq

/-- `HolderOfKeyProof`: a verified proof of the target agent. -/
structure HolderOfKeyProof where
  agentID : GoString := []
  workloadID : GoString := []
  keyThumbprint : GoString := []
  grantHash : GoString := []
  routeID : GoString := []
  taskID : GoString := []
  contextID : GoString := []
  nonce : GoString := []
  issuedAt : Time := 0
  expiresAt : Time := 0

/-- `ExpectedRoute`: local policy. -/
structure ExpectedRoute where
  issuer : GoString := []
  audience : GoString := []
  tenant : GoString := []
  authorityScope : GoString := []
  routeID : GoString := []
  policyID : GoString := []
  targetAgent : GoString := []
  targetWorkload : GoString := []
  targetAgentKeyThumbprint : GoString := []
  requestContextSHA256 : GoString := []
  taskID : GoString := []
  contextID : GoString := []
  auditHash : GoString := []
  requireAgentHolderOfKeyProof : Bool := false

structure Options (σ : Type) where
  now : Time := 0
  replayCache : Option (ReplayCache σ) := none

def Options.time {σ : Type} (opts : Options σ) (sysNow : SysTime) : Time :=
  if opts.now.isZero then sysNow.val else opts.now

/-! ### Values -/

def isEmpty (value : GoString) : Bool := isBlank value

/-- `isUnsafe`: a line break or an angle bracket is in the value. -/
def isUnsafe (value : GoString) : Bool := value.any (lit "\r\n<>").contains

/-- `validateObserved`: the value of a field that must be there. -/
def validateObserved (name : String) (value : GoString) : List FieldError :=
  if isEmpty value then [⟨name, .missingObserved⟩]
  else if isUnsafe value then [⟨name, .unsafeValue⟩]
  else []

/-- The end of the comparison loops: the value that is wanted is given. -/
def compareGot (name : String) (want got : GoString) : List FieldError :=
  if isEmpty got then [⟨name, .missingObserved⟩]
  else if isUnsafe got then [⟨name, .unsafeValue⟩]
  else if want ≠ got then [⟨name, .mismatch⟩]
  else []

/-- A turn of the loop of `compareExpected`. -/
def compareField (name : String) (want got : GoString) : List FieldError :=
  if isEmpty want then []
  else if isUnsafe want then [⟨name, .unsafeValue⟩]
  else compareGot name want got

/-- A turn of the loop of `validateHolderProof`, which does not look for unsafe values in
what is wanted. -/
def compareHolderField (name : String) (want got : GoString) : List FieldError :=
  if isEmpty want then [] else compareGot name want got

/-! ### Checks -/

/-- The fields that `validateCore` requires, with their names. -/
def observedFields (a : Assertion) : List (String × GoString) :=
  [("gta_type", a.type), ("iss", a.issuer), ("aud", a.audience), ("jti", a.id),
    ("nonce", a.nonce), ("grant_hash", a.grantHash),
    ("gateway_session_binding_sha256", a.gatewaySessionBindingSHA256), ("route_id", a.routeID),
    ("next_hop", a.nextHop), ("policy_id", a.policyID), ("target_agent", a.targetAgent),
    ("upstream_authn", a.upstreamAuthn), ("upstream_peer", a.upstreamPeer),
    ("request_context_sha256", a.requestContextSHA256)]

def validateCore (a : Assertion) (now : Time) : List FieldError :=
  ((observedFields a).flatMap fun f => validateObserved f.1 f.2)
    ++ (if a.type ≠ [] ∧ a.type ≠ assertionType then [⟨"gta_type", .mismatch⟩] else [])
    ++ (if a.version ≠ assertionVersion then [⟨"gta_version", .mismatch⟩] else [])
    ++ (if a.issuedAt.isZero then [⟨"iat", .missingObserved⟩]
      else if a.issuedAt.after now then [⟨"iat", .future⟩]
      else [])
    ++ (if a.expiresAt.isZero then [⟨"exp", .missingObserved⟩]
      else if now.after a.expiresAt then [⟨"exp", .expired⟩]
      else [])

/-- The fields that `compareExpected` compares: name, wanted value and value. -/
def expectedFields (a : Assertion) (expected : ExpectedRoute) :
    List (String × GoString × GoString) :=
  [("iss", expected.issuer, a.issuer), ("aud", expected.audience, a.audience),
    ("tenant", expected.tenant, a.tenant),
    ("authority_scope", expected.authorityScope, a.authorityScope),
    ("route_id", expected.routeID, a.routeID), ("policy_id", expected.policyID, a.policyID),
    ("target_agent", expected.targetAgent, a.targetAgent),
    ("target_workload", expected.targetWorkload, a.targetWorkload),
    ("target_agent_key_thumbprint", expected.targetAgentKeyThumbprint, a.targetAgentKeyThumbprint),
    ("request_context_sha256", expected.requestContextSHA256, a.requestContextSHA256),
    ("task_id", expected.taskID, a.taskID), ("context_id", expected.contextID, a.contextID),
    ("audit_hash", expected.auditHash, a.auditHash)]

def compareExpected (a : Assertion) (expected : ExpectedRoute) : List FieldError :=
  ((expectedFields a expected).flatMap fun f => compareField f.1 f.2.1 f.2.2)
    ++ (if isEmpty expected.issuer || isEmpty expected.audience || isEmpty expected.routeID
        || isEmpty expected.policyID || isEmpty expected.targetAgent
        || isEmpty expected.requestContextSHA256 then [⟨"*", .missingExpected⟩]
      else [])

/-- `holderKeyThumbprint`. Here only the empty text counts as not given. -/
def holderKeyThumbprint (a : Assertion) (expected : ExpectedRoute) : GoString :=
  if expected.targetAgentKeyThumbprint ≠ [] then expected.targetAgentKeyThumbprint
  else a.targetAgentKeyThumbprint

/-- The fields that `validateHolderProof` compares. -/
def holderFields (a : Assertion) (proof : HolderOfKeyProof) (expected : ExpectedRoute) :
    List (String × GoString × GoString) :=
  [("holder.agent", a.targetAgent, proof.agentID),
    ("holder.workload", a.targetWorkload, proof.workloadID),
    ("holder.key_thumbprint", holderKeyThumbprint a expected, proof.keyThumbprint),
    ("grant_hash", a.grantHash, proof.grantHash), ("route_id", a.routeID, proof.routeID),
    ("task_id", a.taskID, proof.taskID), ("context_id", a.contextID, proof.contextID),
    ("holder.nonce", a.nonce, proof.nonce)]

def validateHolderProof (a : Assertion) (proof : Option HolderOfKeyProof)
    (expected : ExpectedRoute) (now : Time) : List FieldError :=
  match proof with
  | none => [⟨"agent_hok_proof_sha256", .missingObserved⟩]
  | some proof =>
    ((holderFields a proof expected).flatMap fun f => compareHolderField f.1 f.2.1 f.2.2)
      ++ (if proof.issuedAt.after now then [⟨"iat", .future⟩] else [])
      ++ (if proof.expiresAt.isZero then [⟨"exp", .missingObserved⟩]
        else if now.after proof.expiresAt then [⟨"exp", .expired⟩]
        else [])
      ++ (if isEmpty a.agentHolderOfKeyProofSHA256 then
          [⟨"agent_hok_proof_sha256", .missingObserved⟩]
        else [])

def replayKey (a : Assertion) : GoString :=
  a.issuer ++ [0] ++ a.audience ++ [0] ++ a.tenant ++ [0] ++ a.authorityScope ++ [0] ++ a.routeID
    ++ [0] ++ a.grantHash ++ [0] ++ a.nonce

/-- The field errors that `Validate` collects. -/
def fieldErrors (a : Assertion) (proof : Option HolderOfKeyProof) (expected : ExpectedRoute)
    (now : Time) : List FieldError :=
  validateCore a now ++ compareExpected a expected
    ++ (if expected.requireAgentHolderOfKeyProof then validateHolderProof a proof expected now
      else [])

def validate {σ : Type} (a : Assertion) (proof : Option HolderOfKeyProof)
    (expected : ExpectedRoute) (opts : Options σ) (sysNow : SysTime) (w : σ) :
    Option ValidateError × σ :=
  let errs := fieldErrors a proof expected (opts.time sysNow)
  if errs ≠ [] then (some (.joined errs), w)
  else
    match opts.replayCache with
    | none => (none, w)
    | some cache =>
      match cache.markUsed (replayKey a) a.expiresAt w with
      | (none, w') => (none, w')
      | (some err, w') =>
        (some (if err.is .replayDetected then .replayDetected else .cache err), w')

end SecureBinding.GatewayRoute
