import SecureBinding.IdentityPolicy.Policy

/-!
# IdentityPolicy.SessionBinding

The model of `pkg/atls/identitypolicy/session_binding.go`: verified grants, the
session-binding statements that tie them to a TLS session, and the checks that
turn a pair of them into an `Assertion`.

A replay cache is an object with state. The `ReplayCache` interface is modelled
over the type `σ` of states its implementation reads and writes, and a function
that may call it takes a state and returns one; a nil interface is `none`.
-/

namespace SecureBinding.IdentityPolicy

open Go

/-! ### Data model -/

/-- The `ReplayCache` interface: `MarkUsed` records one-shot use of a key. -/
structure ReplayCache (σ : Type) where
  markUsed : GoString → Time → σ → Option Error × σ

structure SessionBindingOptions (σ : Type) where
  now : Time := 0
  replayCache : Option (ReplayCache σ) := none

/-- `VerifiedGrant`: an already-authenticated identity grant. -/
structure VerifiedGrant where
  issuer : GoString := []
  issuerKey : GoString := []
  audience : GoString := []
  grantHash : GoString := []
  values : Values := {}
  confirmationKey : GoString := []
  authorizedEndpointKeys : List GoString := []
  issuedAt : Time := 0
  expiresAt : Time := 0
  deriving Repr, DecidableEq

/-- `VerifiedSessionBindingStatement`: an already-verified holder-of-key proof
that binds a grant to the accepted TLS session. -/
structure VerifiedSessionBindingStatement where
  grantHash : GoString := []
  audience : GoString := []
  signerKey : GoString := []
  binding : Binding := {}
  deriving Repr, DecidableEq

namespace VerifiedGrant

def hasBindingKey (g : VerifiedGrant) : Bool :=
  !isBlank g.confirmationKey || !isBlank g.values.agentPublicKey
    || g.authorizedEndpointKeys.any fun key => !isBlank key

def allowsBindingKey (g : VerifiedGrant) (key : GoString) : Bool :=
  !isBlank key && (key == g.confirmationKey || key == g.values.agentPublicKey
    || g.authorizedEndpointKeys.contains key)

end VerifiedGrant

/-! ### Checks of one string -/

/-- What a required string must be: not blank, and a valid value. -/
def checkString (missing : Sentinel) (value : GoString) : Option Sentinel :=
  if isBlank value then some missing else validateValue value

def validateExpectedString (layer : Layer) (field : Field) (value : GoString) :
    List ValidationError :=
  report layer field (checkString .missingExpected value)

def validateObservedString (layer : Layer) (field : Field) (value : GoString) :
    List ValidationError :=
  report layer field (checkString .missingObserved value)

def validateBindingString (field : Field) (value : GoString) : List ValidationError :=
  report .sessionBinding field (checkString .missingBinding value)

/-- The error of a value that is valid if it is not blank. -/
def checkOptional (check : GoString → Option Sentinel) (value : GoString) : Option Sentinel :=
  if isBlank value then none else check value

/-- `if err := …; err != nil { … } else if …`: the check after `else` runs when the
first one has no errors. -/
def elseCheck (errs next : List ValidationError) : List ValidationError :=
  if errs = [] then next else errs

/-- The comparison of a statement's string with the grant's: `validateObservedString`
first, then equality. -/
def validateAgreement (field : Field) (want got : GoString) : List ValidationError :=
  elseCheck (validateObservedString .sessionBinding field got)
    (if want ≠ got then [⟨.sessionBinding, field, .mismatch⟩] else [])

/-! ### Checks of a grant -/

/-- The string fields of a grant, those of all four layers. -/
def grantFields : List FieldSpec := fieldsL3 ++ fieldsL4 ++ fieldsL5 ++ fieldsL6

/-- The values of a set-valued field of a grant: not too many, each of them valid
or blank. -/
def validateGrantSet (field : Field) (values : List GoString) : List ValidationError :=
  if values.length > maxSetValues then [⟨.identityGrant, field, .tooManyValues⟩]
  else values.flatMap fun value => report .identityGrant field (checkOptional validateValue value)

def validateGrantValues (values : Values) : List ValidationError :=
  (grantFields.flatMap fun f =>
    report .identityGrant f.name (checkOptional (validateFieldValue f.name) (f.get values)))
  ++ setsL6.flatMap fun s => validateGrantSet s.name (s.get values)

def validateAuthorizedEndpointKeys (keys : List GoString) : List ValidationError :=
  validateGrantSet .endpointKey keys

def validateGrantLifetime (grant : VerifiedGrant) (now : Time) : List ValidationError :=
  lifetimeErrors .identityGrant .missingExpected grant.issuedAt grant.expiresAt now

/-! ### Checks of a statement -/

/-- The binding fields every statement must carry. -/
def requiredBindingFields : List BindingSpec :=
  [⟨.leafPublicKeyHash, Binding.leafPublicKeySHA256⟩, ⟨.tlsExporterHash, Binding.tlsExporterSHA256⟩,
    ⟨.requestContextHash, Binding.requestContextSHA256⟩,
    ⟨.nonce, Binding.nonce⟩]

def validateStatementBinding (binding : Binding) (now : Time) : List ValidationError :=
  (requiredBindingFields.flatMap fun f => validateBindingString f.name (f.get binding))
  ++ (if binding.attestationBinderSHA256 ≠ [] then
      validateBindingString .attestationBinderHash binding.attestationBinderSHA256 else [])
  ++ lifetimeErrors .sessionBinding .missingBinding binding.issuedAt binding.expiresAt now

/-- The check of the statement's signer key: the grant authorises it, and it is
not the key that issued the grant. -/
def validateSignerKey (grant : VerifiedGrant) (signerKey : GoString) : List ValidationError :=
  elseCheck (validateObservedString .sessionBinding .signerKey signerKey) <|
    if !grant.allowsBindingKey signerKey then
      [⟨.sessionBinding, .signerKey, .unauthorizedBindingKey⟩]
    else if grant.issuerKey ≠ [] ∧ signerKey = grant.issuerKey then
      [⟨.sessionBinding, .issuerKey, .unauthorizedBindingKey⟩]
    else []

/-- The errors `ValidateSessionBindingStatementWithOptions` collects before it
turns to the replay cache. -/
def sessionBindingErrors (grant : VerifiedGrant) (statement : VerifiedSessionBindingStatement)
    (now : Time) : List ValidationError :=
  validateExpectedString .identityGrant .issuer grant.issuer
  ++ validateExpectedString .identityGrant .audience grant.audience
  ++ validateExpectedString .identityGrant .grantHash grant.grantHash
  ++ validateAgreement .grantHash grant.grantHash statement.grantHash
  ++ validateAgreement .audience grant.audience statement.audience
  ++ validateSignerKey grant statement.signerKey
  ++ (if !grant.hasBindingKey then [⟨.identityGrant, .confirmationKey, .missingExpected⟩] else [])
  ++ validateGrantValues grant.values
  ++ validateAuthorizedEndpointKeys grant.authorizedEndpointKeys
  ++ validateGrantLifetime grant now
  ++ validateStatementBinding statement.binding now

/-! ### Replay and assertions -/

/-- The key under which the use of a statement is recorded. -/
def replayKey (statement : VerifiedSessionBindingStatement) : GoString :=
  statement.grantHash ++ [0] ++ statement.audience ++ [0]
    ++ statement.binding.tlsExporterSHA256 ++ [0]
    ++ statement.binding.requestContextSHA256 ++ [0] ++ statement.binding.nonce

section WithCache

variable {σ : Type}

def markSessionBindingUsed (cache : Option (ReplayCache σ))
    (statement : VerifiedSessionBindingStatement) (w : σ) : Option Error × σ :=
  match cache with
  | none => (none, w)
  | some cache =>
    match cache.markUsed (replayKey statement) statement.binding.expiresAt w with
    | (some err, w) => (some (.validation .sessionBinding .nonce err), w)
    | (none, w) => (none, w)

def validateSessionBindingStatementWithOptions (grant : VerifiedGrant)
    (statement : VerifiedSessionBindingStatement) (opts : SessionBindingOptions σ) (w : σ) :
    Option Error × σ :=
  match sessionBindingErrors grant statement opts.now with
  | [] => markSessionBindingUsed opts.replayCache statement w
  | errs => (some (.validations errs), w)

def newAssertionFromSessionBindingWithOptions (grant : VerifiedGrant)
    (statement : VerifiedSessionBindingStatement) (opts : SessionBindingOptions σ) (w : σ) :
    Except Error Assertion × σ :=
  match validateSessionBindingStatementWithOptions grant statement opts w with
  | (some err, w) => (.error err, w)
  | (none, w) => (.ok ⟨grant.issuer, grant.values, statement.binding⟩, w)

end WithCache

end SecureBinding.IdentityPolicy
