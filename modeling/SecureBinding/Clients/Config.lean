import SecureBinding.Clients.IdentityJWT
import SecureBinding.Clients.TlsConfig
import SecureBinding.Transport.Client

/-!
# Clients.Config

The model of `clients.go`: the configurations of the clients, and `buildATLSClientConfig`,
which the gRPC and the HTTP client make of them for attested TLS. It is written twice in
the source; the two differ in the application protocols.
-/

namespace SecureBinding.Clients

open Go Go.Crypto EA Lib
open IdentityPolicy Token JWT

/-! ### Configurations -/

/-- `StandardClientConfig`. The timeout is of no use to the constructors. -/
structure StandardClientConfig where
  url : GoString := lit "localhost:7001"
  clientCert : GoString := []
  clientKey : GoString := []
  serverCAFile : GoString := []

/-- `AttestedClientConfig`. The product name and the logger are not read. -/
structure AttestedClientConfig (Key σ : Type) extends StandardClientConfig where
  attestationPolicy : GoString := []
  attestedTLS : Bool := false
  attestationRequestContextHex : GoString := []
  attestationRequestContext : Bytes := []
  identityPolicy : Policy := {}
  identityGrant : Option VerifiedGrant := none
  identityBinding : Option VerifiedSessionBindingStatement := none
  identityReplay : Option (ReplayCache σ) := none
  identityGrantJWT : GoString := []
  identityBindingJWT : GoString := []
  identityGrantJWTOptions : JWT.VerifyOptions Key := {}
  identityBindingJWTOptions : JWT.VerifyOptions Key := {}

/-- How an `AttestedClientConfig` is passed. Both forms are a `ClientConfiguration`. -/
inductive Representation
  | value
  | pointer

/-- `ClientConfiguration`: one of the two types that implement it. Pointers are not nil. -/
inductive ClientConfiguration (Key σ : Type)
  | standard (cfg : StandardClientConfig) (rep : Representation)
  | attested (cfg : AttestedClientConfig Key σ) (rep : Representation)

def ClientConfiguration.config {Key σ : Type} : ClientConfiguration Key σ → StandardClientConfig
  | standard cfg _ => cfg
  | attested cfg _ => cfg.toStandardClientConfig

/-! ### Errors -/

/-- The errors of `RequestContext` and `AGTPObservedIdentity`. -/
inductive ConfigError
  | requestContext (err : HexError)
  | emptyRequestContext
  | oneToken
  | tokensAndVerified
  | missingPolicy
  | grantOptions (err : VerifyError)
  | bindingOptions (err : VerifyError)
  | missingReplay

/-! ### Parts of a configuration -/

section Config

variable {Key σ : Type}

def AttestedClientConfig.requestContext (c : AttestedClientConfig Key σ) :
    Except ConfigError Bytes :=
  if c.attestationRequestContext ≠ [] then .ok c.attestationRequestContext
  else if c.attestationRequestContextHex = [] then .ok []
  else do
    let context ← (hexDecode c.attestationRequestContextHex).mapError .requestContext
    ensure (context ≠ []) .emptyRequestContext
    return context

def validateJWTVerifyOptions (opts : JWT.VerifyOptions Key) : Except VerifyError Unit := do
  let _ ← jwtParserOptions opts
  let _ ← verificationKeyFunc opts

/-- What the function of `AGTPObservedIdentity` holds on to. -/
structure ObservedSource (Key σ : Type) where
  grantJWT : GoString
  bindingJWT : GoString
  grantOptions : JWT.VerifyOptions Key
  bindingOptions : JWT.VerifyOptions Key
  policy : Policy
  replay : ReplayCache σ

/-- `AGTPObservedIdentity`, up to the function it returns. -/
def AttestedClientConfig.agtpObservedIdentity (c : AttestedClientConfig Key σ) :
    Except ConfigError (Option (ObservedSource Key σ)) :=
  if c.identityGrantJWT = [] ∧ c.identityBindingJWT = [] then .ok none
  else do
    ensure (c.identityGrantJWT ≠ [] ∧ c.identityBindingJWT ≠ []) .oneToken
    ensure (c.identityGrant = none ∧ c.identityBinding = none) .tokensAndVerified
    ensure (c.identityPolicy.enabled = true) .missingPolicy
    (validateJWTVerifyOptions c.identityGrantJWTOptions).mapError .grantOptions
    (validateJWTVerifyOptions c.identityBindingJWTOptions).mapError .bindingOptions
    let replay ← ofOption .missingReplay c.identityReplay
    return some
      { grantJWT := c.identityGrantJWT
        bindingJWT := c.identityBindingJWT
        grantOptions := c.identityGrantJWTOptions
        bindingOptions := c.identityBindingJWTOptions
        policy := c.identityPolicy
        replay }

end Config

/-! ### The configuration of attested TLS -/

inductive ClientError
  | load (err : LoadError)
  | config (err : ConfigError)
  | request (err : EA.Error)
  | plaintextRemoteGRPC
  | grpcConnect (text : String)

/-- `atls.ClientConfig`: the part that `ClientContext` reads, the configuration of TLS, and the
options for the chain of the peer. -/
structure AtlsConfig (P V σ : Type) where
  tlsConfig : TLSConfig P
  verifyOptions : Option (Crypto.VerifyOptions V)
  client : Transport.ClientConfig σ

/-- What the constructors use besides the configuration. -/
structure Environment (P V Key σ : Type) where
  files : Files P
  /-- `atls.NewEvidenceVerifier`, for the path of a policy. -/
  newEvidenceVerifier : GoString → EAAttestation.Verifier
  /-- `VerifyOptions` with the given roots. -/
  rootSettings : P → V
  /-- The function that `AGTPObservedIdentity` returns. -/
  observe : ObservedSource Key σ → Transport.ObservedIdentityFunc
  /-- What a request draws its context from. -/
  signer : Signer
  /-- `grpc.NewClient`, for a target. -/
  grpcNewClient : GoString → Except String Unit

def newRequest (context : Bytes) : Except EA.Error AuthenticatorRequest := do
  let sigExt ← signatureAlgorithmsExtension [Tls.ecdsaWithP256AndSHA256]
  return ⟨handshakeTypeClientCertificateRequest, context, [sigExt, cmwAttestationOfferExtension]⟩

def newRandomRequest (signer : Signer) (contextLen : Int) : Except String AuthenticatorRequest := do
  let context ← (newRandomContext signer contextLen).mapError CreateError.text
  (newRequest context).mapError EA.Error.text

section Build

variable {P V Key σ : Type} (env : Environment P V Key σ)

/-- `VerifyOptionsFromTLSConfig`. Verification is never skipped here. -/
def verifyOptionsFromTLSConfig (cfg : TLSConfig P) : Option (Crypto.VerifyOptions V) :=
  cfg.rootCAs.map fun pool => { settings := env.rootSettings pool }

/-- The `Request` and the `RequestBuilder` of a configuration, for its context. -/
def chooseRequest (requestContext : Bytes) :
    Except ClientError (Option AuthenticatorRequest × Option (Except String AuthenticatorRequest)) :=
  if requestContext ≠ [] then do
    let req ← (newRequest requestContext).mapError .request
    return (some req, none)
  else return (none, some (newRandomRequest env.signer 32))

/-- `buildATLSClientConfig` for the given application protocols. -/
def buildATLSClientConfig (nextProtos : List GoString) (c : AttestedClientConfig Key σ)
    (base : TLSConfig P) : Except ClientError (AtlsConfig P V σ) := do
  let tlsConfig := { base with minVersion := Tls.versionTLS13, nextProtos }
  let observed ← c.agtpObservedIdentity.mapError .config
  let requestContext ← c.requestContext.mapError .config
  let (request, requestBuilder) ← chooseRequest env requestContext
  return {
    tlsConfig
    verifyOptions := verifyOptionsFromTLSConfig env tlsConfig
    client := {
      attestationPolicy :=
        { evidenceVerifier := some (env.newEvidenceVerifier c.attestationPolicy) }
      identityPolicy := c.identityPolicy
      observedIdentity := observed.map env.observe
      identityGrant := c.identityGrant
      identityBinding := c.identityBinding
      identityReplay := c.identityReplay
      request
      requestBuilder } }

end Build

/-! ### When the configuration can be built -/

variable {P V Key σ : Type} {env : Environment P V Key σ} {c : AttestedClientConfig Key σ}

/-- The identity tokens and the request context of a configuration are in order. -/
structure WellConfigured (c : AttestedClientConfig Key σ) : Prop where
  identity : ∃ observed, c.agtpObservedIdentity = .ok observed
  context : ∃ context, c.requestContext = .ok context

theorem chooseRequest_isOk (context : Bytes) : ∃ res, chooseRequest env context = .ok res := by
  unfold chooseRequest
  split
  · exact ⟨_, rfl⟩
  · exact ⟨_, rfl⟩

theorem buildATLSClientConfig_isOk_iff {nextProtos : List GoString} {base : TLSConfig P} :
    (∃ cfg, buildATLSClientConfig env nextProtos c base = .ok cfg) ↔ WellConfigured c := by
  constructor
  · rintro ⟨cfg, h⟩
    obtain ⟨observed, hobs, h⟩ := bind_ok_iff.mp h
    obtain ⟨context, hctx, -⟩ := bind_ok_iff.mp h
    exact ⟨⟨observed, mapError_ok_iff.mp hobs⟩, context, mapError_ok_iff.mp hctx⟩
  · rintro ⟨⟨observed, hobs⟩, context, hctx⟩
    obtain ⟨request, hrequest⟩ := @chooseRequest_isOk _ _ _ _ env context
    exact ⟨_, bind_ok_iff.mpr ⟨observed, mapError_ok_iff.mpr hobs,
      bind_ok_iff.mpr ⟨context, mapError_ok_iff.mpr hctx,
        bind_ok_iff.mpr ⟨request, hrequest, rfl⟩⟩⟩⟩

/-- A configuration for attested TLS asks for evidence. -/
theorem requiresAttestation_of_buildATLSClientConfig {nextProtos : List GoString}
    {base : TLSConfig P} {cfg : AtlsConfig P V σ}
    (h : buildATLSClientConfig env nextProtos c base = .ok cfg) :
    cfg.client.attestationPolicy.requiresAttestation = true := by
  obtain ⟨observed, -, h⟩ := bind_ok_iff.mp h
  obtain ⟨context, -, h⟩ := bind_ok_iff.mp h
  obtain ⟨⟨request, requestBuilder⟩, -, h⟩ := bind_ok_iff.mp h
  cases pure_ok_iff.mp h
  rfl

end SecureBinding.Clients
