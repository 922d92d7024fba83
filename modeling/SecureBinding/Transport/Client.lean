import SecureBinding.EA.Authenticator
import SecureBinding.IdentityPolicy.SessionBinding

/-!
# Transport.Client

The model of the client in `pkg/atls/internal_transport`: the frames of `protocol.go`, and
`ClientContext` of `conn.go` with the identity policy it enforces.

The peer and the network are a `Network`: what the handshake, the writes and the source of
randomness return, and what the peer sends once it has the frame of the client. The logger
has no effect on the result and is left out.
-/

namespace SecureBinding.Transport

open Go Go.Crypto EA IdentityPolicy
open Lib

/-! ### Errors -/

inductive Error
  | missingClientConfig
  | missingClientContext
  | payloadTooLarge (n : Nat)
  | invalidFrameType
  | unexpectedFrameType (type : UInt8)
  | missingObservedIdentity
  | missingLeaf
  | missingRequestContext
  | sourceFailed (err : Error)
  | policyFailed (err : IdentityPolicy.Error)
  | replayFailed (err : IdentityPolicy.Error)
  | identity (err : IdentityPolicy.Error)
  | validate (err : EA.ValidateError)
  /-- An error of the network, the context or a callback. -/
  | external (text : String)
  deriving Repr, DecidableEq

/-- An error of `pkg/atls/ea`. -/
def ofEA (err : EA.Error) : Error := .validate (.ea err)

/-! ### Frames -/

def frameTypeRequest : UInt8 := 1

def frameTypeAuthenticator : UInt8 := 2

def maxFramePayloadLen : Nat := 16 * 2 ^ 20

/-- `binary.BigEndian.PutUint32` of a length. -/
def putUint32 (v : Nat) : Bytes :=
  [UInt8.ofNat (v / 2 ^ 24), UInt8.ofNat (v / 2 ^ 16), UInt8.ofNat (v / 2 ^ 8), UInt8.ofNat v]

/-- `binary.BigEndian.Uint32`. -/
def readUint32 (a b c d : UInt8) : Nat :=
  a.toNat * 2 ^ 24 + b.toNat * 2 ^ 16 + c.toNat * 2 ^ 8 + d.toNat

/-- The bytes that `writeFrame` sends. -/
def marshalFrame (type : UInt8) (payload : Bytes) : Except Error Bytes :=
  if payload.length > maxFramePayloadLen then .error (.payloadTooLarge payload.length)
  else .ok (type :: (putUint32 payload.length ++ payload))

/-- The error of `io.ReadFull` when the stream ends early. -/
def readFullError (got : Bytes) : Error := .external (if got = [] then "EOF" else "unexpected EOF")

/-- `readFrame`: the type, the payload and the rest of the stream. -/
def readFrame : Bytes → Except Error (UInt8 × Bytes × Bytes)
  | t :: a :: b :: c :: d :: rest =>
    let n := readUint32 a b c d
    if t = 0 then .error .invalidFrameType
    else if n > maxFramePayloadLen then .error (.payloadTooLarge n)
    else if rest.length < n then .error (readFullError rest)
    else .ok (t, rest.take n, rest.drop n)
  | short => .error (readFullError short)

/-! ### Configuration -/

abbrev ObservedIdentityFunc :=
  Tls.ConnectionState → ValidationResult → Except String Assertion

/-- `ClientConfig`. The session and the verify options are state, and the replay cache acts
on states of type `σ`. -/
structure ClientConfig (σ : Type) where
  attestationPolicy : EAAttestation.VerificationPolicy := {}
  identityPolicy : Policy := {}
  observedIdentity : Option ObservedIdentityFunc := none
  identityGrant : Option VerifiedGrant := none
  identityBinding : Option VerifiedSessionBindingStatement := none
  identityReplay : Option (ReplayCache σ) := none
  request : Option AuthenticatorRequest := none
  requestBuilder : Option (Except String AuthenticatorRequest) := none

/-- What a connection changes. -/
structure State (V σ : Type) where
  ea : EA.State V := {}
  replay : σ

/-- The other side of a connection. -/
structure Network where
  handshake : Except String Unit
  connectionState : Tls.ConnectionState
  random : Except String Bytes
  write : Bytes → Except String Unit
  respond : Bytes → Bytes

/-- A `context.Context`: whether it has a deadline and, if so, what setting it returns; and
`ctx.Err` at the end of the call. -/
structure Context where
  setDeadline : Option (Except String Unit) := none
  err : Option String := none

structure Conn where
  request : AuthenticatorRequest
  validationResult : ValidationResult
  deriving Repr, DecidableEq

/-! ### The identity policy -/

section Client

variable {V σ : Type} (prim : Primitives V)

/-- `observedIdentityAssertion`: the assertion, and the statement it is made of. -/
def observedIdentityAssertion (cfg : ClientConfig σ) (st : Tls.ConnectionState)
    (validation : ValidationResult) (now : Time) :
    Except Error (Assertion × Option VerifiedSessionBindingStatement) :=
  match cfg.observedIdentity with
  | some observe => ((observe st validation).mapError .external).map fun a => (a, none)
  | none =>
    match cfg.identityGrant, cfg.identityBinding with
    | some grant, some statement =>
      -- No replay cache is given here, so there is no state to pass.
      let opts : SessionBindingOptions Unit := { now }
      ((newAssertionFromSessionBindingWithOptions grant statement opts ()).1.mapError
        .identity).map fun a => (a, some statement)
    | _, _ => .error .missingObservedIdentity

/-- The hash of a value as a binding holds it. -/
def hexHash (b : Bytes) : GoString := hexEncode (prim.sha256 b)

/-- `ExpectedIdentityBinding`, of a result that is not nil. The exporter and the binder are
set only from an attestation. -/
def expectedIdentityBinding (validation : ValidationResult) : Except Error Binding :=
  match validation.chain with
  | [] => .error .missingLeaf
  | leaf :: _ => do
    ensure (validation.context ≠ []) .missingRequestContext
    let pub ← (EAAttestation.publicKeyBytes prim leaf).mapError fun e => .validate (.attestation e)
    let binding : Binding :=
      { leafPublicKeySHA256 := hexHash prim pub
        requestContextSHA256 := hexHash prim validation.context }
    match validation.attestation with
    | none => return binding
    | some v =>
      if v.bindingVerified then
        return { binding with
          tlsExporterSHA256 :=
            if v.binding.exportedValue ≠ [] then hexHash prim v.binding.exportedValue else []
          attestationBinderSHA256 := hexHash prim v.payload.binder.binding }
      else return binding

/-- What `validateIdentityPolicy` finds before it turns to the replay cache. -/
def judgeIdentity (cfg : ClientConfig σ) (st : Tls.ConnectionState)
    (validation : ValidationResult) (now : Time) :
    Except Error (Assertion × Option VerifiedSessionBindingStatement) := do
  let (assertion, statement) ← (observedIdentityAssertion cfg st validation now).mapError
    .sourceFailed
  let expected ← expectedIdentityBinding prim validation
  match validateAssertion cfg.identityPolicy assertion expected now with
  | [] => return (assertion, statement)
  | errs => .error (.policyFailed (.validations errs))

def validateIdentityPolicy (cfg : ClientConfig σ) (st : Tls.ConnectionState)
    (validation : ValidationResult) (now : Time) (w : σ) : Except Error Unit × σ :=
  if !cfg.identityPolicy.enabled then (.ok (), w)
  else
    match judgeIdentity prim cfg st validation now with
    | .error e => (.error e, w)
    | .ok (_, none) => (.ok (), w)
    | .ok (_, some statement) =>
      match markSessionBindingUsed cfg.identityReplay statement w with
      | (some e, w) => (.error (.replayFailed e), w)
      | (none, w) => (.ok (), w)

/-! ### ClientContext -/

def buildRequest (cfg : ClientConfig σ) (random : Except String Bytes) :
    Except Error AuthenticatorRequest :=
  match cfg.requestBuilder, cfg.request with
  | some built, _ => built.mapError .external
  | none, some req => .ok req
  | none, none => do
    let context ← random.mapError .external
    let sigExt ← (signatureAlgorithmsExtension [Tls.ecdsaWithP256AndSHA256]).mapError ofEA
    return ⟨handshakeTypeClientCertificateRequest, context, [sigExt, cmwAttestationOfferExtension]⟩

/-- `ClientContext` up to the authenticator: the request, and what the peer answers. -/
def exchange (cfg : ClientConfig σ) (net : Network) :
    Except Error (AuthenticatorRequest × Bytes) := do
  net.handshake.mapError .external
  let req ← buildRequest cfg net.random
  let reqBytes ← req.marshal.mapError ofEA
  let frame ← marshalFrame frameTypeRequest reqBytes
  (net.write frame).mapError .external
  let (type, authBytes, _) ← readFrame (net.respond frame)
  ensure (type = frameTypeAuthenticator) (.unexpectedFrameType type)
  return (req, authBytes)

/-- The function that `ClientContext` runs under the context. -/
def runClient (cfg : ClientConfig σ) (net : Network) (now : Time) (s : State V σ) :
    Except Error Conn × State V σ :=
  match exchange cfg net with
  | .error e => (.error e, s)
  | .ok (req, authBytes) =>
    match EA.validateAuthenticator prim s.ea net.connectionState roleServer (some req) none
        (some cfg.attestationPolicy) authBytes with
    | (.error e, ea) => (.error (.validate e), { s with ea })
    | (.ok validation, ea) =>
      match validateIdentityPolicy prim cfg net.connectionState validation now s.replay with
      | (.error e, replay) => (.error e, ⟨ea, replay⟩)
      | (.ok _, replay) => (.ok ⟨req, validation⟩, ⟨ea, replay⟩)

/-- `withConnContext`: the error of the context comes before every other one. -/
def withConnContext {α τ : Type} (ctx : Context) (fn : τ → Except Error α × τ) (s : τ) :
    Except Error α × τ :=
  match ctx.setDeadline with
  | some (.error text) => (.error (.external text), s)
  | _ =>
    match ctx.err, fn s with
    | some text, (_, s') => (.error (.external text), s')
    | none, r => r

def clientContext (ctx : Option Context) (net : Network) (cfg : Option (ClientConfig σ))
    (now : Time) (s : State V σ) : Except Error Conn × State V σ :=
  match cfg, ctx with
  | none, _ => (.error .missingClientConfig, s)
  | some _, none => (.error .missingClientContext, s)
  | some cfg, some ctx => withConnContext ctx (runClient prim cfg net now) s

end Client

end SecureBinding.Transport
