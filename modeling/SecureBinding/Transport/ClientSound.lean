import SecureBinding.EA.AuthenticatorSound
import SecureBinding.IdentityPolicy.SessionBindingSound
import SecureBinding.Transport.Client

/-!
# Transport.ClientSound

What a connection that `ClientContext` returns has proved.

`clientContext_ok_iff` takes an accepted connection apart: an exchange of frames, an
accepted authenticator and an accepted identity. Attestation, identity and the binding to
the TLS session are then read off the three.
-/

namespace SecureBinding.Transport

open Go Go.Crypto EA IdentityPolicy
open Lib

variable {V σ : Type} {prim : Primitives V} {ctx : Context} {net : Network}
  {cfg : ClientConfig σ} {now : Time} {s : State V σ} {w : σ} {conn : Conn}
  {st : Tls.ConnectionState} {validation : ValidationResult}

/-! ### Frames -/

theorem marshalFrame_of_le {type : UInt8} {payload : Bytes}
    (h : payload.length ≤ maxFramePayloadLen) :
    marshalFrame type payload = .ok (type :: (putUint32 payload.length ++ payload)) := by
  unfold marshalFrame
  rw [if_neg (Nat.not_lt.mpr h)]

theorem readFrame_of_marshalFrame {type : UInt8} {payload frame : Bytes} (htype : type ≠ 0)
    (h : marshalFrame type payload = .ok frame) : readFrame frame = .ok (type, payload, []) := by
  unfold marshalFrame at h
  split at h
  · cases h
  · rename_i hlen
    cases h
    have hmax : payload.length ≤ 16 * 2 ^ 20 := Nat.le_of_not_lt hlen
    have hread : readUint32 (UInt8.ofNat (payload.length / 2 ^ 24))
        (UInt8.ofNat (payload.length / 2 ^ 16)) (UInt8.ofNat (payload.length / 2 ^ 8))
        (UInt8.ofNat payload.length) = payload.length := by
      simp only [readUint32, UInt8.toNat_ofNat']
      omega
    simp only [putUint32, List.cons_append, List.nil_append, readFrame]
    rw [hread, if_neg htype, if_neg hlen, if_neg (by omega), List.take_length, List.drop_length]

/-- A peer that answers every request with the same authenticator. -/
def peerSending (st : Tls.ConnectionState) (authBytes : Bytes) : Network where
  handshake := .ok ()
  connectionState := st
  random := .ok (List.replicate 32 0)
  write _ := .ok ()
  respond _ := frameTypeAuthenticator :: (putUint32 authBytes.length ++ authBytes)

theorem exchange_peerSending {r : AuthenticatorRequest} {reqBytes authBytes : Bytes}
    (hbuilder : cfg.requestBuilder = none) (hreq : cfg.request = some r)
    (hmar : r.marshal = .ok reqBytes) (hlen : reqBytes.length ≤ maxFramePayloadLen)
    (hauth : authBytes.length ≤ maxFramePayloadLen) :
    exchange cfg (peerSending st authBytes) = .ok (r, authBytes) := by
  have hfr := @marshalFrame_of_le frameTypeRequest reqBytes hlen
  have hanswer : readFrame (frameTypeAuthenticator :: (putUint32 authBytes.length ++ authBytes))
      = .ok (frameTypeAuthenticator, authBytes, []) :=
    readFrame_of_marshalFrame (by decide) (marshalFrame_of_le hauth)
  have hbld : buildRequest cfg (.ok (List.replicate 32 0)) = .ok r := by
    simp [buildRequest, hbuilder, hreq]
  refine bind_ok_iff.mpr ⟨(), rfl, bind_ok_iff.mpr ⟨r, hbld, ?_⟩⟩
  refine bind_ok_iff.mpr ⟨reqBytes, mapError_ok_iff.mpr hmar, ?_⟩
  refine bind_ok_iff.mpr ⟨_, hfr, bind_ok_iff.mpr ⟨(), rfl, ?_⟩⟩
  refine bind_ok_iff.mpr ⟨_, hanswer, ?_⟩
  exact bind_ok_iff.mpr ⟨(), ensure_ok_iff.mpr rfl, rfl⟩

/-! ### Accepted connections -/

theorem runClient_ok_iff :
    (runClient prim cfg net now s).1 = .ok conn ↔
      ∃ authBytes, exchange cfg net = .ok (conn.request, authBytes)
        ∧ (validateAuthenticator prim s.ea net.connectionState roleServer (some conn.request) none
            (some cfg.attestationPolicy) authBytes).1 = .ok conn.validationResult
        ∧ (validateIdentityPolicy prim cfg net.connectionState conn.validationResult now
            s.replay).1 = .ok () := by
  unfold runClient
  cases hex : exchange cfg net with
  | error e => simp
  | ok p =>
    obtain ⟨req, authBytes⟩ := p
    dsimp only
    rcases hval : validateAuthenticator prim s.ea net.connectionState roleServer (some req) none
      (some cfg.attestationPolicy) authBytes with ⟨e | validation, ea⟩
    · simp only [reduceCtorEq, false_iff]
      rintro ⟨_, ⟨rfl, rfl⟩, h, -⟩
      rw [hval] at h
      cases h
    · dsimp only
      rcases hid : validateIdentityPolicy prim cfg net.connectionState validation now s.replay
        with ⟨e | u, replay⟩
      · simp only [reduceCtorEq, false_iff]
        rintro ⟨_, ⟨rfl, rfl⟩, h, h'⟩
        rw [hval] at h
        cases h
        rw [hid] at h'
        cases h'
      · simp only [Except.ok.injEq, Prod.mk.injEq]
        constructor
        · rintro rfl
          exact ⟨authBytes, ⟨rfl, rfl⟩, by rw [hval], by rw [hid]⟩
        · rintro ⟨_, ⟨rfl, rfl⟩, h, -⟩
          rw [hval] at h
          cases h
          rfl

/-- The context lets the call return its own result. -/
structure Context.Open (ctx : Context) : Prop where
  deadline : ∀ text, ctx.setDeadline ≠ some (.error text)
  err : ctx.err = none

theorem withConnContext_ok_iff {α τ : Type} {fn : τ → Except Error α × τ} {t : τ} {a : α} :
    (withConnContext ctx fn t).1 = .ok a ↔ ctx.Open ∧ (fn t).1 = .ok a := by
  obtain ⟨setDeadline, err⟩ := ctx
  unfold withConnContext
  have hopen : (Context.mk setDeadline err).Open ↔
      (∀ text, setDeadline ≠ some (.error text)) ∧ err = none :=
    ⟨fun h => ⟨h.deadline, h.err⟩, fun h => ⟨h.1, h.2⟩⟩
  rw [hopen]
  rcases setDeadline with _ | ⟨_ | _⟩ <;> cases err <;> simp

theorem clientContext_ok_iff :
    (clientContext prim (some ctx) net (some cfg) now s).1 = .ok conn ↔
      ctx.Open ∧ (runClient prim cfg net now s).1 = .ok conn :=
  withConnContext_ok_iff

/-! ### Accepted identities -/

/-- An enabled policy accepts what was judged to satisfy it, once its use is recorded. -/
theorem judgeIdentity_of_validate (hen : cfg.identityPolicy.enabled = true)
    (h : (validateIdentityPolicy prim cfg st validation now w).1 = .ok ()) :
    ∃ r, judgeIdentity prim cfg st validation now = .ok r := by
  unfold validateIdentityPolicy at h
  rw [hen] at h
  cases hju : judgeIdentity prim cfg st validation now with
  | error e => rw [hju] at h; cases h
  | ok r => exact ⟨r, rfl⟩

theorem judgeIdentity_ok_iff {a : Assertion} {statement : Option VerifiedSessionBindingStatement} :
    judgeIdentity prim cfg st validation now = .ok (a, statement) ↔
      observedIdentityAssertion cfg st validation now = .ok (a, statement)
        ∧ ∃ expected, expectedIdentityBinding prim validation = .ok expected
          ∧ BindingMatches a.binding expected now ∧ Satisfies cfg.identityPolicy a.values := by
  simp only [← validateAssertion_eq_nil_iff]
  constructor
  · intro h
    obtain ⟨⟨a', statement'⟩, hobs, h⟩ := bind_ok_iff.mp h
    obtain ⟨expected, hexp, h⟩ := bind_ok_iff.mp h
    rw [mapError_ok_iff] at hobs
    cases herrs : validateAssertion cfg.identityPolicy a' expected now with
    | nil =>
      rw [herrs] at h
      cases h
      exact ⟨hobs, expected, hexp, herrs⟩
    | cons e errs => rw [herrs] at h; cases h
  · rintro ⟨hobs, expected, hexp, herrs⟩
    unfold judgeIdentity
    rw [hobs]
    show (expectedIdentityBinding prim validation >>= _) = _
    rw [hexp, ok_bind, herrs]
    rfl

/-- Without a chain there is nothing to bind an identity to. -/
theorem expectedIdentityBinding_ne_ok_of_nil {b : Binding} (h : validation.chain = []) :
    expectedIdentityBinding prim validation ≠ .ok b := by
  unfold expectedIdentityBinding
  rw [h]
  intro h'
  cases h'

/-! ### Required attestation -/

/-- The peer answers the request with the empty authenticator for it. -/
def AnswersEmpty (prim : Primitives V) (cfg : ClientConfig σ) (net : Network)
    (session : Option Session) : Prop :=
  ∃ req authBytes, exchange cfg net = .ok (req, authBytes)
    ∧ AcceptedEmpty prim session net.connectionState roleServer (some req) authBytes

theorem client_attested_iff (hreq : cfg.attestationPolicy.requiresAttestation = true) :
    (∀ conn, (clientContext prim (some ctx) net (some cfg) now s).1 = .ok conn →
        Attested conn.validationResult) ↔
      ¬ (ctx.Open ∧ cfg.identityPolicy.enabled = false ∧ AnswersEmpty prim cfg net s.ea.session) := by
  constructor
  · rintro hall ⟨hopen, hdis, req, authBytes, hex, r, hr, hauth, hunu⟩
    cases hr
    have hval : (validateAuthenticator prim s.ea net.connectionState roleServer (some req) none
        (some cfg.attestationPolicy) authBytes).1 = .ok { context := req.context, empty := true } :=
      validateAuthenticator_ok_iff.mpr (.inl ⟨req, rfl, hauth, hunu, rfl⟩)
    have hid : (validateIdentityPolicy prim cfg net.connectionState
        { context := req.context, empty := true } now s.replay).1 = .ok () := by
      simp [validateIdentityPolicy, hdis]
    obtain ⟨v, hv, -⟩ := hall ⟨req, { context := req.context, empty := true }⟩
      (clientContext_ok_iff.mpr ⟨hopen, runClient_ok_iff.mpr ⟨authBytes, hex, hval, hid⟩⟩)
    cases hv
  · intro hnot conn hconn
    obtain ⟨hopen, hrun⟩ := clientContext_ok_iff.mp hconn
    obtain ⟨authBytes, hex, hval, hid⟩ := runClient_ok_iff.mp hrun
    obtain ⟨r, hr, hauth, hunu, hres⟩ | ⟨_, _, _, _, -, -, -, hats⟩ :=
      validateAuthenticator_ok_iff.mp hval
    · cases hen : cfg.identityPolicy.enabled with
      | false =>
        exact absurd ⟨hopen, hen, conn.request, authBytes, hex, r, hr, hauth, hunu⟩ hnot
      | true =>
        -- The empty authenticator has no leaf, so an enabled policy refuses it.
        obtain ⟨⟨a, statement⟩, hju⟩ := judgeIdentity_of_validate hen hid
        obtain ⟨-, expected, hexp, -⟩ := judgeIdentity_ok_iff.mp hju
        exact absurd hexp (expectedIdentityBinding_ne_ok_of_nil (by rw [hres]))
    · have hreq' :
          ((some cfg.attestationPolicy).getD {}).requiresAttestation = true := hreq
      exact attested_of_attest hreq' hats

/-- Required attestation is proved by every peer but the one that sends the empty
authenticator. `validateAuthenticator` returns before it comes to the attestation, and
`ClientContext` does not look at what was left out unless an identity policy does. -/
theorem required_attestation_proved_iff (p : EAAttestation.VerificationPolicy)
    (hrequired : p.requiresAttestation = true) :
    (∀ (ea : EA.State V) st role req policy authBytes,
      (∀ res, (validateAuthenticator prim ea st role req policy (some p) authBytes).1 = .ok res →
          Attested res) ↔
        ¬ AcceptedEmpty prim ea.session st role req authBytes)
    ∧ ∀ ctx net (cfg : ClientConfig σ) now (s : State V σ), cfg.attestationPolicy = p →
      ((∀ conn, (clientContext prim (some ctx) net (some cfg) now s).1 = .ok conn →
          Attested conn.validationResult) ↔
        ¬ (ctx.Open ∧ cfg.identityPolicy.enabled = false
          ∧ AnswersEmpty prim cfg net s.ea.session)) := by
  refine ⟨?_, ?_⟩
  · intro ea st role req policy authBytes
    exact validate_attested_iff hrequired
  · intro ctx net cfg now s hp
    exact client_attested_iff (by rw [hp]; exact hrequired)

/-- The empty authenticator for `sampleRequest` on `connectionWith 7`. -/
def sampleEmpty : Bytes := 20 :: 0 :: 0 :: 32 :: List.replicate 32 32

/-- A client that requires evidence and has no identity policy. -/
def attestingConfig : ClientConfig Unit where
  attestationPolicy := samplePolicy
  request := some sampleRequest

/-- The peer proves nothing, and `ClientContext` returns a connection to it although the
policy requires evidence. -/
theorem empty_authenticator_skips_attestation :
    samplePolicy.requiresAttestation = true
    ∧ (validateAuthenticator samplePrimitives {} (connectionWith 7) roleServer
        (some sampleRequest) none (some samplePolicy) sampleEmpty).1
      = .ok { context := [1], attestation := none, empty := true }
    ∧ (clientContext samplePrimitives (some {}) (peerSending (connectionWith 7) sampleEmpty)
        (some attestingConfig) 5 ⟨{}, ()⟩).1
      = .ok ⟨sampleRequest, { context := [1], attestation := none, empty := true }⟩ := by
  decide +kernel

/-- An answer that carries an attestation is accepted, and what it carries was verified. -/
theorem required_attestation_proved_sample :
    samplePolicy.requiresAttestation = true
    ∧ (validateAuthenticator samplePrimitives {} (connectionWith 7) roleServer
        (some sampleRequest) none (some samplePolicy)
        (sampleAuthenticator 7 (some sampleCMW))).1.isOk = true
    ∧ ∀ res, (validateAuthenticator samplePrimitives {} (connectionWith 7) roleServer
        (some sampleRequest) none (some samplePolicy)
        (sampleAuthenticator 7 (some sampleCMW))).1 = .ok res → Attested res := by
  obtain ⟨hvld, -⟩ := @required_attestation_proved_iff Unit Unit samplePrimitives
    samplePolicy (by decide)
  refine ⟨by decide, by decide +kernel, (hvld _ _ _ _ _ _).mpr ?_⟩
  rintro ⟨r, -, hauth, -⟩
  have hhead := hauth.head
  revert hhead
  decide +kernel

/-! ### Modes of the identity policy -/

/-- An identity was observed, is bound to the connection and satisfies the policy. -/
def IdentityChecked (prim : Primitives V) (cfg : ClientConfig σ) (st : Tls.ConnectionState)
    (validation : ValidationResult) (now : Time) : Prop :=
  ∃ a statement expected, observedIdentityAssertion cfg st validation now = .ok (a, statement)
    ∧ expectedIdentityBinding prim validation = .ok expected
    ∧ BindingMatches a.binding expected now ∧ Satisfies cfg.identityPolicy a.values

theorem identityChecked_of_validate (hen : cfg.identityPolicy.enabled = true)
    (h : (validateIdentityPolicy prim cfg st validation now w).1 = .ok ()) :
    IdentityChecked prim cfg st validation now := by
  obtain ⟨⟨a, statement⟩, hju⟩ := judgeIdentity_of_validate hen h
  obtain ⟨hobs, expected, hexp, hmat, hsat⟩ := judgeIdentity_ok_iff.mp hju
  exact ⟨a, statement, expected, hobs, hexp, hmat, hsat⟩

/-- A mode that is neither empty nor `disabled` is enabled only when it is `required`. -/
theorem enabled_iff_required {policy : Policy} (hdef : policy.mode ≠ modeDefault)
    (hdis : policy.mode ≠ modeDisabled) :
    policy.enabled = true ↔ policy.mode = modeRequired := by
  unfold Policy.enabled
  rw [if_neg hdis]
  by_cases hreq : policy.mode = modeRequired
  · simp [hreq]
  · simp [hdef]

/-- A client with a request and a policy, and no source of identities. -/
def unsourcedConfig (policy : Policy) : ClientConfig σ where
  identityPolicy := policy
  request := some sampleRequest

/-- Some peer is accepted by every client whose policy is not enabled. -/
theorem exists_accepted_of_disabled {policy : Policy} (hpol : policy.enabled = false)
    (s : State V σ) (hfre : s.ea.session = none) :
    ∃ net conn, (clientContext prim (some {}) net
      (some (unsourcedConfig policy : ClientConfig σ)) now s).1 = .ok conn := by
  have hkeys : exportKeys (connectionWith 7) roleServer
      = .ok ⟨.sha256, List.replicate 32 7, List.replicate 32 7⟩ := rfl
  obtain ⟨reqBytes, hmar, hlen⟩ :
      ∃ b, sampleRequest.marshal = .ok b ∧ b.length ≤ 100 := ⟨_, rfl, by decide⟩
  have hschs : sampleRequest.signatureSchemes = some [Tls.ecdsaWithP256AndSHA256] := by
    decide
  obtain ⟨authBytes, hauth, hsh⟩ := @exists_emptyAuthenticator V prim _ _ _ _ _ _ hkeys hmar hschs
  have hmax : 100 ≤ maxFramePayloadLen := by decide
  have hex := @exchange_peerSending σ (unsourcedConfig policy) (connectionWith 7) sampleRequest
    reqBytes authBytes rfl rfl hmar (by omega) (by omega)
  have hunu : Unused s.ea.session sampleRequest.context := by
    intro session hses
    rw [hfre] at hses
    cases hses
  refine ⟨peerSending (connectionWith 7) authBytes,
    ⟨sampleRequest, { context := sampleRequest.context, empty := true }⟩,
    clientContext_ok_iff.mpr ⟨⟨by simp, rfl⟩, runClient_ok_iff.mpr ⟨authBytes, hex, ?_, ?_⟩⟩⟩
  · exact validateAuthenticator_ok_iff.mpr (.inl ⟨_, rfl, hauth, hunu, rfl⟩)
  · have hcfg : (unsourcedConfig policy : ClientConfig σ).identityPolicy.enabled = false := hpol
    simp [validateIdentityPolicy, hcfg]

/-- Of the modes that are neither empty nor `disabled`, only `required` makes the client
check an identity. `Enabled` takes a mode it does not know for a disabled one, and
`ValidateMode`, which would refuse it, is asked only when the policy is enabled. -/
theorem mode_fails_closed_iff [Inhabited σ] (policy : Policy)
    (hdefault : policy.mode ≠ modeDefault) (hdisabled : policy.mode ≠ modeDisabled) :
    (∀ ctx net (cfg : ClientConfig σ) now (s : State V σ) conn, cfg.identityPolicy = policy →
        (clientContext prim (some ctx) net (some cfg) now s).1 = .ok conn →
        IdentityChecked prim cfg net.connectionState conn.validationResult now) ↔
      policy.mode = modeRequired := by
  rw [← enabled_iff_required hdefault hdisabled]
  constructor
  · intro hall
    by_contra hnot
    obtain ⟨net, conn, hconn⟩ := @exists_accepted_of_disabled V σ prim 0 policy
      (by simpa using hnot) ⟨{}, default⟩ rfl
    obtain ⟨_, _, _, hobs, -⟩ := hall _ _ _ _ _ _ rfl hconn
    cases hobs
  · rintro hen ctx net cfg now s conn rfl hconn
    obtain ⟨-, hrun⟩ := clientContext_ok_iff.mp hconn
    obtain ⟨_, -, -, hid⟩ := runClient_ok_iff.mp hrun
    exact identityChecked_of_validate hen hid

/-- A policy that means to require the service `s`, under a mode that is misspelt. -/
def misspeltPolicy : Policy where
  mode := lit "Required"
  require := { l3 := true }
  expected := { service := lit "s" }

/-- `ValidateMode` rejects the mode, and the client accepts a peer whose identity nobody has
looked at. -/
theorem misspelt_mode_accepts :
    misspeltPolicy.validateMode = some .invalidMode
    ∧ (clientContext samplePrimitives (some {}) (peerSending (connectionWith 7) sampleEmpty)
        (some (unsourcedConfig misspeltPolicy : ClientConfig Unit)) 5 ⟨{}, ()⟩).1
      = .ok ⟨sampleRequest, { context := [1], empty := true }⟩
    ∧ observedIdentityAssertion (unsourcedConfig misspeltPolicy : ClientConfig Unit)
        (connectionWith 7) { context := [1], empty := true } 5
      = .error .missingObservedIdentity := by
  decide +kernel

/-- The policy of `misspeltPolicy` with its mode spelt as it should be. -/
def requiringPolicy : Policy := { misspeltPolicy with mode := modeRequired }

theorem mode_fails_closed_of_required :
    requiringPolicy.mode ≠ modeDefault ∧ requiringPolicy.mode ≠ modeDisabled
    ∧ ∀ ctx net (cfg : ClientConfig Unit) now (s : State Unit Unit) conn,
      cfg.identityPolicy = requiringPolicy →
      (clientContext samplePrimitives (some ctx) net (some cfg) now s).1 = .ok conn →
      IdentityChecked samplePrimitives cfg net.connectionState conn.validationResult now :=
  ⟨by decide, by decide, (mode_fails_closed_iff requiringPolicy (by decide) (by decide)).mpr rfl⟩

end SecureBinding.Transport
