import SecureBinding.Transport.ClientSound

/-!
# Transport.Exporter

Is an accepted identity bound to the TLS session it was accepted on?

The exporter of a session is what tells it from every other one. `ExpectedIdentityBinding`
takes it from the attestation of the peer, and expects none where there is no attestation;
and `validateBinding` compares only what is expected.
-/

namespace SecureBinding.Transport

open Go Go.Crypto EA IdentityPolicy
open Lib

variable {V σ : Type} {prim : Primitives V} {cfg cfg' : ClientConfig σ} {now now' : Time}
  {w w' : σ} {st st' : Tls.ConnectionState} {validation validation' : ValidationResult}

/-! ### Hashes in a binding -/

theorem length_hexHash (b : Bytes) : (hexHash prim b).length = 64 := by
  rw [hexHash, length_hexEncode, Primitives.sha256, prim.length_sum]
  rfl

theorem isBlank_hexHash (b : Bytes) : isBlank (hexHash prim b) = false := by
  apply isBlank_of_isGraphic
  · intro a ha
    exact isGraphic_of_mem_hexEncode ha
  · intro hnil
    have hlen := @length_hexHash V prim b
    rw [hnil] at hlen
    cases hlen

theorem hasUnsafeRune_of_hex {s : GoString} (h : ∀ a ∈ s, ∃ n : Fin 16, a = hexDigit n) :
    hasUnsafeRune s = false := by
  have key : ∀ n : Fin 16, 0x20 ≤ hexDigit n ∧ hexDigit n ≠ 0x7f ∧ hexDigit n ≠ 0xc2
      ∧ hexDigit n ≠ 0x3c ∧ hexDigit n ≠ 0x3e := by decide
  induction s with
  | nil => rfl
  | cons a s ih =>
    obtain ⟨n, rfl⟩ := h a (by simp)
    obtain ⟨h1, h2, h3, h4, h5⟩ := key n
    have hcontrol : startsWithControl (hexDigit n :: s) = false := by
      cases s <;> simp [startsWithControl, h1, h2, h3]
    simp [hasUnsafeRune, hcontrol, h4, h5, ih fun b hb => h b (List.mem_cons_of_mem _ hb)]

theorem validateBindingValue_hexHash (b : Bytes) :
    validateBindingValue (hexHash prim b) = none := by
  have hval : validString (hexHash prim b) = true :=
    validString_of_isGraphic fun a ha => isGraphic_of_mem_hexEncode ha
  have hsafe : hasUnsafeRune (hexHash prim b) = false :=
    hasUnsafeRune_of_hex fun a ha => exists_of_mem_hexEncode ha
  simp [validateBindingValue, isUnsafe, hval, hsafe]

/-! ### The expected binding -/

/-- The result comes from an accepted authenticator on this connection. -/
def Validated (prim : Primitives V) (st : Tls.ConnectionState) (validation : ValidationResult) :
    Prop :=
  ∃ (s : EA.State V) (role : Role) (req : Option AuthenticatorRequest)
    (policy : Option SpontaneousAuthenticatorPolicy)
    (attPolicy : Option EAAttestation.VerificationPolicy) (authBytes : Bytes),
    (validateAuthenticator prim s st role req policy attPolicy authBytes).1 = .ok validation

variable {v : EAAttestation.VerifiedPayload} {b : Binding} {a : Assertion}

/-- An attestation speaks for the connection and the context it was validated on. -/
theorem Validated.speaks (h : Validated prim st validation) (hv : validation.attestation = some v) :
    EAAttestation.Speaks st EAAttestation.exporterLabelAttestation validation.context v := by
  obtain ⟨s, role, req, policy, attPolicy, authBytes, h⟩ := h
  obtain ⟨_, -, -, -, rfl⟩ | ⟨_, _, _, _, -, -, -, hats⟩ := validateAuthenticator_ok_iff.mp h
  · cases hv
  · obtain ⟨hctx, -, -, hspk⟩ := attest_eq_ok hats
    rw [hctx]
    exact hspk v hv

theorem exportedValue_ne_nil {label : GoString} {context e : Bytes} {h : Hash}
    (hexp : EAAttestation.exportAttestationValue st label context = .ok (e, h)) : e ≠ [] := by
  obtain ⟨_, -, hexp⟩ := bind_ok_iff.mp hexp
  obtain ⟨_, -, hexp⟩ := bind_ok_iff.mp hexp
  obtain ⟨out, hout, hexp⟩ := bind_ok_iff.mp hexp
  cases hexp
  have hlen := st.length_of_export (mapError_ok_iff.mp hout)
  rintro rfl
  cases hlen

/-- What is expected of a peer: its key and the context, and with an attestation that was
verified the exported value and the binder. -/
theorem expectedIdentityBinding_cases (h : expectedIdentityBinding prim validation = .ok b) : ∃ pub,
      (validation.attestation = none →
        b = { leafPublicKeySHA256 := hexHash prim pub,
              requestContextSHA256 := hexHash prim validation.context }) ∧
      ∀ v, validation.attestation = some v → v.bindingVerified = true →
        b = { leafPublicKeySHA256 := hexHash prim pub,
              requestContextSHA256 := hexHash prim validation.context,
              tlsExporterSHA256 := if v.binding.exportedValue ≠ [] then
                hexHash prim v.binding.exportedValue else [],
              attestationBinderSHA256 := hexHash prim v.payload.binder.binding } := by
  unfold expectedIdentityBinding at h
  cases hch : validation.chain with
  | nil => rw [hch] at h; cases h
  | cons leaf rest =>
    rw [hch] at h
    obtain ⟨_, -, h⟩ := bind_ok_iff.mp h
    obtain ⟨pub, -, h⟩ := bind_ok_iff.mp h
    refine ⟨pub, fun hnone => ?_, fun v hv hver => ?_⟩
    · rw [hnone] at h
      exact (pure_ok_iff.mp h).symm
    · rw [hv] at h
      simp only [hver] at h
      exact (pure_ok_iff.mp h).symm

/-- What is expected of a peer without an attestation: its key and the context, and nothing
of the exporter. -/
theorem expectedIdentityBinding_of_none (hnone : validation.attestation = none)
    (h : expectedIdentityBinding prim validation = .ok b) :
    ∃ pub, b = { leafPublicKeySHA256 := hexHash prim pub,
                 requestContextSHA256 := hexHash prim validation.context } := by
  obtain ⟨pub, hb, -⟩ := expectedIdentityBinding_cases h
  exact ⟨pub, hb hnone⟩

theorem expectedIdentityBinding_exporter
    (hv : validation.attestation = some v) (hver : v.bindingVerified = true)
    (hne : v.binding.exportedValue ≠ []) (h : expectedIdentityBinding prim validation = .ok b) :
    b.tlsExporterSHA256 = hexHash prim v.binding.exportedValue := by
  obtain ⟨pub, -, hb⟩ := expectedIdentityBinding_cases h
  rw [hb v hv hver]
  exact if_pos hne

/-! ### The exporter of an accepted assertion -/

/-- The exporter hash in the assertion is that of this connection, for the context that was
validated. -/
def BoundToExporter (prim : Primitives V) (st : Tls.ConnectionState)
    (validation : ValidationResult) (a : Assertion) : Prop :=
  ∃ e h, EAAttestation.exportAttestationValue st EAAttestation.exporterLabelAttestation
      validation.context = .ok (e, h)
    ∧ a.binding.tlsExporterSHA256 = hexHash prim e

/-- What an accepted identity is: an observed assertion that matches the expected binding. -/
theorem matches_of_validate {statement : Option VerifiedSessionBindingStatement}
    (hen : cfg.identityPolicy.enabled = true)
    (hobs : observedIdentityAssertion cfg st validation now = .ok (a, statement))
    (h : (validateIdentityPolicy prim cfg st validation now w).1 = .ok ()) :
    ∃ expected, expectedIdentityBinding prim validation = .ok expected
      ∧ BindingMatches a.binding expected now := by
  obtain ⟨_, _, expected, hobs', hexp, hmat, -⟩ := identityChecked_of_validate hen h
  rw [hobs] at hobs'
  cases hobs'
  exact ⟨expected, hexp, hmat⟩

/-- An assertion that is made of a statement has its binding. -/
theorem binding_of_observed {statement : VerifiedSessionBindingStatement}
    (h : observedIdentityAssertion cfg st validation now = .ok (a, some statement)) :
    a.binding = statement.binding := by
  unfold observedIdentityAssertion at h
  split at h
  · obtain ⟨_, -, h⟩ := map_ok_iff.mp h
    cases h
  · split at h
    · rename_i grant statement' _ _
      obtain ⟨a', hnew, h⟩ := map_ok_iff.mp h
      cases h
      obtain ⟨-, -, rfl⟩ := newAssertion_ok_iff.mp
        (Prod.ext (mapError_ok_iff.mp hnew) (Subsingleton.elim _ ()))
      rfl
    · cases h

/-- On a connection with an attestation the exporter is expected, and so it is compared. -/
theorem boundToExporter_of_attested {statement : Option VerifiedSessionBindingStatement}
    (hval : Validated prim st validation) (hv : validation.attestation = some v)
    (hen : cfg.identityPolicy.enabled = true)
    (hobs : observedIdentityAssertion cfg st validation now = .ok (a, statement))
    (h : (validateIdentityPolicy prim cfg st validation now w).1 = .ok ()) :
    BoundToExporter prim st validation a := by
  have hspk := hval.speaks hv
  obtain ⟨hash, hexported⟩ := hspk.exported
  obtain ⟨expected, hexp, hmat⟩ := matches_of_validate hen hobs h
  have hwant := expectedIdentityBinding_exporter hv hspk.bindingVerified
    (exportedValue_ne_nil hexported) hexp
  have hfield := hmat.each ⟨.tlsExporterHash, Binding.tlsExporterSHA256⟩ (by simp [bindingFields])
  dsimp only [FieldMatches] at hfield
  rw [hwant] at hfield
  exact ⟨_, hash, hexported, (hfield (isBlank_hexHash _)).2⟩

/-- The values that satisfy `requiringPolicy`. -/
def sampleValues : Values := { service := lit "s" }

theorem requiringPolicy_enabled : requiringPolicy.enabled = true := by decide

theorem satisfies_requiringPolicy : Satisfies requiringPolicy sampleValues :=
  validate_eq_nil_iff.mp (by decide)

/-- A client that is told of an assertion with the expected binding, except for the
exporter. -/
def looseConfig (b : Binding) : ClientConfig σ where
  identityPolicy := requiringPolicy
  observedIdentity := some fun _ _ =>
    .ok ⟨[], sampleValues, { b with tlsExporterSHA256 := lit "x", expiresAt := 10 }⟩

/-- On a connection without an attestation an assertion with any exporter is accepted. -/
theorem validateIdentityPolicy_looseConfig (hnone : validation.attestation = none)
    (hexp : expectedIdentityBinding prim validation = .ok b) :
    (validateIdentityPolicy prim (looseConfig b) st validation 5 w).1 = .ok () := by
  have hlive : Live 0 10 5 := ⟨by decide, fun _ => by decide, fun h => absurd rfl h⟩
  have hju : judgeIdentity prim (looseConfig b : ClientConfig σ) st validation 5
      = .ok (⟨[], sampleValues, { b with tlsExporterSHA256 := lit "x", expiresAt := 10 }⟩,
        none) := by
    refine judgeIdentity_ok_iff.mpr ⟨rfl, b, hexp, ?_, satisfies_requiringPolicy⟩
    obtain ⟨pub, rfl⟩ := expectedIdentityBinding_of_none hnone hexp
    refine ⟨⟨⟨.leafPublicKeyHash, Binding.leafPublicKeySHA256⟩, by simp [bindingFields],
      isBlank_hexHash pub⟩, ?_, hlive⟩
    simp [bindingFields, FieldMatches, validateBindingValue_hexHash, isBlank]
  have hen : (looseConfig b : ClientConfig σ).identityPolicy.enabled = true :=
    requiringPolicy_enabled
  unfold validateIdentityPolicy
  rw [hen, hju]
  rfl

/-- The identities accepted on a connection are bound to its exporter exactly when the peer
has an attestation, or no identity can be accepted at all. Where both of two connections have
one, they accept the same statement only if the hashes of their exporters agree. -/
theorem accepted_bound_to_exporter_iff [Inhabited σ] (hval : Validated prim st validation) :
    ((∀ (cfg : ClientConfig σ) now w a statement, cfg.identityPolicy.enabled = true →
        observedIdentityAssertion cfg st validation now = .ok (a, statement) →
        (validateIdentityPolicy prim cfg st validation now w).1 = .ok () →
        BoundToExporter prim st validation a) ↔
      (validation.attestation ≠ none ∨ ∀ b, expectedIdentityBinding prim validation ≠ .ok b))
    ∧ ∀ st' validation' (cfg cfg' : ClientConfig σ) now now' w w' a a' statement,
      Validated prim st' validation' →
      validation.attestation ≠ none → validation'.attestation ≠ none →
      cfg.identityPolicy.enabled = true → cfg'.identityPolicy.enabled = true →
      observedIdentityAssertion cfg st validation now = .ok (a, some statement) →
      observedIdentityAssertion cfg' st' validation' now' = .ok (a', some statement) →
      (validateIdentityPolicy prim cfg st validation now w).1 = .ok () →
      (validateIdentityPolicy prim cfg' st' validation' now' w').1 = .ok () →
      ∃ e h e' h', EAAttestation.exportAttestationValue st
            EAAttestation.exporterLabelAttestation validation.context = .ok (e, h)
        ∧ EAAttestation.exportAttestationValue st'
            EAAttestation.exporterLabelAttestation validation'.context = .ok (e', h')
        ∧ prim.sha256 e = prim.sha256 e' := by
  refine ⟨⟨?_, ?_⟩, ?_⟩
  · intro hall
    by_contra hnot
    simp only [not_or, not_not, not_forall] at hnot
    obtain ⟨hnone, b, hexp⟩ := hnot
    obtain ⟨e, _, -, hhash⟩ := hall (looseConfig b) 5 default _ none
      requiringPolicy_enabled rfl
      (validateIdentityPolicy_looseConfig hnone hexp)
    -- A hash has 64 digits, and the exporter of the assertion is one letter.
    have hlen := congrArg List.length hhash
    rw [length_hexHash] at hlen
    cases hlen
  · intro hcond cfg now w a statement hen hobs h
    cases hatt : validation.attestation with
    | some v => exact boundToExporter_of_attested hval hatt hen hobs h
    | none =>
      obtain ⟨expected, hexp, -⟩ := matches_of_validate hen hobs h
      exact absurd hexp ((hcond.resolve_left (fun hne => hne hatt)) expected)
  · intro st' validation' cfg cfg' now now' w w' a a' statement hval' hatt hatt' hen
      hen' hobs hobs' h h'
    obtain ⟨v, hv⟩ := Option.ne_none_iff_exists'.mp hatt
    obtain ⟨v', hv'⟩ := Option.ne_none_iff_exists'.mp hatt'
    obtain ⟨e, hash, hexp, heq⟩ := boundToExporter_of_attested hval hv hen hobs h
    obtain ⟨e', hash', hexp', heq'⟩ := boundToExporter_of_attested hval' hv' hen' hobs' h'
    rw [binding_of_observed hobs] at heq
    rw [binding_of_observed hobs'] at heq'
    exact ⟨e, hash, e', hash', hexp, hexp', hexEncode_injective (heq.symm.trans heq')⟩

/-- A grant for the service `s`. -/
def serviceGrant : VerifiedGrant := { shortGrant with values := sampleValues }

/-- A statement for the key `[9]` and the context `[1]`, with an exporter of no connection. -/
def strayStatement : VerifiedSessionBindingStatement where
  grantHash := lit "sha256:00"
  audience := lit "peer"
  signerKey := lit "agent-1"
  binding :=
    { leafPublicKeySHA256 := hexHash samplePrimitives [9]
      tlsExporterSHA256 := lit "x"
      requestContextSHA256 := hexHash samplePrimitives [1]
      nonce := lit "n"
      expiresAt := 8 }

/-- A client with a grant and a statement that were verified before. -/
def preVerifiedConfig : ClientConfig Unit where
  identityPolicy := requiringPolicy
  identityGrant := some serviceGrant
  identityBinding := some strayStatement

/-- What `sampleAuthenticator` without an attestation is validated to. -/
def unattested : ValidationResult where
  context := [1]
  chain := [⟨[9], [9], .ecdsa [9]⟩]

/-- Two connections with different exporters both accept one statement that was verified
before, and neither of them has the exporter it names. -/
theorem statement_accepted_on_two_connections :
    (validateAuthenticator samplePrimitives {} (connectionWith 7) roleServer
        (some sampleRequest) none none (sampleAuthenticator 7 none)).1 = .ok unattested
    ∧ (validateAuthenticator samplePrimitives {} (connectionWith 8) roleServer
        (some sampleRequest) none none (sampleAuthenticator 8 none)).1 = .ok unattested
    ∧ EAAttestation.exportAttestationValue (connectionWith 7)
        EAAttestation.exporterLabelAttestation [1] = .ok (List.replicate 32 7, .sha256)
    ∧ EAAttestation.exportAttestationValue (connectionWith 8)
        EAAttestation.exporterLabelAttestation [1] = .ok (List.replicate 32 8, .sha256)
    ∧ preVerifiedConfig.identityPolicy.enabled = true
    ∧ (validateIdentityPolicy samplePrimitives preVerifiedConfig (connectionWith 7) unattested 5
        ()).1 = .ok ()
    ∧ (validateIdentityPolicy samplePrimitives preVerifiedConfig (connectionWith 8) unattested 5
        ()).1 = .ok ()
    ∧ strayStatement.binding.tlsExporterSHA256
        ≠ hexHash samplePrimitives (List.replicate 32 7) := by
  decide +kernel

/-- What `sampleAuthenticator` with its attestation is validated to. -/
def sampleAttested : ValidationResult :=
  (validateAuthenticator samplePrimitives {} (connectionWith 7) roleServer (some sampleRequest)
    none (some samplePolicy) (sampleAuthenticator 7 (some sampleCMW))).1.toOption.getD
    { context := [] }

theorem accepted_bound_to_exporter_sample :
    Validated samplePrimitives (connectionWith 7) sampleAttested
    ∧ sampleAttested.attestation ≠ none
    ∧ ∀ (cfg : ClientConfig Unit) now w a statement, cfg.identityPolicy.enabled = true →
      observedIdentityAssertion cfg (connectionWith 7) sampleAttested now = .ok (a, statement) →
      (validateIdentityPolicy samplePrimitives cfg (connectionWith 7) sampleAttested now w).1
        = .ok () →
      BoundToExporter samplePrimitives (connectionWith 7) sampleAttested a := by
  have hval : Validated samplePrimitives (connectionWith 7) sampleAttested :=
    ⟨{}, roleServer, some sampleRequest, none, some samplePolicy,
      sampleAuthenticator 7 (some sampleCMW), by decide +kernel⟩
  have hatt : sampleAttested.attestation ≠ none := by decide +kernel
  obtain ⟨hiff, -⟩ := @accepted_bound_to_exporter_iff Unit Unit samplePrimitives
    (connectionWith 7) sampleAttested _ hval
  exact ⟨hval, hatt, hiff.mpr (.inl hatt)⟩

end SecureBinding.Transport
