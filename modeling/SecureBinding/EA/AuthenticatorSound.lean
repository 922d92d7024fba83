import SecureBinding.EA.Authenticator

/-!
# EA.AuthenticatorSound

What an accepted authenticator proves.

An authenticator is accepted in one of two ways. Either it is the empty one, a Finished
message alone, or it carries a chain and then the attestation, if the policy requires one.
`validateAuthenticator_ok_iff` says so, and the rest is read off it.
-/

namespace SecureBinding.EA

open Go Go.Crypto Lib

variable {V : Type} {prim : Primitives V} {s s' : State V} {st : Tls.ConnectionState}
  {role : Role} {req : Option AuthenticatorRequest}
  {policy : Option SpontaneousAuthenticatorPolicy}
  {attPolicy : Option EAAttestation.VerificationPolicy} {authBytes : Bytes}
  {res : ValidationResult}

/-! ### The empty authenticator -/

/-- The bytes are the empty authenticator for a request: the Finished message over the
request and a certificate message without entries. Whoever holds the exporters of the
connection can write it. -/
def EmptyAuthenticator (prim : Primitives V) (st : Tls.ConnectionState) (role : Role)
    (r : AuthenticatorRequest) (authBytes : Bytes) : Prop :=
  ∃ keys reqBytes schemes certBytes, exportKeys st role = .ok keys
    ∧ r.marshal = .ok reqBytes ∧ r.signatureSchemes = some schemes
    ∧ CertificateMessage.marshal { context := r.context } = .ok certBytes
    ∧ FinishedMessage.marshal ⟨finishedMAC prim keys [reqBytes, certBytes]⟩ = .ok authBytes

variable {r : AuthenticatorRequest} {keys : Keys} {reqBytes context : Bytes}

theorem EmptyAuthenticator.head (h : EmptyAuthenticator prim st role r authBytes) :
    authBytes.head? = some handshakeTypeFinished := by
  obtain ⟨_, _, _, _, -, -, -, -, hfin⟩ := h
  unfold FinishedMessage.marshal marshalHandshakeMessage at hfin
  split at hfin
  · cases hfin
  · split at hfin
    · cases hfin
    · cases hfin
      rfl

/-- There is an empty authenticator for every request that can be answered at all, and it
is short. -/
theorem exists_emptyAuthenticator {schemes : List UInt16} (hkeys : exportKeys st role = .ok keys)
    (hmar : r.marshal = .ok reqBytes) (hschs : r.signatureSchemes = some schemes) :
    ∃ authBytes, EmptyAuthenticator prim st role r authBytes ∧ authBytes.length ≤ 68 := by
  have hctx := AuthenticatorRequest.context_length_of_marshal hmar
  obtain ⟨certBytes, hcert⟩ := exists_marshal_emptyCertificate hctx
  have hmac : (finishedMAC prim keys [reqBytes, certBytes]).length = keys.hash.size :=
    prim.length_hmac _ _ _
  have hsize : 0 < keys.hash.size ∧ keys.hash.size ≤ 64 := by
    cases keys.hash <;> simp [Hash.size]
  have hfin := @FinishedMessage.marshal_of_le ⟨finishedMAC prim keys [reqBytes, certBytes]⟩
    (by dsimp only; omega) (by dsimp only; omega)
  refine ⟨_, ⟨keys, reqBytes, schemes, certBytes, hkeys, hmar, hschs, hcert, hfin⟩, ?_⟩
  simp only [List.length_cons, List.length_append, putUint24, List.length_nil]
  omega

theorem requestBytes_some_ok_iff {b : Bytes} {schemes : List UInt16} :
    requestBytes (some r) = .ok (b, schemes) ↔
      r.marshal = .ok b ∧ r.signatureSchemes = some schemes := by
  simp only [requestBytes]
  rw [bind_ok_iff]
  constructor
  · rintro ⟨b', hb, h⟩
    cases hs : r.signatureSchemes with
    | none => rw [hs] at h; cases h
    | some schemes' => rw [hs] at h; cases h; exact ⟨hb, rfl⟩
  · rintro ⟨hb, hs⟩
    exact ⟨b, hb, by rw [hs]; rfl⟩

/-- The branch for Finished accepts the Finished message it expects and nothing else. -/
theorem checkEmpty_ok_iff {rest : Bytes} {hm : HandshakeMessage}
    {c : Checked} (hread : unmarshalHandshakeMessage authBytes = .ok (hm, rest)) :
    checkEmpty prim keys req reqBytes hm rest = .ok c ↔
      ∃ r certBytes, req = some r ∧ c = .empty r.context
        ∧ CertificateMessage.marshal { context := r.context } = .ok certBytes
        ∧ FinishedMessage.marshal ⟨finishedMAC prim keys [reqBytes, certBytes]⟩ = .ok authBytes := by
  obtain ⟨hby, -⟩ := unmarshal_rawHandshakeMessage hread
  cases req with
  | none => simp [checkEmpty]
  | some r =>
    simp only [checkEmpty]
    constructor
    · intro h
      obtain ⟨_, hrest, h⟩ := bind_ok_iff.mp h
      obtain ⟨⟨fin, raw⟩, hfin, h⟩ := bind_ok_iff.mp h
      obtain ⟨certBytes, hcert, h⟩ := bind_ok_iff.mp h
      obtain ⟨_, hmac, h⟩ := bind_ok_iff.mp h
      cases h
      rw [ensure_ok_iff] at hrest hmac
      rw [hrest, List.append_nil] at hby
      obtain ⟨hwr, -⟩ := unmarshalFinishedMessage_ok_iff.mp hfin
      refine ⟨r, certBytes, rfl, rfl, hcert, ?_⟩
      rw [hmac, hby]
      exact hwr
    · rintro ⟨r', certBytes, hr, rfl, hcert, hwr⟩
      cases hr
      have hfin := unmarshalFinishedMessage_ok_iff.mpr ⟨hwr, rfl⟩
      -- A Finished message leaves nothing over, so the bytes are those of `hm`.
      have hrest : rest = [] := by
        unfold unmarshalFinishedMessage at hfin
        rw [hread] at hfin
        by_contra hne
        simp [hne] at hfin
      rw [hrest, List.append_nil] at hby
      rw [hby] at hfin
      simp only [hrest, ok_bind, hfin, hcert]
      rfl

theorem checkCertificate_ne_empty {rest : Bytes} {offered : List UInt16} {hm : HandshakeMessage} :
    checkCertificate prim keys req policy reqBytes offered hm rest ≠ .ok (.empty context) := by
  intro h
  -- Whatever the twelve steps return, the last one builds a chain.
  repeat
    obtain ⟨_, -, h⟩ := bind_ok_iff.mp h
  cases h

theorem checkAuthenticator_eq_empty_iff :
    checkAuthenticator prim st role req policy authBytes = .ok (.empty context) ↔
      ∃ r, req = some r ∧ context = r.context ∧ EmptyAuthenticator prim st role r authBytes := by
  constructor
  · intro h
    obtain ⟨keys, hkeys, h⟩ := bind_ok_iff.mp h
    obtain ⟨⟨reqBytes, offered⟩, hreq, h⟩ := bind_ok_iff.mp h
    obtain ⟨⟨hm, rest⟩, hread, h⟩ := bind_ok_iff.mp h
    dsimp only at h
    split at h
    · obtain ⟨r, certBytes, rfl, hc, hcert, hfin⟩ := (checkEmpty_ok_iff hread).mp h
      cases hc
      obtain ⟨hmar, hschs⟩ := requestBytes_some_ok_iff.mp hreq
      exact ⟨r, rfl, rfl, keys, reqBytes, offered, certBytes, hkeys, hmar, hschs, hcert, hfin⟩
    · split at h
      · exact absurd h checkCertificate_ne_empty
      · cases h
  · rintro ⟨r, rfl, rfl, keys, reqBytes, schemes, certBytes, hkeys, hmar, hschs, hcert, hfin⟩
    have hreq := requestBytes_some_ok_iff.mpr ⟨hmar, hschs⟩
    have hfin' := hfin
    unfold FinishedMessage.marshal at hfin'
    split at hfin'
    · cases hfin'
    · have hread := unmarshalHandshakeMessage_ok_iff.mpr
        ⟨authBytes, hfin', (List.append_nil authBytes).symm⟩
      unfold checkAuthenticator
      rw [hkeys, ok_bind, hreq, ok_bind]
      dsimp only
      rw [hread, ok_bind]
      exact (checkEmpty_ok_iff hread).mpr ⟨r, certBytes, rfl, rfl, hcert, hfin⟩

/-! ### Acceptance -/

theorem thenMark_fst_ok_iff {α : Type} {next : Except ValidateError α}
    {a : α} : (thenMark s context next).1 = .ok a ↔ Unused s.session context ∧ next = .ok a := by
  by_cases h : Unused s.session context
  · rw [thenMark_of_unused h]
    exact (and_iff_right h).symm
  · rw [thenMark_of_not_unused h]
    simp [h]

/-- The authenticator is accepted as the empty one. -/
def AcceptedEmpty (prim : Primitives V) (session : Option Session) (st : Tls.ConnectionState)
    (role : Role) (req : Option AuthenticatorRequest) (authBytes : Bytes) : Prop :=
  ∃ r, req = some r ∧ EmptyAuthenticator prim st role r authBytes ∧ Unused session r.context

/-- The two ways to be accepted, by what the checks return. -/
theorem validateAuthenticator_eq_ok_iff_check :
    (validateAuthenticator prim s st role req policy attPolicy authBytes).1 = .ok res ↔
      (∃ context, checkAuthenticator prim st role req policy authBytes = .ok (.empty context)
        ∧ Unused s.session context ∧ res = { context, empty := true })
      ∨ ∃ context leaf intermediates cmw, checkAuthenticator prim st role req policy authBytes
          = .ok (.full context leaf intermediates cmw)
        ∧ verifyLeaf prim s.verifyOpts leaf intermediates = .ok ()
        ∧ Unused s.session context
        ∧ attest prim st attPolicy context leaf intermediates cmw = .ok res := by
  unfold validateAuthenticator
  cases checkAuthenticator prim st role req policy authBytes with
  | error e => simp
  | ok c =>
    cases c with
    | empty context =>
      rw [thenMark_fst_ok_iff]
      simp [eq_comm]
    | full context leaf intermediates cmw =>
      dsimp only
      cases hleaf : verifyLeaf prim s.verifyOpts leaf intermediates with
      | error e =>
        simp only [reduceCtorEq, Except.ok.injEq, false_and, exists_false, false_or, false_iff]
        intro h
        obtain ⟨_, _, _, _, ⟨rfl, rfl, rfl, rfl⟩, hok, -⟩ := h
        rw [hleaf] at hok
        cases hok
      | ok u =>
        rw [thenMark_fst_ok_iff, mapError_ok_iff]
        constructor
        · intro h
          exact .inr ⟨context, leaf, intermediates, cmw, rfl, hleaf, h⟩
        · intro h
          obtain ⟨_, h, -⟩ | ⟨_, _, _, _, h, -, hrest⟩ := h
          · cases h
          · cases h
            exact hrest

/-- An accepted authenticator is the empty one, or its chain was verified and `attest`
returned the result. -/
theorem validateAuthenticator_ok_iff :
    (validateAuthenticator prim s st role req policy attPolicy authBytes).1 = .ok res ↔
      (∃ r, req = some r ∧ EmptyAuthenticator prim st role r authBytes
        ∧ Unused s.session r.context ∧ res = { context := r.context, empty := true })
      ∨ ∃ context leaf intermediates cmw, checkAuthenticator prim st role req policy authBytes
          = .ok (.full context leaf intermediates cmw)
        ∧ verifyLeaf prim s.verifyOpts leaf intermediates = .ok ()
        ∧ Unused s.session context
        ∧ attest prim st attPolicy context leaf intermediates cmw = .ok res := by
  rw [validateAuthenticator_eq_ok_iff_check]
  refine or_congr_left ?_
  constructor
  · intro h
    obtain ⟨context, hchk, hunu, hres⟩ := h
    obtain ⟨r, hr, rfl, hauth⟩ := checkAuthenticator_eq_empty_iff.mp hchk
    exact ⟨r, hr, hauth, hunu, hres⟩
  · intro h
    obtain ⟨r, hr, hauth, hunu, hres⟩ := h
    exact ⟨r.context, checkAuthenticator_eq_empty_iff.mpr ⟨r, hr, rfl, hauth⟩, hunu, hres⟩

/-! ### Attestation -/

/-- The result carries an attestation that was checked: its binder, and every statement the
payload contains. -/
def Attested (res : ValidationResult) : Prop :=
  ∃ v, res.attestation = some v ∧ v.bindingVerified = true
    ∧ (v.payload.evidence ≠ [] → v.evidenceVerified = true)
    ∧ (v.payload.attestationResults ≠ [] → v.resultsVerified = true)

/-- What `attest` returns: the chain and the context it was given, and an attestation that
speaks for them unless none was sent. -/
theorem attest_eq_ok {leaf : Certificate} {intermediates : List Certificate}
    {cmw : Option Bytes} (h : attest prim st attPolicy context leaf intermediates cmw = .ok res) :
    res.context = context ∧ res.chain = leaf :: intermediates
      ∧ (res.attestation = none → (attPolicy.getD {}).requiresAttestation = false)
      ∧ ∀ v, res.attestation = some v →
        EAAttestation.Speaks st EAAttestation.exporterLabelAttestation context v := by
  cases cmw with
  | none =>
    obtain ⟨_, hnot, h⟩ := bind_ok_iff.mp h
    cases h
    refine ⟨rfl, rfl, fun _ => ensure_ok_iff.mp hnot, ?_⟩
    intro v hv
    cases hv
  | some cmw =>
    obtain ⟨parsed, -, h⟩ := bind_ok_iff.mp h
    obtain ⟨verified, hvf, h⟩ := bind_ok_iff.mp h
    cases h
    refine ⟨rfl, rfl, fun hnone => ?_, ?_⟩
    · cases hnone
    · intro v hv
      cases hv
      exact EAAttestation.verifyPayload_speaks hvf

theorem attested_of_attest {leaf : Certificate}
    {intermediates : List Certificate} {cmw : Option Bytes}
    (hreq : (attPolicy.getD {}).requiresAttestation = true)
    (h : attest prim st attPolicy context leaf intermediates cmw = .ok res) : Attested res := by
  obtain ⟨-, -, hnone, hspk⟩ := attest_eq_ok h
  cases hatt : res.attestation with
  | none =>
    have hnot := hnone hatt
    rw [hreq] at hnot
    cases hnot
  | some v =>
    have hv := hspk v hatt
    exact ⟨v, hatt, hv.bindingVerified, hv.evidence, hv.results⟩

/-- With a policy that requires attestation, exactly the empty authenticator gets by
without one. -/
theorem validate_attested_iff (hreq : (attPolicy.getD {}).requiresAttestation = true) :
    (∀ res, (validateAuthenticator prim s st role req policy attPolicy authBytes).1 = .ok res →
      Attested res) ↔ ¬ AcceptedEmpty prim s.session st role req authBytes := by
  constructor
  · rintro hall ⟨r, hr, hauth, hunu⟩
    obtain ⟨v, hv, -⟩ := hall _
      (validateAuthenticator_ok_iff.mpr (.inl ⟨r, hr, hauth, hunu, rfl⟩))
    cases hv
  · intro hnot res hres
    obtain ⟨r, hr, hauth, hunu, -⟩ | ⟨_, _, _, _, -, -, -, h⟩ :=
      validateAuthenticator_ok_iff.mp hres
    · exact absurd ⟨r, hr, hauth, hunu⟩ hnot
    · exact attested_of_attest hreq h

/-! ### A sample environment -/

/-- A connection whose exporters repeat one byte. -/
def connectionWith (tag : UInt8) : Tls.ConnectionState where
  version := Tls.versionTLS13
  cipherSuite := Tls.tlsAes128GcmSha256
  exportKeyingMaterial _ _ n := .ok (List.replicate n tag)
  length_of_export h := by
    cases h
    exact List.length_replicate

/-- A request for ECDSA with P-256, that also offers to take an attestation. -/
def sampleRequest : AuthenticatorRequest :=
  ⟨handshakeTypeClientCertificateRequest, [1],
    [⟨signatureAlgorithmsExtensionType, [0, 2, 4, 3]⟩, cmwAttestationOfferExtension]⟩

/-- The bytes of a message that can be written. -/
def written (b : Except Error Bytes) : Bytes := b.toOption.getD []

/-- The payload of an attestation for `connectionWith 7`: evidence `[1]`, and the binder of
the key `[9]`. -/
def sampleCMW : Bytes :=
  litPieces ["\x7b\"evidence\":\"AQ==\",\"binder\":\x7b\"aik_pub_hash\":",
    "\"CQkJCQkJCQkJCQkJCQkJCQkJCQkJCQkJ", "CQkJCQkJCQk=\",\"binding\":",
    "\"6enp6enp6enp6enp6enp6enp6enp6enp", "6enp6enp6ek=\"\x7d\x7d"]

/-- An answer to `sampleRequest` on `connectionWith tag`: the certificate `[9]`, with an
attestation or without. -/
def sampleAuthenticator (tag : UInt8) (cmw : Option Bytes) : Bytes :=
  let exts := match cmw with
    | none => []
    | some cmw => (cmwAttestationDataExtension cmw).toOption.toList
  let certBytes := written (CertificateMessage.marshal ⟨[1], [⟨[9], exts⟩]⟩)
  let keys : Keys := ⟨.sha256, List.replicate 32 tag, List.replicate 32 tag⟩
  let reqBytes := written sampleRequest.marshal
  let transcriptHash :=
    hashConcat samplePrimitives .sha256 [keys.handshakeContext, reqBytes, certBytes]
  let cvBytes := written (CertificateVerifyMessage.marshal ⟨Tls.ecdsaWithP256AndSHA256,
    [9] ++ samplePrimitives.sha256 (buildCertVerifyInput transcriptHash)⟩)
  certBytes ++ cvBytes ++ written (FinishedMessage.marshal
    ⟨finishedMAC samplePrimitives keys [reqBytes, certBytes, cvBytes]⟩)

/-- A policy that requires evidence, and accepts the evidence `[1]`. -/
def samplePolicy : EAAttestation.VerificationPolicy where
  evidenceVerifier := some fun evidence _ =>
    if evidence = [1] then .ok () else .error "evidence refused"

end SecureBinding.EA
