import SecureBinding.EA.Create
import SecureBinding.EA.FullAuthenticator

/-!
# EA.Completeness

Every authenticator that is created for a request is accepted as an answer to it.

`CreatedMessages` says what `createAuthenticator` writes, as `CheckedMessages` says what
`validateAuthenticator` accepts. Both speak of the same bytes, so what is left is that the
scheme that was chosen is one that may sign, and that the entries pass the checks.
-/

namespace SecureBinding.EA

open Go Go.Crypto Lib

variable {V : Type} {prim : Primitives V} {signer : Signer} {session : Option Session}
  {st : Tls.ConnectionState} {role : Role} {req : Option AuthenticatorRequest}
  {r : AuthenticatorRequest} {policy policy' : Option SpontaneousAuthenticatorPolicy}
  {identity : Identity} {exts : List Extension} {authBytes : Bytes}

/-! ### Signature schemes -/

theorem signatureSchemes_ne_nil {schemes : List UInt16} (h : r.signatureSchemes = some schemes) :
    schemes ≠ [] := by
  obtain ⟨e, -, h⟩ := Option.bind_eq_some_iff.mp h
  unfold parseSignatureSchemes at h
  split at h
  · dsimp only at h
    split at h
    · cases h
    · rename_i a b rest hdata hlen
      cases h
      -- The vector holds at least one number.
      match rest with
      | [] => simp at hlen; omega
      | [_] => simp at hlen; omega
      | _ :: _ :: _ => simp [readSchemes]
  · cases h

variable {priv : PrivateKey} {offered : List UInt16} {keys : Keys} {reqBytes ctx : Bytes}

theorem mem_of_chooseSignatureScheme {scheme : UInt16}
    (hoff : offered ≠ []) (h : chooseSignatureScheme priv offered = .ok scheme) :
    scheme ∈ offered := by
  unfold chooseSignatureScheme at h
  rw [if_pos (List.length_pos_iff.mpr hoff)] at h
  exact List.mem_of_find?_eq_some (ofOption_ok_iff.mp h)

/-- What `signCertVerify` signs, `verifyCertVerify` accepts. -/
theorem verifyCertVerify_of_sign (hcor : signer.Correct prim)
    {scheme : UInt16} {transcriptHash sig : Bytes}
    (h : signCertVerify prim signer priv scheme transcriptHash = .ok sig) :
    verifyCertVerify prim (signer.publicKey priv) scheme transcriptHash sig = .ok () := by
  obtain ⟨info, hinfo, h⟩ := bind_ok_iff.mp h
  unfold signatureSchemeInfo at hinfo
  unfold verifyCertVerify
  by_cases hecdsa : scheme = Tls.ecdsaWithP256AndSHA256
  · rw [if_pos hecdsa] at hinfo ⊢
    cases hinfo
    cases priv with
    | ecdsa curve k => exact ensure_ok_iff.mpr (hcor.asn1 (mapError_ok_iff.mp h))
    | rsa k => cases h
    | ed25519 k => cases h
    | other k => cases h
  · rw [if_neg hecdsa] at hinfo ⊢
    by_cases hpss : scheme = Tls.pssWithSHA256
    · rw [if_pos hpss] at hinfo ⊢
      cases hinfo
      cases priv with
      | ecdsa curve k => cases h
      | rsa k => exact ensure_ok_iff.mpr (hcor.pss (mapError_ok_iff.mp h))
      | ed25519 k => cases h
      | other k => cases h
    · rw [if_neg hpss] at hinfo ⊢
      by_cases hed : scheme = Tls.ed25519
      · rw [if_pos hed] at hinfo ⊢
        cases hinfo
        cases priv with
        | ecdsa curve k => cases h
        | rsa k => cases h
        | ed25519 k =>
          cases h
          exact ensure_ok_iff.mpr (hcor.ed25519 k _)
        | other k => cases h
      · rw [if_neg hed] at hinfo
        cases hinfo

/-! ### What is created -/

/-- What `createAuthenticator` writes for an identity with a key. -/
structure CreatedMessages (prim : Primitives V) (signer : Signer)
    (req : Option AuthenticatorRequest) (policy : Option SpontaneousAuthenticatorPolicy)
    (authBytes : Bytes) (keys : Keys) (reqBytes : Bytes) (offered : List UInt16) (ctx : Bytes)
    (priv : PrivateKey) (chain : List Bytes) (exts : List Extension) (m : Messages) : Prop where
  bytes : authBytes = m.certBytes ++ m.cvBytes ++ m.finBytes
  certMessage : m.cert = ⟨ctx, certificateEntries chain exts⟩
  cert : m.cert.marshal = .ok m.certBytes
  certVerify : m.certVerify.marshal = .ok m.cvBytes
  finished : m.finished.marshal = .ok m.finBytes
  chosen : chooseSignatureScheme priv offered = .ok m.certVerify.algorithm
  permitted : req.isSome = true ∨ policyPermitsSignatureScheme policy m.certVerify.algorithm = true
  signed : signCertVerify prim signer priv m.certVerify.algorithm
    (hashConcat prim keys.hash [keys.handshakeContext, reqBytes, m.certBytes])
    = .ok m.certVerify.signature
  mac : finishedMAC prim keys [reqBytes, m.certBytes, m.cvBytes] = m.finished.verifyData

theorem createFull_ok_iff {chain : List Bytes} :
    createFull prim signer keys req policy reqBytes offered ctx priv chain exts = .ok authBytes ↔
      ∃ m, CreatedMessages prim signer req policy authBytes keys reqBytes offered ctx priv chain
        exts m := by
  constructor
  · intro h
    obtain ⟨scheme, hchosen, h⟩ := bind_ok_iff.mp h
    obtain ⟨_, hpmd, h⟩ := bind_ok_iff.mp h
    obtain ⟨certBytes, hcert, h⟩ := bind_ok_iff.mp h
    obtain ⟨sig, hsig, h⟩ := bind_ok_iff.mp h
    obtain ⟨cvBytes, hcv, h⟩ := bind_ok_iff.mp h
    obtain ⟨finBytes, hfin, h⟩ := bind_ok_iff.mp h
    cases h
    exact ⟨⟨⟨ctx, certificateEntries chain exts⟩, ⟨scheme, sig⟩,
      ⟨finishedMAC prim keys [reqBytes, certBytes, cvBytes]⟩, certBytes, cvBytes, finBytes⟩, rfl, rfl,
      mapError_ok_iff.mp hcert, mapError_ok_iff.mp hcv, mapError_ok_iff.mp hfin,
      mapError_ok_iff.mp hchosen, ensure_ok_iff.mp hpmd, hsig, rfl⟩
  · intro h
    obtain ⟨⟨cert, ⟨scheme, sig⟩, ⟨verifyData⟩, certBytes, cvBytes, finBytes⟩, hm⟩ := h
    obtain ⟨hby, hmsg, hcert, hcv, hfin, hchosen, hpmd, hsig, hmac⟩ := hm
    dsimp only at *
    subst hmsg hmac hby
    unfold createFull
    simp only [bind_ok_iff, mapError_ok_iff, ensure_ok_iff, exists_const]
    exact ⟨scheme, hchosen, hpmd, certBytes, hcert, sig, hsig, cvBytes, hcv, finBytes, hfin, rfl⟩

theorem createEmpty_ok_iff :
    createEmpty prim keys req reqBytes ctx = .ok authBytes ↔ req.isSome = true ∧
      ∃ certBytes, CertificateMessage.marshal { context := ctx } = .ok certBytes ∧
        FinishedMessage.marshal ⟨finishedMAC prim keys [reqBytes, certBytes]⟩ = .ok authBytes := by
  unfold createEmpty
  simp only [bind_ok_iff, ensure_ok_iff, exists_const]

/-- What a call has passed when it turns to the messages. -/
structure Prepared (signer : Signer) (st : Tls.ConnectionState) (role : Role)
    (req : Option AuthenticatorRequest) (policy : Option SpontaneousAuthenticatorPolicy)
    (identity : Identity) (exts : List Extension) (keys : Keys) (reqBytes : Bytes)
    (offered : List UInt16) (ctx : Bytes) : Prop where
  version : st.version = Tls.versionTLS13
  mayCreate : req.isSome = true ∨ role = roleServer
  extensions : validateCertificateEntryExtensions exts req policy = .ok ()
  identity : identity.certificate = [] ↔ identity.privateKey = none
  request : requestBytes req = .ok (reqBytes, offered)
  context : createContext signer req = .ok ctx
  keys : exportKeys st role = .ok keys

theorem buildAuthenticator_ok_iff :
    buildAuthenticator prim signer st role req policy identity exts = .ok (ctx, authBytes) ↔
      ∃ keys reqBytes offered,
        Prepared signer st role req policy identity exts keys reqBytes offered ctx ∧
        ((identity.privateKey = none ∧ createEmpty prim keys req reqBytes ctx = .ok authBytes) ∨
          ∃ priv m, identity.privateKey = some priv ∧
            CreatedMessages prim signer req policy authBytes keys reqBytes offered ctx priv
              identity.certificate exts m) := by
  unfold buildAuthenticator
  constructor
  · intro h
    obtain ⟨_, hvsn, h⟩ := bind_ok_iff.mp h
    obtain ⟨_, hrole, h⟩ := bind_ok_iff.mp h
    obtain ⟨_, hexts, h⟩ := bind_ok_iff.mp h
    obtain ⟨_, hid, h⟩ := bind_ok_iff.mp h
    obtain ⟨⟨reqBytes, offered⟩, hreq, h⟩ := bind_ok_iff.mp h
    obtain ⟨ctx', hctx, h⟩ := bind_ok_iff.mp h
    obtain ⟨keys, hkeys, h⟩ := bind_ok_iff.mp h
    have hprep : Prepared signer st role req policy identity exts keys reqBytes offered ctx' :=
      ⟨ensure_ok_iff.mp hvsn, ensure_ok_iff.mp hrole, mapError_ok_iff.mp hexts,
        ensure_ok_iff.mp hid, mapError_ok_iff.mp hreq, hctx,
        mapError_ok_iff.mp hkeys⟩
    cases hpriv : identity.privateKey with
    | none =>
      rw [hpriv] at h
      obtain ⟨finBytes, hfin, h⟩ := bind_ok_iff.mp h
      cases h
      exact ⟨keys, reqBytes, offered, hprep, .inl ⟨rfl, mapError_ok_iff.mp hfin⟩⟩
    | some priv =>
      rw [hpriv] at h
      obtain ⟨bytes, hfull, h⟩ := bind_ok_iff.mp h
      cases h
      obtain ⟨m, hm⟩ := createFull_ok_iff.mp hfull
      exact ⟨keys, reqBytes, offered, hprep, .inr ⟨priv, m, rfl, hm⟩⟩
  · intro h
    obtain ⟨keys, reqBytes, offered, hprep, h⟩ := h
    simp only [bind_ok_iff, mapError_ok_iff, ensure_ok_iff, exists_const, Prod.exists]
    refine ⟨hprep.version, hprep.mayCreate, (), hprep.extensions, hprep.identity, reqBytes, offered,
      hprep.request, ctx, hprep.context, keys, hprep.keys, ?_⟩
    obtain ⟨hpriv, hemp⟩ | ⟨priv, m, hpriv, hm⟩ := h
    · rw [hpriv]
      rw [hemp]
      rfl
    · rw [hpriv]
      dsimp only
      rw [createFull_ok_iff.mpr ⟨m, hm⟩]
      rfl

theorem createAuthenticator_fst_ok_iff :
    (createAuthenticator prim signer session st role req policy identity exts).1 = .ok authBytes ↔
      ∃ ctx, buildAuthenticator prim signer st role req policy identity exts = .ok (ctx, authBytes)
        ∧ Unused session ctx := by
  unfold createAuthenticator
  cases buildAuthenticator prim signer st role req policy identity exts with
  | error e => simp
  | ok p =>
    obtain ⟨ctx, bytes⟩ := p
    simp only [Except.ok.injEq, Prod.mk.injEq]
    by_cases hunu : Unused session ctx
    · rw [markContextUsed_of_unused hunu]
      constructor
      · intro h
        cases h
        exact ⟨ctx, ⟨rfl, rfl⟩, hunu⟩
      · intro h
        obtain ⟨_, ⟨-, rfl⟩, -⟩ := h
        rfl
    · rw [markContextUsed_of_not_unused hunu]
      constructor
      · intro h
        cases h
      · intro h
        obtain ⟨_, ⟨rfl, -⟩, hctx⟩ := h
        exact absurd hctx hunu

/-! ### The entries -/

/-- With a request the policy has no say. -/
theorem validateCertificateEntryExtensions_some :
    validateCertificateEntryExtensions exts (some r) policy
      = validateCertificateEntryExtensions exts (some r) policy' := rfl

theorem extractCMW_eq_none (h : ∀ e ∈ exts, e.type ≠ cmwAttestationExtensionType) :
    extractCMWAttestationFromExtensions exts = .ok none := by
  have hfind : (exts.find? fun e => e.type == cmwAttestationExtensionType) = none := by
    rw [List.find?_eq_none]
    intro e he
    simpa using h e he
  unfold extractCMWAttestationFromExtensions
  rw [hfind]

/-- The entries that are created pass the checks: only the leaf has extensions, and they
have been checked before. -/
theorem checkEntries_certificateEntries {leafDER : Bytes} {others : List Bytes}
    {leaf : Certificate} {intermediates : List Certificate}
    (hexts : validateCertificateEntryExtensions exts req policy = .ok ())
    (hcmw : ∀ e ∈ exts, e.type ≠ cmwAttestationExtensionType)
    (hleaf : prim.parseCertificate leafDER = .ok leaf)
    (hoths : List.Forall₂ (fun der c => prim.parseCertificate der = .ok c) others intermediates) :
    checkEntries prim req policy (certificateEntries (leafDER :: others) exts)
      = .ok (leaf, intermediates, none) := by
  have hplc : validateCMWAttestationPlacement (certificateEntries (leafDER :: others) exts)
      = .ok () := by
    unfold validateCMWAttestationPlacement certificateEntries
    simp
  have hall : ∀ entry ∈ certificateEntries (leafDER :: others) exts,
      validateCertificateEntryExtensions entry.extensions req policy = .ok () := by
    intro entry hent
    obtain rfl | hent := List.mem_cons.mp hent
    · exact hexts
    · obtain ⟨der, -, rfl⟩ := List.mem_map.mp hent
      rfl
  refine checkEntries_cons_ok_iff.mpr
    ⟨hplc, hall, extractCMW_eq_none hcmw, .inl rfl, .cons hleaf ?_⟩
  rw [List.forall₂_map_left_iff]
  exact hoths

/-- The messages that are created pass the checks, for a leaf with the key that signed. -/
theorem CreatedMessages.checked {chain : List Bytes} {m : Messages} {leaf : Certificate}
    {intermediates : List Certificate}
    (hm : CreatedMessages prim signer (some r) policy authBytes keys reqBytes offered r.context priv
      chain exts m) (hcor : signer.Correct prim)
    (hes : checkEntries prim (some r) policy' (certificateEntries chain exts)
      = .ok (leaf, intermediates, none))
    (hoff : offered ≠ []) (hkey : leaf.publicKey = signer.publicKey priv) :
    CheckedMessages prim (some r) policy' authBytes keys reqBytes offered m leaf intermediates
      none := by
  refine ⟨hm.bytes, hm.cert, hm.certVerify, hm.finished, ?_, ?_, ?_, ?_, hm.mac⟩
  · intro r' hr'
    cases hr'
    rw [hm.certMessage]
  · rw [hm.certMessage]
    exact hes
  · exact .inr (mem_of_chooseSignatureScheme hoff hm.chosen)
  · rw [hkey]
    exact verifyCertVerify_of_sign hcor hm.signed

/-! ### Completeness -/

/-- What validation returns for the authenticator of an identity with this chain. -/
def expectedResult (context : Bytes) (chain : List Certificate) : ValidationResult :=
  { context, chain, empty := chain.isEmpty }

/-- **Completeness.** An authenticator that was created for a request is accepted as an
answer to it on the same connection, and the context and the chain that validation returns
are those of the creator. -/
theorem created_authenticator_accepted (prim : Primitives V) (signer : Signer)
    (hcorrect : signer.Correct prim) (session : Option Session) (st : Tls.ConnectionState)
    (role : Role) (r : AuthenticatorRequest) (policy policy' : Option SpontaneousAuthenticatorPolicy)
    (identity : Identity) (chain : List Certificate) (exts : List Extension) (authBytes : Bytes)
    (hchain : List.Forall₂ (fun der c => prim.parseCertificate der = .ok c) identity.certificate
      chain)
    (hkey : ∀ priv leaf, identity.privateKey = some priv → chain.head? = some leaf →
      leaf.publicKey = signer.publicKey priv)
    (hexts : ∀ e ∈ exts, e.type ≠ cmwAttestationExtensionType)
    (h : (createAuthenticator prim signer session st role (some r) policy identity exts).1
      = .ok authBytes) :
    (validateAuthenticator prim { session := some {} } st role (some r) policy' none authBytes).1
      = .ok (expectedResult r.context chain) := by
  obtain ⟨ctx, hbld, -⟩ := createAuthenticator_fst_ok_iff.mp h
  obtain ⟨keys, reqBytes, offered, hprep, hcase⟩ := buildAuthenticator_ok_iff.mp hbld
  obtain ⟨hmar, hschs⟩ := requestBytes_some_ok_iff.mp hprep.request
  have hctx := hprep.context
  cases hctx
  have hunu : Unused (some {}) r.context := by
    intro s hs
    cases hs
    simp
  rw [validateAuthenticator_ok_iff]
  -- Without a key the answer is the empty one, and the chain is empty as well.
  obtain ⟨hpriv, hemp⟩ | ⟨priv, m, hpriv, hm⟩ := hcase
  · obtain ⟨-, certBytes, hcert, hfin⟩ := createEmpty_ok_iff.mp hemp
    have hnil := hprep.identity.mpr hpriv
    rw [hnil, List.forall₂_nil_left_iff] at hchain
    refine .inl ⟨r, rfl, ⟨keys, reqBytes, offered, certBytes, hprep.keys, hmar, hschs, hcert,
      hfin⟩, hunu, ?_⟩
    rw [hchain]
    rfl
  · have hne : identity.certificate ≠ [] := by
      intro hnil
      rw [hprep.identity.mp hnil] at hpriv
      cases hpriv
    obtain ⟨leafDER, others, hcts⟩ := List.exists_cons_of_ne_nil hne
    rw [hcts] at hchain hm
    obtain ⟨leaf, intermediates, hleaf, hoths, rfl⟩ := List.forall₂_cons_left_iff.mp hchain
    -- The entries carry the chain, and none of their extensions is an attestation.
    have hes : checkEntries prim (some r) policy' (certificateEntries (leafDER :: others) exts)
        = .ok (leaf, intermediates, none) :=
      checkEntries_certificateEntries
        (validateCertificateEntryExtensions_some.trans hprep.extensions) hexts hleaf hoths
    have hchd : CheckedMessages prim (some r) policy' authBytes keys reqBytes offered m leaf
        intermediates none :=
      hm.checked hcorrect hes (signatureSchemes_ne_nil hschs) (hkey priv leaf hpriv rfl)
    refine .inr ⟨r.context, leaf, intermediates, none, checkAuthenticator_eq_full_iff.mpr
      ⟨keys, reqBytes, offered, m, hprep.keys, hprep.request, hchd, ?_⟩, rfl, hunu, rfl⟩
    rw [hm.certMessage]

/-- The certificate `[9]` with its key. -/
def sampleIdentity : Identity := ⟨[[9]], some (.ecdsa "P-256" [9])⟩

/-- The sample identity answers the sample request, and is recognised. -/
theorem created_authenticator_accepted_sample :
    ∃ authBytes, (createAuthenticator samplePrimitives sampleSigner none (connectionWith 7)
        roleServer (some sampleRequest) none sampleIdentity []).1 = .ok authBytes ∧
      (validateAuthenticator samplePrimitives { session := some {} } (connectionWith 7) roleServer
        (some sampleRequest) none none authBytes).1
        = .ok (expectedResult [1] [⟨[9], [9], .ecdsa [9]⟩]) := by
  have hok : (createAuthenticator samplePrimitives sampleSigner none (connectionWith 7)
      roleServer (some sampleRequest) none sampleIdentity []).1.toOption.isSome = true := by
    decide +kernel
  cases hcr : (createAuthenticator samplePrimitives sampleSigner none (connectionWith 7)
      roleServer (some sampleRequest) none sampleIdentity []).1 with
  | error e =>
    rw [hcr] at hok
    cases hok
  | ok authBytes =>
    refine ⟨authBytes, rfl, ?_⟩
    refine created_authenticator_accepted samplePrimitives sampleSigner sampleSigner_correct none _ _
      sampleRequest none none sampleIdentity [⟨[9], [9], .ecdsa [9]⟩] [] authBytes ?_ ?_ ?_ hcr
    · exact .cons rfl .nil
    · intro priv leaf hpriv hleaf
      cases hpriv
      cases hleaf
      rfl
    · simp

end SecureBinding.EA
