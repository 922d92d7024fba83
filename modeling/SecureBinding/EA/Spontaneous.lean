import SecureBinding.EA.Transcript

/-!
# EA.Spontaneous

Authenticators without a request, and the policy for them.

`createAuthenticator` demands the role of the server and a signature scheme the policy
permits. `validateAuthenticator` checks the extensions against the policy and neither of the
other two, so it accepts more than can be created.
-/

namespace SecureBinding.EA

open Go Go.Crypto Lib

variable {V : Type} {prim : Primitives V} {s : State V} {st : Tls.ConnectionState} {role : Role}
  {policy : Option SpontaneousAuthenticatorPolicy}
  {attPolicy : Option EAAttestation.VerificationPolicy} {authBytes : Bytes} {m m' : Messages}

/-! ### The messages of an authenticator -/

structure ConsistsOf (authBytes : Bytes) (m : Messages) : Prop where
  bytes : authBytes = m.certBytes ++ m.cvBytes ++ m.finBytes
  cert : m.cert.marshal = .ok m.certBytes
  certVerify : m.certVerify.marshal = .ok m.cvBytes
  finished : m.finished.marshal = .ok m.finBytes

theorem ConsistsOf.unique (h : ConsistsOf authBytes m) (h' : ConsistsOf authBytes m') : m = m' := by
  have heq := h.bytes.symm.trans h'.bytes
  rw [List.append_assoc, List.append_assoc] at heq
  obtain ⟨hcert, hcertBytes, heq⟩ := cert_append_inj h.cert h'.cert heq
  obtain ⟨hcv, hcvBytes, heq⟩ := certVerify_append_inj h.certVerify h'.certVerify heq
  have hfin' := h'.finished
  rw [← heq] at hfin'
  have hfin := (InverseWhole.of_read_iff unmarshalFinishedMessage_ok_iff).write_inj h.finished hfin'
  cases m
  simp_all

/-- The bytes keep to the policy for authenticators without a request. -/
def Obeys (role : Role) (policy : Option SpontaneousAuthenticatorPolicy) (authBytes : Bytes) :
    Prop :=
  role = roleServer ∧ ∃ m, ConsistsOf authBytes m ∧
    policyPermitsSignatureScheme policy m.certVerify.algorithm = true ∧
    ∀ entry ∈ m.cert.entries, ∀ e ∈ entry.extensions,
      policyPermitsCertificateExtension policy e.type = true

/-! ### What is accepted -/

/-- `validateAuthenticator` accepts the bytes without a request. -/
def AcceptedSpontaneous (prim : Primitives V) (s : State V) (st : Tls.ConnectionState)
    (role : Role) (policy : Option SpontaneousAuthenticatorPolicy)
    (attPolicy : Option EAAttestation.VerificationPolicy) (authBytes : Bytes) : Prop :=
  ∃ res, (validateAuthenticator prim s st role none policy attPolicy authBytes).1 = .ok res

theorem AcceptedSpontaneous.checked
    (h : AcceptedSpontaneous prim s st role policy attPolicy authBytes) :
    ∃ keys m leaf intermediates cmw, exportKeys st role = .ok keys ∧
      CheckedMessages prim none policy authBytes keys [] [] m leaf intermediates cmw := by
  obtain ⟨res, hres⟩ := h
  obtain ⟨r, hr, -⟩ | ⟨context, leaf, intermediates, cmw, hchk, -⟩ :=
    validateAuthenticator_ok_iff.mp hres
  · cases hr
  · obtain ⟨keys, reqBytes, offered, m, hkeys, hreq, hm, -⟩ :=
      checkAuthenticator_eq_full_iff.mp hchk
    cases hreq
    exact ⟨keys, m, leaf, intermediates, cmw, hkeys, hm⟩

section Checked

variable {req : Option AuthenticatorRequest} {keys : Keys} {reqBytes : Bytes}
  {offered : List UInt16} {leaf : Certificate} {intermediates : List Certificate}
  {cmw : Option Bytes}

theorem CheckedMessages.consistsOf
    (h : CheckedMessages prim req policy authBytes keys reqBytes offered m leaf intermediates cmw) :
    ConsistsOf authBytes m :=
  ⟨h.bytes, h.cert, h.certVerify, h.finished⟩

theorem CheckedMessages.validated
    (h : CheckedMessages prim req policy authBytes keys reqBytes offered m leaf intermediates cmw) :
    ∀ entry ∈ m.cert.entries,
      validateCertificateEntryExtensions entry.extensions req policy = .ok () := by
  obtain ⟨first, others, heq⟩ :=
    List.exists_cons_of_ne_nil (entries_ne_nil_of_checkEntries h.entries)
  have hes := h.entries
  rw [heq] at hes ⊢
  exact (checkEntries_cons_ok_iff.mp hes).2.1

/-- A signature that verifies is made with one of the three schemes. -/
theorem CheckedMessages.supported
    (h : CheckedMessages prim req policy authBytes keys reqBytes offered m leaf intermediates cmw) :
    (signatureSchemeInfo m.certVerify.algorithm).isOk = true := by
  have hsig := certVerifySigned_of_verify h.signed
  generalize leaf.publicKey = pub at hsig
  generalize m.certVerify.algorithm = scheme at hsig ⊢
  cases hsig <;> rfl

end Checked

theorem permitted_of_validate {exts : List Extension}
    (h : validateCertificateEntryExtensions exts none policy = .ok ()) :
    ∀ e ∈ exts, policyPermitsCertificateExtension policy e.type = true := by
  unfold validateCertificateEntryExtensions at h
  split at h
  · rename_i hall
    exact fun e he => List.all_eq_true.mp hall e he
  · cases h

theorem AcceptedSpontaneous.obeys_of
    (h : AcceptedSpontaneous prim s st role policy attPolicy authBytes) (hrole : role = roleServer)
    (hschs : ∀ scheme, (signatureSchemeInfo scheme).isOk = true →
      policyPermitsSignatureScheme policy scheme = true) :
    Obeys role policy authBytes := by
  obtain ⟨keys, m, leaf, intermediates, cmw, -, hm⟩ := h.checked
  refine ⟨hrole, m, hm.consistsOf, hschs _ hm.supported, ?_⟩
  intro entry hent
  exact permitted_of_validate (hm.validated entry hent)

/-! ### An accepted authenticator for every scheme -/

/-- The number of the kind of key that signs with a scheme. -/
def keyTag (scheme : UInt16) : UInt8 :=
  if scheme = Tls.ecdsaWithP256AndSHA256 then 1 else if scheme = Tls.pssWithSHA256 then 2 else 3

/-- The sample primitives with certificates whose first byte tells the kind of key. -/
def taggedPrimitives : Primitives Unit :=
  { samplePrimitives with
    parseCertificate := fun der =>
      .ok ⟨der, der, if der = [1] then .ecdsa der else if der = [2] then .rsa der else .ed25519 der⟩ }

/-- What `connectionWith 7` exports. -/
def sampleKeys : Keys := ⟨.sha256, List.replicate 32 7, List.replicate 32 7⟩

/-- The messages of an authenticator without a request that is signed with a scheme. -/
def spontaneousMessages (scheme : UInt16) : Messages :=
  let cert : CertificateMessage := ⟨[4], [⟨[keyTag scheme], []⟩]⟩
  let certBytes := written cert.marshal
  let msg := buildCertVerifyInput
    (hashConcat taggedPrimitives .sha256 [sampleKeys.handshakeContext, [], certBytes])
  let certVerify : CertificateVerifyMessage := ⟨scheme,
    keyTag scheme :: if scheme = Tls.ed25519 then msg else taggedPrimitives.sha256 msg⟩
  let cvBytes := written certVerify.marshal
  let finished : FinishedMessage :=
    ⟨finishedMAC taggedPrimitives sampleKeys [[], certBytes, cvBytes]⟩
  ⟨cert, certVerify, finished, certBytes, cvBytes, written finished.marshal⟩

/-- The bytes of `spontaneousMessages`. -/
def spontaneousAuthenticator (scheme : UInt16) : Bytes :=
  let m := spontaneousMessages scheme
  m.certBytes ++ m.cvBytes ++ m.finBytes

/-- The schemes there are. -/
theorem supported_iff {scheme : UInt16} : (signatureSchemeInfo scheme).isOk = true ↔
    scheme = Tls.ecdsaWithP256AndSHA256 ∨ scheme = Tls.pssWithSHA256 ∨ scheme = Tls.ed25519 := by
  constructor
  · intro h
    by_contra hnot
    rw [not_or, not_or] at hnot
    unfold signatureSchemeInfo at h
    rw [if_neg hnot.1, if_neg hnot.2.1, if_neg hnot.2.2] at h
    cases h
  · intro h
    obtain rfl | rfl | rfl := h <;> rfl

theorem eq_ok_written {x : Except Error Bytes} (h : x.isOk = true) : x = .ok (written x) := by
  cases x with
  | error e => cases h
  | ok b => rfl

theorem consistsOf_spontaneous {scheme : UInt16} (h : (signatureSchemeInfo scheme).isOk = true) :
    ConsistsOf (spontaneousAuthenticator scheme) (spontaneousMessages scheme) := by
  have hmac : (spontaneousMessages scheme).finished.verifyData.length = 32 :=
    taggedPrimitives.length_hmac _ _ _
  have hfin := @FinishedMessage.marshal_of_le (spontaneousMessages scheme).finished (by omega)
    (by omega)
  refine ⟨rfl, ?_, ?_, eq_ok_written (by rw [hfin]; rfl)⟩
  · obtain rfl | rfl | rfl := supported_iff.mp h <;> exact eq_ok_written (by decide)
  · have hok : (spontaneousMessages scheme).certVerify.marshal.isOk = true := by
      obtain rfl | rfl | rfl := supported_iff.mp h <;> decide +kernel
    exact eq_ok_written hok

theorem verifyCertVerify_tagged {scheme : UInt16} (h : (signatureSchemeInfo scheme).isOk = true) :
    verifyCertVerify taggedPrimitives
      (if [keyTag scheme] = [1] then .ecdsa [keyTag scheme]
        else if [keyTag scheme] = [2] then .rsa [keyTag scheme] else .ed25519 [keyTag scheme])
      scheme (hashConcat taggedPrimitives .sha256
        [sampleKeys.handshakeContext, [], (spontaneousMessages scheme).certBytes])
      (spontaneousMessages scheme).certVerify.signature = .ok () := by
  obtain rfl | rfl | rfl := supported_iff.mp h <;> decide +kernel

/-- Neither the role nor the scheme matters to validation. -/
theorem accepted_spontaneous {scheme : UInt16} (h : (signatureSchemeInfo scheme).isOk = true) :
    AcceptedSpontaneous taggedPrimitives {} (connectionWith 7) role policy none
      (spontaneousAuthenticator scheme) := by
  have hm := consistsOf_spontaneous h
  refine ⟨_, validateAuthenticator_ok_iff.mpr (.inr ⟨_, _, _, none,
    checkAuthenticator_eq_full_iff.mpr ⟨sampleKeys, [], [], spontaneousMessages scheme, rfl, rfl,
      ⟨hm.bytes, hm.cert, hm.certVerify, hm.finished, ?_, rfl, .inl rfl, ?_, rfl⟩, rfl⟩, rfl, ?_,
    rfl⟩)⟩
  · intro r hr
    cases hr
  · exact verifyCertVerify_tagged h
  · intro session hses
    cases hses

/-! ### What can be created -/

/-- The bytes can be created, with some identity whose key signs as it should. -/
def Producible (prim : Primitives V) (st : Tls.ConnectionState) (role : Role)
    (policy : Option SpontaneousAuthenticatorPolicy) (authBytes : Bytes) : Prop :=
  ∃ (signer : Signer) (session : Option Session) (identity : Identity) (exts : List Extension),
    signer.Correct prim ∧
      (createAuthenticator prim signer session st role none policy identity exts).1 = .ok authBytes

/-- The context of the messages can be drawn, and there is a key that signs them with the
scheme that is chosen for it. -/
def Signable (prim : Primitives V) (keys : Keys) (m : Messages) : Prop :=
  ∃ (signer : Signer) (priv : PrivateKey), signer.Correct prim ∧
    signer.read 32 = .ok m.cert.context ∧
    chooseSignatureScheme priv [] = .ok m.certVerify.algorithm ∧
    signCertVerify prim signer priv m.certVerify.algorithm
      (hashConcat prim keys.hash [keys.handshakeContext, [], m.certBytes])
      = .ok m.certVerify.signature

theorem createContext_none_ok_iff {signer : Signer} {ctx : Bytes} :
    createContext signer none = .ok ctx ↔ signer.read 32 = .ok ctx := by
  show newRandomContext signer 32 = .ok ctx ↔ _
  unfold newRandomContext
  rw [if_neg (by omega), mapError_ok_iff]
  rfl

theorem version_of_exportKeys {keys : Keys} (h : exportKeys st role = .ok keys) :
    st.version = Tls.versionTLS13 := by
  obtain ⟨_, hvsn, -⟩ := bind_ok_iff.mp h
  exact ensure_ok_iff.mp hvsn

/-- Only the first of the entries that are created has extensions. -/
theorem extensions_of_mem_tail {chain : List Bytes} {exts : List Extension} :
    ∀ entry ∈ (certificateEntries chain exts).tail, entry.extensions = [] := by
  intro entry hent
  cases chain with
  | nil => cases hent
  | cons der others =>
    obtain ⟨_, -, rfl⟩ := List.mem_map.mp hent
    rfl

/-- Entries of which only the first has extensions are those of their chain. -/
theorem certificateEntries_of_tail {first : CertificateEntry} {others : List CertificateEntry}
    (h : ∀ entry ∈ others, entry.extensions = []) :
    certificateEntries ((first :: others).map CertificateEntry.certDER) first.extensions
      = first :: others := by
  show first :: ((others.map CertificateEntry.certDER).map fun der => ⟨der, []⟩) = first :: others
  rw [List.map_map, List.cons_inj_right]
  refine (List.map_congr_left ?_).trans (List.map_id others)
  intro entry hent
  show (⟨entry.certDER, []⟩ : CertificateEntry) = entry
  rw [← h entry hent]

theorem producible_iff {keys : Keys}
    (h : AcceptedSpontaneous prim s st role policy attPolicy authBytes)
    (hkeys : exportKeys st role = .ok keys) (hm : ConsistsOf authBytes m) :
    Producible prim st role policy authBytes ↔
      role = roleServer ∧ policyPermitsSignatureScheme policy m.certVerify.algorithm = true ∧
      (∀ entry ∈ m.cert.entries.tail, entry.extensions = []) ∧ Signable prim keys m := by
  constructor
  · intro hprod
    obtain ⟨signer, session, identity, exts, hcor, hcr⟩ := hprod
    obtain ⟨ctx, hbld, -⟩ := createAuthenticator_fst_ok_iff.mp hcr
    obtain ⟨keys', reqBytes, offered, hprep, hcase⟩ := buildAuthenticator_ok_iff.mp hbld
    have hreq := hprep.request
    cases hreq
    have hkeys' := hprep.keys
    rw [hkeys] at hkeys'
    cases hkeys'
    -- An empty authenticator answers a request, and there is none.
    obtain ⟨-, hemp⟩ | ⟨priv, m', -, hm'⟩ := hcase
    · obtain ⟨hsome, -⟩ := createEmpty_ok_iff.mp hemp
      cases hsome
    · obtain rfl : m = m' := hm.unique ⟨hm'.bytes, hm'.cert, hm'.certVerify, hm'.finished⟩
      refine ⟨by simpa using hprep.mayCreate, by simpa using hm'.permitted, ?_, signer, priv, hcor,
        ?_, hm'.chosen, hm'.signed⟩
      · rw [hm'.certMessage]
        exact extensions_of_mem_tail
      · rw [hm'.certMessage]
        exact createContext_none_ok_iff.mp hprep.context
  · intro hcond
    obtain ⟨hrole, hper, htail, signer, priv, hcor, hread, hchosen, hsig⟩ := hcond
    obtain ⟨keys', m', leaf, intermediates, cmw, hkeys', hchd⟩ := h.checked
    rw [hkeys] at hkeys'
    cases hkeys'
    obtain rfl : m = m' := hm.unique hchd.consistsOf
    obtain ⟨first, others, heq⟩ :=
      List.exists_cons_of_ne_nil (entries_ne_nil_of_checkEntries hchd.entries)
    have hval := hchd.validated first (by rw [heq]; exact List.mem_cons_self)
    rw [heq] at htail
    -- The identity is read off the messages: its chain is that of the entries.
    refine ⟨signer, none, ⟨m.cert.entries.map CertificateEntry.certDER, some priv⟩, first.extensions,
      hcor, createAuthenticator_fst_ok_iff.mpr ⟨m.cert.context,
      buildAuthenticator_ok_iff.mpr ⟨keys, [], [], ?_, .inr ⟨priv, m, rfl, ?_⟩⟩, ?_⟩⟩
    · exact ⟨version_of_exportKeys hkeys, .inr hrole, hval, by rw [heq]; simp, rfl,
        createContext_none_ok_iff.mpr hread, hkeys⟩
    · refine ⟨hm.bytes, ?_, hm.cert, hm.certVerify, hm.finished, hchosen, .inr hper, hsig, hchd.mac⟩
      have hes : certificateEntries (m.cert.entries.map CertificateEntry.certDER)
          first.extensions = m.cert.entries := by
        rw [heq]
        exact certificateEntries_of_tail htail
      show m.cert = ⟨m.cert.context, certificateEntries (m.cert.entries.map _) first.extensions⟩
      rw [hes]
    · intro session hses
      cases hses

/-- Validation keeps to the policy for a role and a policy exactly if there is nothing to
keep to beside the extensions: the role is that of the server, and every scheme is
permitted. What is accepted can then be created, if in addition the context is one that is
drawn, only the leaf has extensions, and there is a key for the signature. -/
theorem spontaneous_obeys_policy_iff (role : Role)
    (policy : Option SpontaneousAuthenticatorPolicy) :
    ((∀ (V : Type) (prim : Primitives V) (s : State V) (st : Tls.ConnectionState)
        (attPolicy : Option EAAttestation.VerificationPolicy) (authBytes : Bytes),
        AcceptedSpontaneous prim s st role policy attPolicy authBytes →
        Obeys role policy authBytes) ↔
      role = roleServer ∧ ∀ scheme, (signatureSchemeInfo scheme).isOk = true →
        policyPermitsSignatureScheme policy scheme = true) ∧
    ∀ (V : Type) (prim : Primitives V) (s : State V) (st : Tls.ConnectionState)
      (attPolicy : Option EAAttestation.VerificationPolicy) (authBytes : Bytes) (keys : Keys)
      (m : Messages), AcceptedSpontaneous prim s st role policy attPolicy authBytes →
      exportKeys st role = .ok keys → ConsistsOf authBytes m →
      (Producible prim st role policy authBytes ↔
        role = roleServer ∧ policyPermitsSignatureScheme policy m.certVerify.algorithm = true ∧
        (∀ entry ∈ m.cert.entries.tail, entry.extensions = []) ∧ Signable prim keys m) := by
  refine ⟨⟨?_, ?_⟩, ?_⟩
  · intro hall
    have hobeys : ∀ scheme, (signatureSchemeInfo scheme).isOk = true →
        Obeys role policy (spontaneousAuthenticator scheme) := fun scheme hsch =>
      hall Unit _ _ _ _ _ (accepted_spontaneous hsch)
    refine ⟨(hobeys Tls.ed25519 rfl).1, ?_⟩
    intro scheme hsch
    obtain ⟨-, m, hm, hper, -⟩ := hobeys scheme hsch
    rw [hm.unique (consistsOf_spontaneous hsch)] at hper
    exact hper
  · intro hcond V prim s st attPolicy authBytes hacc
    exact hacc.obeys_of hcond.1 hcond.2
  · intro V prim s st attPolicy authBytes keys m hacc hkeys hm
    exact producible_iff hacc hkeys hm

def ed25519Only : SpontaneousAuthenticatorPolicy := { allowedSignatureSchemes := [Tls.ed25519] }

/-- An authenticator without a request is accepted in the role of the client, and one that is
signed with ECDSA under a policy that does not permit it. Neither is created. -/
theorem spontaneous_accepted_against_policy :
    (validateAuthenticator taggedPrimitives {} (connectionWith 7) roleClient none none none
        (spontaneousAuthenticator Tls.ecdsaWithP256AndSHA256)).1.isOk = true ∧
      (createAuthenticator taggedPrimitives sampleSigner none (connectionWith 7) roleClient none none
        sampleIdentity []).1 = .error (.ea .invalidRole) ∧
      (validateAuthenticator taggedPrimitives {} (connectionWith 7) roleServer none
        (some ed25519Only) none (spontaneousAuthenticator Tls.ecdsaWithP256AndSHA256)).1.isOk = true ∧
      (createAuthenticator taggedPrimitives sampleSigner none (connectionWith 7) roleServer none
        (some ed25519Only) sampleIdentity []).1 = .error (.ea .unsupportedSignatureScheme) := by
  decide +kernel

end SecureBinding.EA
