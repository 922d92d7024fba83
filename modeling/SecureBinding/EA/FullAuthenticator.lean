import SecureBinding.EA.AuthenticatorSound
import SecureBinding.EA.CodecSound

/-!
# EA.FullAuthenticator

What an accepted authenticator with a certificate chain consists of.

`FullAuthenticator` lists what the messages of an authenticator have to satisfy, over the
bytes that were received. It says nothing about reading messages: the codec inverses turn
the checks on messages that were read and written again into statements about those bytes.
-/

namespace SecureBinding.EA

open Go Go.Crypto Lib

variable {V : Type} {prim : Primitives V} {st : Tls.ConnectionState} {role : Role}
  {r : AuthenticatorRequest} {policy : Option SpontaneousAuthenticatorPolicy}
  {authBytes : Bytes}

/-! ### Signatures -/

/-- What a CertificateVerify message signs: 64 spaces, a fixed text, a zero and the hash of the
transcript. -/
def signedText (transcriptHash : Bytes) : Bytes :=
  List.replicate 64 0x20 ++ lit "Exported Authenticator" ++ 0x00 :: transcriptHash

/-- The signature of a CertificateVerify message is good under a key: the scheme is one for
keys of that type, and the signed text is built from the transcript hash. -/
inductive CertVerifySigned (prim : Primitives V) (transcriptHash signature : Bytes) :
    PublicKey → UInt16 → Prop
  | ecdsa {k : Bytes}
      (h : prim.verifyASN1 k (prim.sum .sha256 (signedText transcriptHash)) signature = true) :
      CertVerifySigned prim transcriptHash signature (.ecdsa k) Tls.ecdsaWithP256AndSHA256
  | rsa {k : Bytes}
      (h : prim.verifyPSS k (prim.sum .sha256 (signedText transcriptHash)) signature = true) :
      CertVerifySigned prim transcriptHash signature (.rsa k) Tls.pssWithSHA256
  | ed25519 {k : Bytes}
      (h : prim.verifyEd25519 k (signedText transcriptHash) signature = true) :
      CertVerifySigned prim transcriptHash signature (.ed25519 k) Tls.ed25519

variable {u : Unit} {b : Bytes} {entries : List CertificateEntry}

theorem certVerifySigned_of_verify {pub : PublicKey} {scheme : UInt16}
    {transcriptHash signature : Bytes}
    (h : verifyCertVerify prim pub scheme transcriptHash signature = .ok u) :
    CertVerifySigned prim transcriptHash signature pub scheme := by
  have htext : buildCertVerifyInput transcriptHash = signedText transcriptHash := by
    rw [buildCertVerifyInput, List.append_assoc]
    rfl
  unfold verifyCertVerify at h
  rw [htext] at h
  split at h
  · rename_i hsch
    rw [hsch]
    cases pub with
    | ecdsa k => exact .ecdsa (ensure_ok_iff.mp h)
    | rsa k => cases h
    | ed25519 k => cases h
    | other k => cases h
  · split at h
    · rename_i hsch
      rw [hsch]
      cases pub with
      | ecdsa k => cases h
      | rsa k => exact .rsa (ensure_ok_iff.mp h)
      | ed25519 k => cases h
      | other k => cases h
    · split at h
      · rename_i hsch
        rw [hsch]
        cases pub with
        | ecdsa k => cases h
        | rsa k => cases h
        | ed25519 k => exact .ed25519 (ensure_ok_iff.mp h)
        | other k => cases h
      · cases h

/-! ### The messages -/

/-- The three messages of an authenticator and their bytes. -/
structure Messages where
  cert : CertificateMessage
  certVerify : CertificateVerifyMessage
  finished : FinishedMessage
  certBytes : Bytes
  cvBytes : Bytes
  finBytes : Bytes

/-- The entries of a certificate message are ones the request asked for. -/
structure OfferedEntries (r : AuthenticatorRequest) (entries : List CertificateEntry) : Prop where
  extensions : ∀ entry ∈ entries, ∀ e ∈ entry.extensions, ∃ offer ∈ r.extensions,
    offer.type = e.type
  placement : ∀ entry ∈ entries.tail, ∀ e ∈ entry.extensions, e.type ≠ cmwAttestationExtensionType

/-- The bytes are an authenticator with a certificate chain for a request, on a connection
with these keys. -/
structure FullAuthenticator (prim : Primitives V) (r : AuthenticatorRequest) (authBytes : Bytes)
    (keys : Keys) (reqBytes : Bytes) (m : Messages) (leaf : Certificate)
    (intermediates : List Certificate) : Prop where
  bytes : authBytes = m.certBytes ++ m.cvBytes ++ m.finBytes
  cert : m.cert.marshal = .ok m.certBytes
  certVerify : m.certVerify.marshal = .ok m.cvBytes
  finished : m.finished.marshal = .ok m.finBytes
  context : m.cert.context = r.context
  entries : OfferedEntries r m.cert.entries
  chain : List.Forall₂ (fun entry c => prim.parseCertificate entry.certDER = .ok c)
    m.cert.entries (leaf :: intermediates)
  offered : ∃ schemes, r.signatureSchemes = some schemes ∧ m.certVerify.algorithm ∈ schemes
  signed : CertVerifySigned prim
    (prim.sum keys.hash (keys.handshakeContext ++ reqBytes ++ m.certBytes))
    m.certVerify.signature leaf.publicKey m.certVerify.algorithm
  mac : m.finished.verifyData = prim.hmac keys.hash keys.finishedKey
    (prim.sum keys.hash (keys.handshakeContext ++ reqBytes ++ m.certBytes ++ m.cvBytes))

/-! ### The checks -/

theorem expectMessage_ok_iff {rest : Bytes} {type : UInt8} {err : Error} {hm : HandshakeMessage} :
    expectMessage b type err = .ok (hm, rest) ↔
      unmarshalHandshakeMessage b = .ok (hm, rest) ∧ hm.type = type := by
  unfold expectMessage
  cases unmarshalHandshakeMessage b with
  | error e => simp
  | ok p =>
    dsimp only
    constructor
    · intro h
      split at h
      · rename_i htype
        cases h
        exact ⟨rfl, htype⟩
      · cases h
    · rintro ⟨h, htype⟩
      cases h
      exact if_pos htype

theorem forall_of_placement (h : validateCMWAttestationPlacement entries = .ok u) :
    ∀ entry ∈ entries.tail, ∀ e ∈ entry.extensions, e.type ≠ cmwAttestationExtensionType := by
  unfold validateCMWAttestationPlacement at h
  split at h
  · cases h
  · rename_i hany
    intro entry hent e he heq
    apply hany
    rw [List.any_eq_true]
    exact ⟨entry, hent, List.any_eq_true.mpr ⟨e, he, by simpa using heq⟩⟩

theorem exists_offer_of_validate {exts : List Extension}
    (h : validateCertificateEntryExtensions exts (some r) policy = .ok u) :
    ∀ e ∈ exts, ∃ offer ∈ r.extensions, offer.type = e.type := by
  unfold validateCertificateEntryExtensions at h
  split at h
  · rename_i hall
    intro e he
    have hpermit := List.all_eq_true.mp hall e he
    simpa [permitsCertificateExtension, requestPermitsCertificateExtension] using hpermit
  · cases h

theorem parseEntry_ok_iff {e : CertificateEntry} {c : Certificate} :
    parseEntry prim e = .ok c ↔ prim.parseCertificate e.certDER = .ok c :=
  mapError_ok_iff

/-- What entries have to satisfy, and the chain they parse to. -/
theorem checkEntries_cons_ok_iff {req : Option AuthenticatorRequest} {first : CertificateEntry}
    {others : List CertificateEntry} {leaf : Certificate} {intermediates : List Certificate}
    {cmw : Option Bytes} :
    checkEntries prim req policy (first :: others) = .ok (leaf, intermediates, cmw) ↔
      validateCMWAttestationPlacement (first :: others) = .ok () ∧
      (∀ entry ∈ first :: others,
        validateCertificateEntryExtensions entry.extensions req policy = .ok ()) ∧
      extractCMWAttestationFromExtensions first.extensions = .ok cmw ∧
      (cmw = none ∨ permitsCertificateExtension req policy cmwAttestationExtensionType = true) ∧
      List.Forall₂ (fun entry c => prim.parseCertificate entry.certDER = .ok c) (first :: others)
        (leaf :: intermediates) := by
  simp only [checkEntries]
  constructor
  · intro h
    obtain ⟨_, hplc, h⟩ := bind_ok_iff.mp h
    obtain ⟨_, hexts, h⟩ := bind_ok_iff.mp h
    obtain ⟨cmw', hcmw, h⟩ := bind_ok_iff.mp h
    obtain ⟨_, hpermit, h⟩ := bind_ok_iff.mp h
    obtain ⟨leaf', hleaf, h⟩ := bind_ok_iff.mp h
    obtain ⟨intermediates', hoths, h⟩ := bind_ok_iff.mp h
    cases h
    simp only [mapM_ok_iff, parseEntry_ok_iff] at hoths
    exact ⟨hplc, forM_ok_iff.mp hexts, hcmw, ensure_ok_iff.mp hpermit,
      .cons (parseEntry_ok_iff.mp hleaf) hoths⟩
  · intro h
    obtain ⟨hplc, hexts, hcmw, hpermit, hch⟩ := h
    rw [List.forall₂_cons] at hch
    have hoths : others.mapM (parseEntry prim) = .ok intermediates := by
      simpa only [mapM_ok_iff, parseEntry_ok_iff] using hch.2
    simp only [bind_ok_iff, ensure_ok_iff, exists_const]
    exact ⟨(), hplc, (), forM_ok_iff.mpr hexts, cmw, hcmw, hpermit, leaf,
      parseEntry_ok_iff.mpr hch.1, intermediates, hoths, rfl⟩

theorem entries_ne_nil_of_checkEntries {req : Option AuthenticatorRequest}
    {res : Certificate × List Certificate × Option Bytes}
    (h : checkEntries prim req policy entries = .ok res) : entries ≠ [] := by
  intro hnil
  rw [hnil] at h
  cases h

/-- Entries that pass are ones the request asked for, and the chain is what they parse to. -/
theorem checkEntries_eq_ok {leaf : Certificate}
    {intermediates : List Certificate} {cmw : Option Bytes}
    (h : checkEntries prim (some r) policy entries = .ok (leaf, intermediates, cmw)) :
    OfferedEntries r entries ∧
      List.Forall₂ (fun entry c => prim.parseCertificate entry.certDER = .ok c) entries
        (leaf :: intermediates) := by
  obtain ⟨first, others, rfl⟩ := List.exists_cons_of_ne_nil (entries_ne_nil_of_checkEntries h)
  obtain ⟨hplc, hexts, -, -, hch⟩ := checkEntries_cons_ok_iff.mp h
  refine ⟨⟨?_, forall_of_placement hplc⟩, hch⟩
  intro entry hent
  exact exists_offer_of_validate (hexts entry hent)

/-! ### Reading an authenticator -/

theorem exists_message_of_cert {m : CertificateMessage} (h : m.marshal = .ok b) :
    ∃ hm : HandshakeMessage, hm.type = handshakeTypeCertificate ∧
      marshalHandshakeMessage hm = .ok b := by
  obtain ⟨-, list, -, hwr⟩ := CertificateMessage.marshal_ok_iff.mp h
  exact ⟨_, rfl, hwr⟩

theorem exists_message_of_certVerify {m : CertificateVerifyMessage} (h : m.marshal = .ok b) :
    ∃ hm : HandshakeMessage, hm.type = handshakeTypeCertificateVerify ∧
      marshalHandshakeMessage hm = .ok b := by
  obtain ⟨-, hwr⟩ := CertificateVerifyMessage.marshal_ok_iff.mp h
  exact ⟨_, rfl, hwr⟩

theorem exists_message_of_finished {m : FinishedMessage} (h : m.marshal = .ok b) :
    ∃ hm : HandshakeMessage, hm.type = handshakeTypeFinished ∧
      marshalHandshakeMessage hm = .ok b := by
  obtain ⟨-, hwr⟩ := ite_error_ok_iff.mp h
  exact ⟨_, rfl, hwr⟩

/-- What `validateAuthenticator` has found out about the messages of an authenticator when
it turns to the chain: they fill the bytes, and every check on them succeeded. -/
structure CheckedMessages (prim : Primitives V) (req : Option AuthenticatorRequest)
    (policy : Option SpontaneousAuthenticatorPolicy) (authBytes : Bytes) (keys : Keys)
    (reqBytes : Bytes) (offered : List UInt16) (m : Messages) (leaf : Certificate)
    (intermediates : List Certificate) (cmw : Option Bytes) : Prop where
  bytes : authBytes = m.certBytes ++ m.cvBytes ++ m.finBytes
  cert : m.cert.marshal = .ok m.certBytes
  certVerify : m.certVerify.marshal = .ok m.cvBytes
  finished : m.finished.marshal = .ok m.finBytes
  context : ∀ r, req = some r → m.cert.context = r.context
  entries : checkEntries prim req policy m.cert.entries = .ok (leaf, intermediates, cmw)
  offered : req = none ∨ m.certVerify.algorithm ∈ offered
  signed : verifyCertVerify prim leaf.publicKey m.certVerify.algorithm
    (hashConcat prim keys.hash [keys.handshakeContext, reqBytes, m.certBytes])
    m.certVerify.signature = .ok ()
  mac : finishedMAC prim keys [reqBytes, m.certBytes, m.cvBytes] = m.finished.verifyData

section Checked

variable {req : Option AuthenticatorRequest} {keys : Keys} {reqBytes rest context : Bytes}
  {offered : List UInt16} {certHm : HandshakeMessage} {leaf : Certificate}
  {intermediates : List Certificate} {cmw : Option Bytes}

/-- The branch for Certificate accepts exactly the messages that pass. What is hashed and
signed are the bytes that were received, by the codec inverses. -/
theorem checkCertificate_eq_full_iff
    (hread : unmarshalHandshakeMessage authBytes = .ok (certHm, rest)) :
    checkCertificate prim keys req policy reqBytes offered certHm rest
        = .ok (.full context leaf intermediates cmw) ↔
      ∃ m, CheckedMessages prim req policy authBytes keys reqBytes offered m leaf intermediates cmw
        ∧ context = m.cert.context := by
  unfold checkCertificate
  constructor
  · intro h
    obtain ⟨⟨cvHm, rest₁⟩, hcv, h⟩ := bind_ok_iff.mp h
    obtain ⟨⟨finHm, rest₂⟩, hfin, h⟩ := bind_ok_iff.mp h
    obtain ⟨_, hrest, h⟩ := bind_ok_iff.mp h
    obtain ⟨⟨certMsg, _⟩, hcertMsg, h⟩ := bind_ok_iff.mp h
    obtain ⟨⟨cvMsg, _⟩, hcvMsg, h⟩ := bind_ok_iff.mp h
    obtain ⟨⟨finMsg, _⟩, hfinMsg, h⟩ := bind_ok_iff.mp h
    obtain ⟨_, hctx, h⟩ := bind_ok_iff.mp h
    obtain ⟨⟨leaf', intermediates', cmw'⟩, hes, h⟩ := bind_ok_iff.mp h
    obtain ⟨_, halg, h⟩ := bind_ok_iff.mp h
    obtain ⟨_, hsig, h⟩ := bind_ok_iff.mp h
    obtain ⟨_, hmac, h⟩ := bind_ok_iff.mp h
    cases h
    obtain ⟨hby, -⟩ := unmarshal_rawHandshakeMessage hread
    obtain ⟨hby₁, -⟩ := unmarshal_rawHandshakeMessage (expectMessage_ok_iff.mp hcv).1
    obtain ⟨hby₂, -⟩ := unmarshal_rawHandshakeMessage (expectMessage_ok_iff.mp hfin).1
    obtain rfl := ensure_ok_iff.mp hrest
    refine ⟨⟨certMsg, cvMsg, finMsg, rawHandshakeMessage certHm, rawHandshakeMessage cvHm,
      rawHandshakeMessage finHm⟩, ?_, rfl⟩
    refine ⟨?_, (unmarshalCertificateMessage_ok_iff.mp hcertMsg).1,
      (unmarshalCertificateVerifyMessage_ok_iff.mp hcvMsg).1,
      (unmarshalFinishedMessage_ok_iff.mp hfinMsg).1, ensure_ok_iff.mp hctx, hes,
      ensure_ok_iff.mp halg, hsig, ensure_ok_iff.mp hmac⟩
    rw [hby, hby₁, hby₂, List.append_nil, List.append_assoc]
  · intro h
    obtain ⟨m, hm, rfl⟩ := h
    obtain ⟨hm₀, htype₀, hwr₀⟩ := exists_message_of_cert hm.cert
    obtain ⟨hm₁, htype₁, hwr₁⟩ := exists_message_of_certVerify hm.certVerify
    obtain ⟨hm₂, htype₂, hwr₂⟩ := exists_message_of_finished hm.finished
    -- The first message is the one that was read, so the rest are the other two.
    rw [hm.bytes, List.append_assoc, unmarshalHandshakeMessage_ok_iff.mpr
      ⟨m.certBytes, hwr₀, rfl⟩] at hread
    cases hread
    have hcv : expectMessage (m.cvBytes ++ m.finBytes) handshakeTypeCertificateVerify
        .unsupportedHandshakeType = .ok (hm₁, m.finBytes) :=
      expectMessage_ok_iff.mpr
        ⟨unmarshalHandshakeMessage_ok_iff.mpr ⟨_, hwr₁, rfl⟩, htype₁⟩
    have hfin : expectMessage m.finBytes handshakeTypeFinished .invalidLength = .ok (hm₂, []) :=
      expectMessage_ok_iff.mpr ⟨unmarshalHandshakeMessage_nil_iff.mpr hwr₂, htype₂⟩
    simp only [bind_ok_iff, ensure_ok_iff, Prod.exists, exists_const]
    refine ⟨hm₁, m.finBytes, hcv, hm₂, [], hfin, rfl, ?_⟩
    rw [rawHandshakeMessage_of_marshal hwr₀, rawHandshakeMessage_of_marshal hwr₁,
      rawHandshakeMessage_of_marshal hwr₂]
    exact ⟨m.cert, m.certBytes, unmarshalCertificateMessage_ok_iff.mpr ⟨hm.cert, rfl⟩,
      m.certVerify, m.cvBytes, unmarshalCertificateVerifyMessage_ok_iff.mpr ⟨hm.certVerify, rfl⟩,
      m.finished, m.finBytes, unmarshalFinishedMessage_ok_iff.mpr ⟨hm.finished, rfl⟩,
      hm.context, leaf, intermediates, cmw, hm.entries, hm.offered, (), hm.signed, hm.mac, rfl⟩

theorem checkAuthenticator_eq_full_iff :
    checkAuthenticator prim st role req policy authBytes
        = .ok (.full context leaf intermediates cmw) ↔
      ∃ keys reqBytes offered m, exportKeys st role = .ok keys ∧
        requestBytes req = .ok (reqBytes, offered) ∧
        CheckedMessages prim req policy authBytes keys reqBytes offered m leaf intermediates cmw ∧
        context = m.cert.context := by
  constructor
  · intro h
    obtain ⟨keys, hkeys, h⟩ := bind_ok_iff.mp h
    obtain ⟨⟨reqBytes, offered⟩, hreq, h⟩ := bind_ok_iff.mp h
    obtain ⟨⟨hm, rest⟩, hread, h⟩ := bind_ok_iff.mp h
    dsimp only at h
    split at h
    · obtain ⟨_, _, _, hemp, -⟩ := (checkEmpty_ok_iff hread).mp h
      cases hemp
    · split at h
      · obtain ⟨m, hm, hctx⟩ := (checkCertificate_eq_full_iff hread).mp h
        exact ⟨keys, reqBytes, offered, m, hkeys, hreq, hm, hctx⟩
      · cases h
  · intro h
    obtain ⟨keys, reqBytes, offered, m, hkeys, hreq, hm, hctx⟩ := h
    obtain ⟨hm₀, htype, hwr⟩ := exists_message_of_cert hm.cert
    have hread : unmarshalHandshakeMessage authBytes = .ok (hm₀, m.cvBytes ++ m.finBytes) :=
      unmarshalHandshakeMessage_ok_iff.mpr
        ⟨m.certBytes, hwr, by rw [hm.bytes, List.append_assoc]⟩
    unfold checkAuthenticator
    rw [hkeys, ok_bind, hreq, ok_bind]
    dsimp only
    rw [hread, ok_bind]
    rw [if_neg (by rw [htype]; decide), if_pos htype]
    exact (checkCertificate_eq_full_iff hread).mpr ⟨m, hm, hctx⟩

/-- An answer to a request that passes is an authenticator for it. -/
theorem CheckedMessages.fullAuthenticator {m : Messages} (hoff : r.signatureSchemes = some offered)
    (h : CheckedMessages prim (some r) policy authBytes keys reqBytes offered m leaf intermediates
      cmw) : FullAuthenticator prim r authBytes keys reqBytes m leaf intermediates := by
  obtain ⟨hofs, hch⟩ := checkEntries_eq_ok h.entries
  refine ⟨h.bytes, h.cert, h.certVerify, h.finished, h.context r rfl, hofs, hch,
    ⟨offered, hoff, ?_⟩, ?_, ?_⟩
  · simpa using h.offered
  · simpa [hashConcat] using certVerifySigned_of_verify h.signed
  · simpa [finishedMAC, hashConcat] using h.mac.symm

end Checked

theorem fullAuthenticator_of_checkAuthenticator {context : Bytes} {leaf : Certificate}
    {intermediates : List Certificate} {cmw : Option Bytes}
    (h : checkAuthenticator prim st role (some r) policy authBytes
      = .ok (.full context leaf intermediates cmw)) :
    context = r.context ∧ ∃ keys reqBytes m, exportKeys st role = .ok keys ∧
      r.marshal = .ok reqBytes ∧
      FullAuthenticator prim r authBytes keys reqBytes m leaf intermediates := by
  obtain ⟨keys, reqBytes, offered, m, hkeys, hreq, hm, rfl⟩ := checkAuthenticator_eq_full_iff.mp h
  obtain ⟨hmar, hoff⟩ := requestBytes_some_ok_iff.mp hreq
  exact ⟨hm.context r rfl, keys, reqBytes, m, hkeys, hmar, hm.fullAuthenticator hoff⟩

/-! ### Acceptance -/

/-- **Soundness.** An authenticator that is accepted with a result that is not the empty one
is a Certificate, a CertificateVerify and a Finished message for the request, over the
exporters of the connection; and with options the leaf of its chain was verified. -/
theorem full_authenticator_sound (prim : Primitives V) (s : State V) (st : Tls.ConnectionState)
    (role : Role) (r : AuthenticatorRequest) (policy : Option SpontaneousAuthenticatorPolicy)
    (attPolicy : Option EAAttestation.VerificationPolicy) (authBytes : Bytes)
    (res : ValidationResult)
    (h : (validateAuthenticator prim s st role (some r) policy attPolicy authBytes).1 = .ok res)
    (hfull : res.empty = false) :
    ∃ keys reqBytes m leaf intermediates, exportKeys st role = .ok keys ∧ r.marshal = .ok reqBytes ∧
      FullAuthenticator prim r authBytes keys reqBytes m leaf intermediates ∧
      res.chain = leaf :: intermediates ∧ res.context = r.context ∧
      ∀ opts, s.verifyOpts = some opts →
        prim.verifyCertificate opts.settings (poolWith opts intermediates) leaf = .ok () := by
  obtain ⟨_, _, _, _, rfl⟩ | ⟨context, leaf, intermediates, cmw, hchk, hleaf, -, hats⟩ :=
    validateAuthenticator_ok_iff.mp h
  · cases hfull
  · obtain ⟨rfl, keys, reqBytes, m, hkeys, hmar, hauth⟩ :=
      fullAuthenticator_of_checkAuthenticator hchk
    obtain ⟨hctx, hch, -, -⟩ := attest_eq_ok hats
    refine ⟨keys, reqBytes, m, leaf, intermediates, hkeys, hmar, hauth, hch, hctx, ?_⟩
    intro opts hopts
    rw [hopts] at hleaf
    exact mapError_ok_iff.mp hleaf

/-- The sample authenticator, with its chain verified, is accepted and consists of the three
messages. -/
theorem full_authenticator_sound_sample :
    ∃ res : ValidationResult,
      (validateAuthenticator samplePrimitives { verifyOpts := some ⟨(), none⟩ } (connectionWith 7)
        roleServer (some sampleRequest) none (some samplePolicy)
        (sampleAuthenticator 7 (some sampleCMW))).1 = .ok res ∧ res.empty = false ∧
      ∃ keys reqBytes m leaf intermediates,
        FullAuthenticator samplePrimitives sampleRequest (sampleAuthenticator 7 (some sampleCMW))
          keys reqBytes m leaf intermediates ∧ res.chain = leaf :: intermediates := by
  have hch : ((validateAuthenticator samplePrimitives { verifyOpts := some ⟨(), none⟩ }
      (connectionWith 7) roleServer (some sampleRequest) none (some samplePolicy)
      (sampleAuthenticator 7 (some sampleCMW))).1.toOption.any fun res => !res.empty) = true := by
    decide +kernel
  cases hres : (validateAuthenticator samplePrimitives { verifyOpts := some ⟨(), none⟩ }
      (connectionWith 7) roleServer (some sampleRequest) none (some samplePolicy)
      (sampleAuthenticator 7 (some sampleCMW))).1 with
  | error e =>
    rw [hres] at hch
    cases hch
  | ok res =>
    rw [hres] at hch
    have hfull : res.empty = false := by simpa [Except.toOption] using hch
    obtain ⟨keys, reqBytes, m, leaf, intermediates, -, -, hauth, hres', -, -⟩ :=
      full_authenticator_sound samplePrimitives _ _ _ _ _ _ _ res hres hfull
    exact ⟨res, rfl, hfull, keys, reqBytes, m, leaf, intermediates, hauth, hres'⟩

end SecureBinding.EA
