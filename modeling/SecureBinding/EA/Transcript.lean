import SecureBinding.EA.Canonical
import SecureBinding.EA.Completeness

/-!
# EA.Transcript

The transcripts that authenticators hash can be told apart.

A transcript is hashed as its messages one after the other, with nothing in between. Every
message says how long it is, and its type says what it is, so the bytes determine the
messages. The second half of the module says that nothing but such transcripts is hashed:
another hash function that agrees on them does not change what is created or accepted.
-/

namespace SecureBinding.EA

open Go Go.Crypto Lib

/-! ### Transcripts -/

/-- The messages of a transcript. The handshake context comes from the exporter. -/
structure Transcript where
  handshakeContext : Bytes
  request : Option AuthenticatorRequest
  cert : CertificateMessage
  certVerify : Option CertificateVerifyMessage

/-- The bytes of the request: none if there is no request. -/
def requestChunk : Option AuthenticatorRequest → Except Error Bytes
  | none => .ok []
  | some r => r.marshal

/-- The chunks after the certificate message. -/
def certVerifyChunks : Option CertificateVerifyMessage → Except Error (List Bytes)
  | none => .ok []
  | some cv => cv.marshal.map fun b => [b]

/-- The arguments of `hashConcat`. -/
def Transcript.chunks (t : Transcript) : Except Error (List Bytes) := do
  let reqBytes ← requestChunk t.request
  let certBytes ← t.cert.marshal
  let cvChunks ← certVerifyChunks t.certVerify
  return t.handshakeContext :: reqBytes :: certBytes :: cvChunks

variable {cs : List Bytes} {r : AuthenticatorRequest} {b b' rest rest' certBytes : Bytes}
  {cert : CertificateMessage}

theorem Transcript.chunks_ok_iff {t : Transcript} :
    t.chunks = .ok cs ↔ ∃ reqBytes certBytes cvChunks, requestChunk t.request = .ok reqBytes ∧
      t.cert.marshal = .ok certBytes ∧ certVerifyChunks t.certVerify = .ok cvChunks ∧
      cs = t.handshakeContext :: reqBytes :: certBytes :: cvChunks := by
  unfold Transcript.chunks
  simp only [bind_ok_iff, pure_ok_iff]
  constructor
  · intro h
    obtain ⟨reqBytes, hreq, certBytes, hcert, cvChunks, hcv, rfl⟩ := h
    exact ⟨reqBytes, certBytes, cvChunks, hreq, hcert, hcv, rfl⟩
  · intro h
    obtain ⟨reqBytes, certBytes, cvChunks, hreq, hcert, hcv, rfl⟩ := h
    exact ⟨reqBytes, hreq, certBytes, hcert, cvChunks, hcv, rfl⟩

/-! ### Telling messages apart -/

theorem exists_message_of_request (h : r.marshal = .ok b) :
    ∃ hm : HandshakeMessage, AuthenticatorRequest.HasRequestType hm.type ∧
      marshalHandshakeMessage hm = .ok b := by
  obtain ⟨htype, -, extVec, -, hwr⟩ := AuthenticatorRequest.marshal_ok_iff.mp h
  exact ⟨_, htype, hwr⟩

/-- A request does not begin like a certificate message. -/
theorem request_append_ne_cert (hr : r.marshal = .ok b) (hcert : cert.marshal = .ok b') :
    b ++ rest ≠ b' ++ rest' := by
  intro heq
  obtain ⟨hm, htype, hwr⟩ := exists_message_of_request hr
  obtain ⟨hm', htype', hwr'⟩ := exists_message_of_cert hcert
  obtain ⟨rfl, -⟩ := inverse_handshakeMessage.append_inj hwr hwr' heq
  rw [htype'] at htype
  obtain htype | htype := htype <;> cases htype

/-- A message of any type can be told from whatever follows it. -/
theorem message_append_inj {α : Type} {read : Bytes → Except Error (α × Bytes)}
    {write : α → Except Error Bytes} (hcodec : InverseWhole read write)
    (hmessage : ∀ {m b}, write m = .ok b → ∃ hm, marshalHandshakeMessage hm = .ok b)
    {m m' : α} (h : write m = .ok b) (h' : write m' = .ok b')
    (heq : b ++ rest = b' ++ rest') : m = m' ∧ b = b' ∧ rest = rest' := by
  obtain ⟨hm, hwr⟩ := hmessage h
  obtain ⟨hm', hwr'⟩ := hmessage h'
  obtain ⟨rfl, hrest⟩ := inverse_handshakeMessage.append_inj hwr hwr' heq
  rw [hwr] at hwr'
  cases hwr'
  exact ⟨hcodec.write_inj h h', rfl, hrest⟩

theorem cert_append_inj {m m' : CertificateMessage}
    (h : m.marshal = .ok b) (h' : m'.marshal = .ok b') (heq : b ++ rest = b' ++ rest') :
    m = m' ∧ b = b' ∧ rest = rest' := by
  refine message_append_inj (.of_read_iff unmarshalCertificateMessage_ok_iff) ?_ h h' heq
  intro m b hm
  obtain ⟨hm, -, hwr⟩ := exists_message_of_cert hm
  exact ⟨hm, hwr⟩

theorem certVerify_append_inj {m m' : CertificateVerifyMessage}
    (h : m.marshal = .ok b) (h' : m'.marshal = .ok b') (heq : b ++ rest = b' ++ rest') :
    m = m' ∧ b = b' ∧ rest = rest' := by
  refine message_append_inj (.of_read_iff unmarshalCertificateVerifyMessage_ok_iff) ?_ h h' heq
  intro m b hm
  obtain ⟨hm, -, hwr⟩ := exists_message_of_certVerify hm
  exact ⟨hm, hwr⟩

/-- What stands before the certificate message is a request, or nothing. -/
theorem request_cert_append_inj {req req' : Option AuthenticatorRequest}
    {cert' : CertificateMessage} {reqBytes reqBytes' certBytes' : Bytes}
    (hreq : requestChunk req = .ok reqBytes) (hreq' : requestChunk req' = .ok reqBytes')
    (hcert : cert.marshal = .ok certBytes) (hcert' : cert'.marshal = .ok certBytes')
    (heq : reqBytes ++ (certBytes ++ rest) = reqBytes' ++ (certBytes' ++ rest')) :
    req = req' ∧ cert = cert' ∧ rest = rest' := by
  cases req with
  | none =>
    cases hreq
    rw [List.nil_append] at heq
    cases req' with
    | none =>
      cases hreq'
      obtain ⟨hc, -, hrest⟩ := cert_append_inj hcert hcert' heq
      exact ⟨rfl, hc, hrest⟩
    | some r' => exact absurd heq.symm (request_append_ne_cert hreq' hcert)
  | some r =>
    cases req' with
    | none =>
      cases hreq'
      rw [List.nil_append] at heq
      exact absurd heq (request_append_ne_cert hreq hcert')
    | some r' =>
      obtain ⟨rfl, heq⟩ := inverse_request.append_inj hreq hreq' heq
      obtain ⟨hc, -, hrest⟩ := cert_append_inj hcert hcert' heq
      exact ⟨rfl, hc, hrest⟩

theorem certVerifyChunks_inj {cv cv' : Option CertificateVerifyMessage} {cs' : List Bytes}
    (h : certVerifyChunks cv = .ok cs) (h' : certVerifyChunks cv' = .ok cs')
    (heq : cs.flatten = cs'.flatten) : cv = cv' := by
  -- The bytes of a message are never none.
  have hne : ∀ {m : CertificateVerifyMessage} {b : Bytes}, m.marshal = .ok b → b ≠ [] := by
    intro m b hb hnil
    obtain ⟨hm, -, hwr⟩ := exists_message_of_certVerify hb
    obtain ⟨-, hwr⟩ := ite_error_ok_iff.mp hwr
    cases hwr
    cases hnil
  cases cv with
  | none =>
    cases h
    cases cv' with
    | none => rfl
    | some m' =>
      obtain ⟨b', hb', rfl⟩ := map_ok_iff.mp h'
      exact absurd (by simpa using heq.symm) (hne hb')
  | some m =>
    obtain ⟨b, hb, rfl⟩ := map_ok_iff.mp h
    cases cv' with
    | none =>
      cases h'
      exact absurd (by simpa using heq) (hne hb)
    | some m' =>
      obtain ⟨b', hb', rfl⟩ := map_ok_iff.mp h'
      rw [(certVerify_append_inj hb hb' heq).1]

/-- The bytes of a transcript determine its messages, when the handshake contexts are
equally long. -/
theorem Transcript.eq_of_flatten_eq {t t' : Transcript} {cs' : List Bytes}
    (hlen : t.handshakeContext.length = t'.handshakeContext.length)
    (hcs : t.chunks = .ok cs) (hcs' : t'.chunks = .ok cs') (heq : cs.flatten = cs'.flatten) :
    t = t' := by
  obtain ⟨reqBytes, certBytes, cvChunks, hreq, hcert, hcv, rfl⟩ := chunks_ok_iff.mp hcs
  obtain ⟨reqBytes', certBytes', cvChunks', hreq', hcert', hcv', rfl⟩ := chunks_ok_iff.mp hcs'
  obtain ⟨hctx, heq⟩ := List.append_inj heq hlen
  obtain ⟨hr, hc, heq⟩ := request_cert_append_inj hreq hreq' hcert hcert' heq
  have hv := certVerifyChunks_inj hcv hcv' heq
  cases t
  simp_all

/-! ### Nothing else is hashed -/

/-- The transcripts a call may hash, with the handshake context of its connection and its
request: that of an empty authenticator, that of a signature and that of a Finished
message. -/
inductive Hashed (handshakeContext : Bytes) (req : Option AuthenticatorRequest) :
    Transcript → Prop
  | empty {r : AuthenticatorRequest} (hreq : req = some r) :
      Hashed handshakeContext req ⟨handshakeContext, req, { context := r.context }, none⟩
  | signature {cert : CertificateMessage} (hentries : cert.entries ≠ []) :
      Hashed handshakeContext req ⟨handshakeContext, req, cert, none⟩
  | finished {cert : CertificateMessage} {cv : CertificateVerifyMessage}
      (hentries : cert.entries ≠ []) :
      Hashed handshakeContext req ⟨handshakeContext, req, cert, some cv⟩

variable {V : Type} {prim : Primitives V} {signer : Signer} {session : Option Session}
  {st : Tls.ConnectionState} {role : Role} {req : Option AuthenticatorRequest}
  {policy : Option SpontaneousAuthenticatorPolicy} {identity : Identity} {exts : List Extension}
  {authBytes reqBytes : Bytes} {offered : List UInt16} {keys : Keys}

/-- The primitives with another hash function. -/
def withSum (prim : Primitives V) (sum : Hash → Bytes → Bytes)
    (length_sum : ∀ h data, (sum h data).length = h.size) : Primitives V :=
  { prim with sum, length_sum }

variable {sum : Hash → Bytes → Bytes} {length_sum : ∀ h data, (sum h data).length = h.size}

/-- Another hash function is the same on the transcripts a call may hash, and on the inputs
of signatures, which are hashed too but not by `hashConcat`. -/
structure AgreesOnTranscripts (prim : Primitives V) (sum : Hash → Bytes → Bytes) (keys : Keys)
    (req : Option AuthenticatorRequest) : Prop where
  transcripts : ∀ t cs, Hashed keys.handshakeContext req t → t.chunks = .ok cs →
    sum keys.hash cs.flatten = prim.sum keys.hash cs.flatten
  signatures : ∀ transcriptHash, sum .sha256 (buildCertVerifyInput transcriptHash)
    = prim.sum .sha256 (buildCertVerifyInput transcriptHash)

theorem requestChunk_of_requestBytes (h : requestBytes req = .ok (reqBytes, offered)) :
    requestChunk req = .ok reqBytes := by
  cases req with
  | none =>
    cases h
    rfl
  | some r => exact (requestBytes_some_ok_iff.mp h).1

theorem AgreesOnTranscripts.hashConcat
    (h : AgreesOnTranscripts prim sum keys req) (hreq : requestChunk req = .ok reqBytes)
    (hcert : cert.marshal = .ok certBytes)
    (ht : Hashed keys.handshakeContext req ⟨keys.handshakeContext, req, cert, none⟩) :
    hashConcat (withSum prim sum length_sum) keys.hash [keys.handshakeContext, reqBytes, certBytes]
      = EA.hashConcat prim keys.hash [keys.handshakeContext, reqBytes, certBytes] :=
  h.transcripts _ _ ht (Transcript.chunks_ok_iff.mpr ⟨_, _, [], hreq, hcert, rfl, rfl⟩)

theorem AgreesOnTranscripts.finishedMAC {cv : CertificateVerifyMessage}
    {cvBytes : Bytes} (h : AgreesOnTranscripts prim sum keys req)
    (hreq : requestChunk req = .ok reqBytes) (hcert : cert.marshal = .ok certBytes)
    (hcv : cv.marshal = .ok cvBytes) (hes : cert.entries ≠ []) :
    finishedMAC (withSum prim sum length_sum) keys [reqBytes, certBytes, cvBytes]
      = EA.finishedMAC prim keys [reqBytes, certBytes, cvBytes] :=
  congrArg (prim.hmac keys.hash keys.finishedKey) (h.transcripts _ _ (.finished hes)
    (Transcript.chunks_ok_iff.mpr ⟨_, _, [cvBytes], hreq, hcert, by
      show cv.marshal.map _ = _
      rw [hcv]
      rfl, rfl⟩))

theorem AgreesOnTranscripts.emptyMAC
    (h : AgreesOnTranscripts prim sum keys (some r)) (hreq : r.marshal = .ok reqBytes)
    (hcert : CertificateMessage.marshal { context := r.context } = .ok certBytes) :
    EA.finishedMAC (withSum prim sum length_sum) keys [reqBytes, certBytes]
      = EA.finishedMAC prim keys [reqBytes, certBytes] :=
  congrArg (prim.hmac keys.hash keys.finishedKey) (h.transcripts _ _ (.empty rfl)
    (Transcript.chunks_ok_iff.mpr ⟨_, _, [], hreq, hcert, rfl, rfl⟩))

/-! ### Validation -/

theorem verifyCertVerify_withSum {pub : PublicKey} {scheme : UInt16}
    {transcriptHash signature : Bytes} (h : AgreesOnTranscripts prim sum keys req) :
    verifyCertVerify (withSum prim sum length_sum) pub scheme transcriptHash signature
      = verifyCertVerify prim pub scheme transcriptHash signature := by
  have hsum : (withSum prim sum length_sum).sum .sha256 (buildCertVerifyInput transcriptHash)
      = prim.sum .sha256 (buildCertVerifyInput transcriptHash) := h.signatures transcriptHash
  unfold verifyCertVerify
  dsimp only
  rw [hsum]
  rfl

theorem checkEmpty_withSum {hm : HandshakeMessage}
    (h : AgreesOnTranscripts prim sum keys req) (hreq : requestChunk req = .ok reqBytes) :
    checkEmpty (withSum prim sum length_sum) keys req reqBytes hm rest
      = checkEmpty prim keys req reqBytes hm rest := by
  cases req with
  | none => rfl
  | some r =>
    refine bind_congr_of_ok fun _ _ => bind_congr_of_ok fun _ _ => bind_congr_of_ok ?_
    intro certBytes hcert
    rw [h.emptyMAC hreq hcert]

theorem checkCertificate_withSum {hm : HandshakeMessage}
    (h : AgreesOnTranscripts prim sum keys req) (hreq : requestChunk req = .ok reqBytes) :
    checkCertificate (withSum prim sum length_sum) keys req policy reqBytes offered hm rest
      = checkCertificate prim keys req policy reqBytes offered hm rest := by
  refine bind_congr_of_ok fun _ _ => bind_congr_of_ok fun _ _ => bind_congr_of_ok fun _ _ => ?_
  refine bind_congr_of_ok ?_
  intro certMsg hcertMsg
  refine bind_congr_of_ok ?_
  intro cvMsg hcvMsg
  refine bind_congr_of_ok fun _ _ => bind_congr_of_ok fun _ _ => bind_congr_of_ok ?_
  intro res hes
  have hne := entries_ne_nil_of_checkEntries hes
  obtain ⟨hcert, -⟩ := unmarshalCertificateMessage_ok_iff.mp hcertMsg
  obtain ⟨hcv, -⟩ := unmarshalCertificateVerifyMessage_ok_iff.mp hcvMsg
  refine bind_congr_of_ok fun _ _ => ?_
  rw [verifyCertVerify_withSum h, h.hashConcat hreq hcert (.signature hne)]
  rw [h.finishedMAC hreq hcert hcv hne]

theorem checkAuthenticator_withSum
    (h : ∀ keys, exportKeys st role = .ok keys → AgreesOnTranscripts prim sum keys req) :
    checkAuthenticator (withSum prim sum length_sum) st role req policy authBytes
      = checkAuthenticator prim st role req policy authBytes := by
  refine bind_congr_of_ok ?_
  intro keys hkeys
  refine bind_congr_of_ok ?_
  rintro ⟨reqBytes, offered⟩ hreq
  have hchunk := requestChunk_of_requestBytes hreq
  refine bind_congr_of_ok fun _ _ => ?_
  dsimp only
  rw [checkEmpty_withSum (h keys hkeys) hchunk, checkCertificate_withSum (h keys hkeys) hchunk]

/-! ### Creation -/

theorem signCertVerify_withSum {priv : PrivateKey} {scheme : UInt16} {transcriptHash : Bytes}
    (h : AgreesOnTranscripts prim sum keys req) :
    signCertVerify (withSum prim sum length_sum) signer priv scheme transcriptHash
      = signCertVerify prim signer priv scheme transcriptHash := by
  have hsum : (withSum prim sum length_sum).sum .sha256 (buildCertVerifyInput transcriptHash)
      = prim.sum .sha256 (buildCertVerifyInput transcriptHash) := h.signatures transcriptHash
  unfold signCertVerify
  dsimp only
  rw [hsum]

theorem certificateEntries_ne_nil {chain : List Bytes} (h : chain ≠ []) :
    certificateEntries chain exts ≠ [] := by
  cases chain with
  | nil => exact absurd rfl h
  | cons der others => exact List.cons_ne_nil _ _

theorem createFull_withSum {ctx : Bytes} {priv : PrivateKey} {chain : List Bytes}
    (h : AgreesOnTranscripts prim sum keys req) (hreq : requestChunk req = .ok reqBytes)
    (hch : chain ≠ []) :
    createFull (withSum prim sum length_sum) signer keys req policy reqBytes offered ctx priv chain
        exts
      = createFull prim signer keys req policy reqBytes offered ctx priv chain exts := by
  have hne : certificateEntries chain exts ≠ [] := certificateEntries_ne_nil hch
  refine bind_congr_of_ok fun _ _ => bind_congr_of_ok fun _ _ => bind_congr_of_ok ?_
  intro certBytes hcert
  have hcert := mapError_ok_iff.mp hcert
  rw [signCertVerify_withSum h, h.hashConcat hreq hcert (.signature hne)]
  refine bind_congr_of_ok fun _ _ => bind_congr_of_ok ?_
  intro cvBytes hcv
  rw [h.finishedMAC hreq hcert (mapError_ok_iff.mp hcv) hne]

theorem createEmpty_withSum {ctx : Bytes} (h : AgreesOnTranscripts prim sum keys req)
    (hreq : requestChunk req = .ok reqBytes) (hctx : createContext signer req = .ok ctx) :
    createEmpty (withSum prim sum length_sum) keys req reqBytes ctx
      = createEmpty prim keys req reqBytes ctx := by
  cases req with
  | none => rfl
  | some r =>
    cases hctx
    refine bind_congr_of_ok fun _ _ => bind_congr_of_ok ?_
    intro certBytes hcert
    rw [h.emptyMAC hreq hcert]

theorem buildAuthenticator_withSum
    (h : ∀ keys, exportKeys st role = .ok keys → AgreesOnTranscripts prim sum keys req) :
    buildAuthenticator (withSum prim sum length_sum) signer st role req policy identity exts
      = buildAuthenticator prim signer st role req policy identity exts := by
  refine bind_congr_of_ok fun _ _ => bind_congr_of_ok fun _ _ => bind_congr_of_ok fun _ _ => ?_
  refine bind_congr_of_ok ?_
  intro _ hid
  have hid := ensure_ok_iff.mp hid
  refine bind_congr_of_ok ?_
  rintro ⟨reqBytes, offered⟩ hreq
  have hchunk := requestChunk_of_requestBytes (mapError_ok_iff.mp hreq)
  refine bind_congr_of_ok ?_
  intro ctx hctx
  refine bind_congr_of_ok ?_
  intro keys hkeys
  have hagr := h keys (mapError_ok_iff.mp hkeys)
  cases hpriv : identity.privateKey with
  | none =>
    rw [createEmpty_withSum hagr hchunk hctx]
  | some priv =>
    have hch : identity.certificate ≠ [] := by
      intro hnil
      rw [hid.mp hnil] at hpriv
      cases hpriv
    dsimp only
    rw [createFull_withSum hagr hchunk hch]

theorem createAuthenticator_withSum
    (h : ∀ keys, exportKeys st role = .ok keys → AgreesOnTranscripts prim sum keys req) :
    createAuthenticator (withSum prim sum length_sum) signer session st role req policy identity exts
      = createAuthenticator prim signer session st role req policy identity exts := by
  unfold createAuthenticator
  rw [buildAuthenticator_withSum h]

/-! ### Uniqueness -/

/-- The handshake context is as long as the hash of the cipher suite. -/
theorem length_handshakeContext (h : exportKeys st role = .ok keys) :
    authenticatorHashTLS13 st.cipherSuite = .ok keys.hash ∧
      keys.handshakeContext.length = keys.hash.size := by
  obtain ⟨_, -, h⟩ := bind_ok_iff.mp h
  obtain ⟨⟨hsCtx, hash⟩, hexpt, h⟩ := bind_ok_iff.mp h
  obtain ⟨_, -, h⟩ := bind_ok_iff.mp h
  cases h
  obtain ⟨_, -, hexpt⟩ := bind_ok_iff.mp hexpt
  obtain ⟨hash', hhash, hexpt⟩ := bind_ok_iff.mp hexpt
  obtain ⟨out, hout, hexpt⟩ := bind_ok_iff.mp hexpt
  cases hexpt
  exact ⟨hhash, st.length_of_export (mapError_ok_iff.mp hout)⟩

/-- **Transcripts are unique.** The strings that `hashConcat` is given for two different
transcripts are different, if the handshake contexts have the length of one hash, as they
have for a given cipher suite. And a call hashes nothing but its transcripts: for creation
and validation the hash function matters at no other string. -/
theorem transcripts_unique (prim : Primitives V) :
    (∀ (hash : Hash) (t t' : Transcript) (cs cs' : List Bytes),
      t.handshakeContext.length = hash.size → t'.handshakeContext.length = hash.size →
      t.chunks = .ok cs → t'.chunks = .ok cs' → cs.flatten = cs'.flatten → t = t') ∧
    (∀ (st : Tls.ConnectionState) (role : Role) (keys : Keys), exportKeys st role = .ok keys →
      authenticatorHashTLS13 st.cipherSuite = .ok keys.hash ∧
        keys.handshakeContext.length = keys.hash.size) ∧
    ∀ (sum : Hash → Bytes → Bytes) (length_sum : ∀ h data, (sum h data).length = h.size)
      (st : Tls.ConnectionState) (role : Role) (req : Option AuthenticatorRequest)
      (policy : Option SpontaneousAuthenticatorPolicy),
      (∀ keys, exportKeys st role = .ok keys → AgreesOnTranscripts prim sum keys req) →
      (∀ signer session identity exts,
        createAuthenticator (withSum prim sum length_sum) signer session st role req policy
            identity exts
          = createAuthenticator prim signer session st role req policy identity exts) ∧
      ∀ authBytes, checkAuthenticator (withSum prim sum length_sum) st role req policy authBytes
        = checkAuthenticator prim st role req policy authBytes := by
  refine ⟨?_, ?_, ?_⟩
  · intro hash t t' cs cs' hlen hlen' hcs hcs' heq
    exact Transcript.eq_of_flatten_eq (hlen.trans hlen'.symm) hcs hcs' heq
  · intro st role keys hkeys
    exact length_handshakeContext hkeys
  · intro sum length_sum st role req policy hagr
    refine ⟨fun signer session identity exts => ?_, fun authBytes => ?_⟩
    · exact createAuthenticator_withSum hagr
    · exact checkAuthenticator_withSum hagr

end SecureBinding.EA
