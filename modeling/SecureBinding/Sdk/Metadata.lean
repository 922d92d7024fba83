import SecureBinding.Agent.Auth
import SecureBinding.Lib.Cut

/-!
# Sdk.Metadata

What the SDK (`pkg/sdk/agent.go`) signs for a call, and what the interceptors of the server
(`agent/api/grpc/interceptors.go`) ask of it.

The interceptors demand a role for each of the six operations. The SDK signs for three of them; the
other three go out without metadata, and the key that would pass is not even a parameter of them
(`attached_passes_iff`).
-/

namespace SecureBinding.Sdk

open Go Go.Crypto Lib Agent Agent.Auth

/-! ### The two sides -/

inductive Operation
  | algo
  | data
  | result
  | attestation
  | imaMeasurements
  | attestationToken

def Operation.fullMethod : Operation → GoString
  | algo => lit "/agent.AgentService/Algo"
  | data => lit "/agent.AgentService/Data"
  | result => lit "/agent.AgentService/Result"
  | attestation => lit "/agent.AgentService/Attestation"
  | imaMeasurements => lit "/agent.AgentService/IMAMeasurements"
  | attestationToken => lit "/agent.AgentService/AzureAttestationToken"

/-- The role that `AuthStreamInterceptor` demands for a method. -/
def authStreamInterceptor (fullMethod : GoString) : Option UserRole :=
  if fullMethod = Operation.algo.fullMethod then some algorithmProviderRole
  else if fullMethod = Operation.data.fullMethod then some dataProviderRole
  else if fullMethod = Operation.result.fullMethod then some consumerRole
  else if fullMethod = Operation.attestation.fullMethod ∨
      fullMethod = Operation.imaMeasurements.fullMethod then some consumerRole
  else none

/-- The role that `AuthUnaryInterceptor` demands for a method. -/
def authUnaryInterceptor (fullMethod : GoString) : Option UserRole :=
  if fullMethod = Operation.result.fullMethod ∨
      fullMethod = Operation.attestationToken.fullMethod then some consumerRole
  else none

/-- The role that is demanded; only the token is not streamed. -/
def Operation.demanded (op : Operation) : Option UserRole :=
  match op with
  | attestationToken => authUnaryInterceptor op.fullMethod
  | _ => authStreamInterceptor op.fullMethod

structure Client extends Signer where
  /-- `rsa.SignPKCS1v15` with SHA-256: key, digest. -/
  signPKCS1v15 : Bytes → Bytes → Except String Bytes
  /-- `UTC().Format(time.RFC3339Nano)`. -/
  format : Time → GoString

variable {V : Type} (lib : Library V) (cl : Client)

def signData (role : UserRole) (method issuedAt nonce : GoString) (privKey : PrivateKey) :
    Except String Bytes :=
  let payload := signaturePayload role method issuedAt nonce
  match privKey with
  | .ed25519 k => .ok (cl.signEd25519 k payload)
  | .rsa k => cl.signPKCS1v15 k (lib.sha256 payload)
  | .ecdsa curve k => cl.signASN1 curve k (lib.sha256 payload)
  | .other _ => .error "unsupported key type"

def newSignatureNonce : Except String GoString := do
  let nonce ← cl.read 16
  return hexEncode nonce

def userMetadataKey : GoString := lit "user-id"

def generateMetadata (role : UserRole) (method : GoString) (privateKey : PrivateKey) (now : Time) :
    Except String MD := do
  let issuedAt := cl.format now
  let nonce ← newSignatureNonce cl
  let signature ← signData lib cl role method issuedAt nonce privateKey
  return fun key =>
    if key = userMetadataKey then [role]
    else if key = signatureMetadataKey then [base64StdEncode signature]
    else if key = signatureTimestampMetadataKey then [issuedAt]
    else if key = signatureNonceMetadataKey then [nonce]
    else []

/-- The metadata that an operation attaches to its call. -/
def Operation.attached (op : Operation) (privKey : PrivateKey) (now : Time) : Except String MD :=
  match op with
  | algo => generateMetadata lib cl algorithmProviderRole op.fullMethod privKey now
  | data => generateMetadata lib cl dataProviderRole op.fullMethod privKey now
  | result => generateMetadata lib cl consumerRole op.fullMethod privKey now
  | attestation | imaMeasurements | attestationToken => .ok fun _ => []

/-- The interceptor lets the call through to its handler: `AuthenticateUser` returns nil. It looks
at the clock twice. The context of a call on the server always holds metadata. -/
def Passes (svc : Auth.Service) (op : Operation) (md : MD) (now later : Time)
    (seen : GoString → Option Time) : Prop :=
  ∀ role, op.demanded = some role → ∃ p,
    authenticateUser lib svc ⟨role, op.fullMethod, some md⟩ now = .ok p ∧
      (markNonce p later seen).1 = none

/-! ### Calls that a key is entitled to -/

/-- Signatures are not empty and verify under the public key. -/
structure Client.Correct : Prop extends cl.toSigner.Correct lib.toPrimitives where
  pkcs1v15 : ∀ {k digest sig}, cl.signPKCS1v15 k digest = .ok sig →
    lib.verifyPKCS1v15 (cl.publicBytes (.rsa k)) digest sig = true
  signature_ne : ∀ {role method issuedAt nonce priv sig},
    signData lib cl role method issuedAt nonce priv = .ok sig → sig ≠ []

/-- The manifest names the key in the role. -/
def Named (manifest : Computation) (role : UserRole) (key : PublicKey) : Prop :=
  (role = consumerRole ∧ ∃ der ∈ manifest.resultConsumers, lib.parsePKIXPublicKey der = .ok key) ∨
    (role = dataProviderRole ∧
      ∃ d ∈ manifest.datasets.toList, lib.parsePKIXPublicKey d.userKey = .ok key) ∨
    (role = algorithmProviderRole ∧ lib.parsePKIXPublicKey manifest.algorithm.userKey = .ok key)

/-- The caller's key is named in the role that the server demands, the clocks are close enough, and
the nonce is fresh. -/
structure Entitled (manifest : Computation) (svc : Auth.Service) (op : Operation) (priv : PrivateKey)
    (signedAt now : Time) (seen : GoString → Option Time) : Prop where
  correct : cl.Correct lib
  stamp : cl.format signedAt ≠ [] ∧ lib.parseTime (cl.format signedAt) = .ok signedAt
  served : new lib manifest = .ok svc
  named : ∀ role, op.demanded = some role → Named lib manifest role (cl.publicKey priv)
  recent : now - maxSignatureAge ≤ signedAt ∧ signedAt ≤ now + maxSignatureFutureSkew
  fresh : ∀ nonce role method, newSignatureNonce cl = .ok nonce →
    seen (role ++ [0] ++ method ++ [0] ++ nonce) = none

variable {lib cl}

theorem Client.Correct.verifies (hcor : cl.Correct lib) {role : UserRole}
    {method issuedAt nonce : GoString} {priv : PrivateKey} {sig : Bytes}
    (h : signData lib cl role method issuedAt nonce priv = .ok sig) :
    verifySignature lib role method issuedAt nonce (base64StdEncode sig) (cl.publicKey priv) =
      true := by
  simp only [verifySignature, base64StdDecode_base64StdEncode]
  cases priv with
  | ecdsa curve k => exact hcor.asn1 h
  | rsa k => exact hcor.pkcs1v15 h
  | ed25519 k =>
    cases h
    exact hcor.ed25519 _ _
  | other k => cases h

/-- The keys of the manifest are the keys of the service. -/
theorem findKey_of_named {manifest : Computation} {svc : Auth.Service} {role : UserRole}
    {key : PublicKey} {verify : PublicKey → Bool} (hnew : new lib manifest = .ok svc)
    (hnamed : Named lib manifest role key) (hkey : verify key = true) :
    ∃ ctx, findKey svc role verify = some ctx := by
  simp only [new, bind_ok_iff, pure_ok_iff] at hnew
  obtain ⟨consumers, hconsumers, providers, hproviders, provider, hprovider, rfl⟩ := hnew
  -- A key that the service has accepted is the one that was parsed.
  have hdec : ∀ {der k}, lib.parsePKIXPublicKey der = .ok key → userKey lib der = .ok k →
      k = key := by
    intro der k hpar huser
    rw [userKey, hpar, ok_bind] at huser
    cases key with
    | other _ => cases huser
    | ecdsa _ | rsa _ | ed25519 _ =>
      cases huser
      rfl
  rcases hnamed with ⟨rfl, der, hmem, hpar⟩ | ⟨rfl, d, hmem, hpar⟩ | ⟨rfl, hpar⟩
  · obtain ⟨k, hk, huser⟩ := exists_mem_of_mapM_eq_ok hconsumers hmem
    obtain rfl := hdec hpar huser
    -- The loop stops at the first key that verifies, which may be another one.
    have hsome : (consumers.findIdx? verify).isSome = true := by
      rw [List.findIdx?_isSome, List.any_eq_true]
      exact ⟨k, hk, hkey⟩
    obtain ⟨i, hi⟩ := Option.isSome_iff_exists.mp hsome
    exact ⟨.indexed i, by simp [findKey, hi]⟩
  · obtain ⟨k, hk, huser⟩ := exists_mem_of_mapM_eq_ok hproviders hmem
    obtain rfl := hdec hpar huser
    have hany : providers.any verify = true := List.any_eq_true.mpr ⟨k, hk, hkey⟩
    refine ⟨.incoming, ?_⟩
    rw [findKey, if_neg (by decide), if_pos rfl, if_pos hany]
  · obtain rfl := hdec hpar hprovider
    refine ⟨.incoming, ?_⟩
    rw [findKey, if_neg (by decide), if_neg (by decide), if_pos rfl, if_pos hkey]

theorem extractMetadataValue_eq {md : MD} {key value : GoString} (h : md key = [value])
    (hne : value ≠ []) : extractMetadataValue md key = .ok value := by
  rw [extractMetadataValue, h]
  exact if_neg hne

/-- Metadata that are generated for the role that is demanded pass. -/
theorem Entitled.passes {manifest : Computation} {svc : Auth.Service} {op : Operation}
    {priv : PrivateKey} {signedAt now later : Time} {seen : GoString → Option Time} {role : UserRole}
    {md : MD} (h : Entitled lib cl manifest svc op priv signedAt now seen)
    (hrole : op.demanded = some role)
    (hmd : generateMetadata lib cl role op.fullMethod priv signedAt = .ok md) :
    Passes lib svc op md now later seen := by
  intro role' hrole'
  obtain rfl : role = role' := Option.some.inj (hrole.symm.trans hrole')
  simp only [generateMetadata, bind_ok_iff, pure_ok_iff] at hmd
  obtain ⟨nonce, hnon, sig, hsign, rfl⟩ := hmd
  obtain ⟨ctx, hctx⟩ := findKey_of_named h.served (h.named role hrole) (h.correct.verifies hsign)
  -- Values that are empty would be refused as missing.
  have henc : base64StdEncode sig ≠ [] := by
    intro hnil
    have hdec := base64StdDecode_base64StdEncode sig
    rw [hnil] at hdec
    exact h.correct.signature_ne hsign (Option.some.inj hdec).symm
  have hlen : nonce ≠ [] := by
    obtain ⟨out, hread, heq⟩ := bind_ok_iff.mp hnon
    obtain rfl := pure_ok_iff.mp heq
    rw [← List.length_pos_iff, length_hexEncode, cl.length_of_read hread]
    decide
  have hrecent : validateIssuedAt signedAt now = .ok () := by
    rw [validateIssuedAt, if_neg]
    exact not_or.mpr ⟨not_lt.mpr h.recent.1, not_lt.mpr h.recent.2⟩
  refine ⟨⟨role, op.fullMethod, nonce, signedAt + maxSignatureAge, ctx⟩, ?_, ?_⟩
  · simp only [authenticateUser, bind_ok_iff, ofOption_ok_iff, wrapInvalid_ok_iff, mapError_ok_iff]
    exact ⟨_, rfl, _, extractMetadataValue_eq rfl henc, _, extractMetadataValue_eq rfl h.stamp.1,
      _, extractMetadataValue_eq rfl hlen, _, h.stamp.2, (), hrecent, ctx, hctx, rfl⟩
  · have hpurged : purge later seen (role ++ [0] ++ op.fullMethod ++ [0] ++ nonce) = none := by
      rw [purge, h.fresh nonce role op.fullMethod hnon]
      rfl
    simp only [markNonce, Pending.key, hpurged]
    rfl

/-- A key passes in every role that it is named in exactly for the operations that sign. -/
theorem attached_passes_iff {manifest : Computation} {svc : Auth.Service} {op : Operation}
    {priv : PrivateKey} {signedAt now later : Time} {seen : GoString → Option Time} {md : MD}
    (h : Entitled lib cl manifest svc op priv signedAt now seen)
    (hmd : op.attached lib cl priv signedAt = .ok md) :
    Passes lib svc op md now later seen ↔ op = .algo ∨ op = .data ∨ op = .result := by
  have hrefused : ∀ {role}, op.demanded = some role →
      ¬Passes lib svc op (fun _ => []) now later seen := by
    intro role hrole hpas
    obtain ⟨p, hp, -⟩ := hpas role hrole
    cases hp
  cases op with
  | algo | data | result => exact iff_of_true (h.passes rfl hmd) (by simp)
  | attestation | imaMeasurements | attestationToken =>
    cases hmd
    exact iff_of_false (hrefused rfl) (by simp)

/-- The sample signer, which can write one time. -/
def sampleClient : Client where
  toSigner := sampleSigner
  signPKCS1v15 k digest := .ok (k ++ digest)
  format t := if t = 1000 then sampleTimestamp else lit "0001-01-01T00:00:00Z"

/-- The key is that of the only consumer. -/
def sampleManifest : Computation := { resultConsumers := [[1]] }

theorem entitled_sample {op : Operation} (h : op.demanded = some consumerRole) :
    Entitled sampleLibrary sampleClient sampleManifest ⟨[.ed25519 [1]], [], .ed25519 []⟩ op
      (.ed25519 [1]) 1000 1000 fun _ => none where
  correct :=
    { sampleSigner_correct with
      pkcs1v15 := by
        intro k digest sig hsign
        cases hsign
        exact decide_eq_true rfl
      signature_ne := by
        -- The digest, or the payload, is not empty.
        intro role method issuedAt nonce priv sig hsign hnil
        have hversion : signaturePayloadVersion ≠ [] := by decide
        cases priv <;> cases hsign <;> simp [sampleClient, sampleSigner, signaturePayload, hversion,
          Primitives.sha256, sampleLibrary, samplePrimitives, Hash.size] at hnil }
  stamp := ⟨by decide, rfl⟩
  served := rfl
  named := by
    intro role hrole
    exact .inl ⟨Option.some.inj (hrole.symm.trans h), [1], by decide, rfl⟩
  recent := by decide
  fresh := fun _ _ _ _ => rfl

/-- The consumer gets the result. -/
theorem attached_passes_sample : ∃ md,
    Operation.result.attached sampleLibrary sampleClient (.ed25519 [1]) 1000 = .ok md ∧
      Passes sampleLibrary ⟨[.ed25519 [1]], [], .ed25519 []⟩ .result md 1000 1000 fun _ => none :=
  ⟨_, rfl, (attached_passes_iff (entitled_sample rfl) rfl).mpr (.inr (.inr rfl))⟩

/-- The same consumer, whose key is named in the role that is demanded, is refused an
attestation. -/
theorem attestation_refused :
    Entitled sampleLibrary sampleClient sampleManifest ⟨[.ed25519 [1]], [], .ed25519 []⟩ .attestation
        (.ed25519 [1]) 1000 1000 (fun _ => none) ∧
      ∃ md, Operation.attestation.attached sampleLibrary sampleClient (.ed25519 [1]) 1000 = .ok md ∧
        authenticateUser sampleLibrary ⟨[.ed25519 [1]], [], .ed25519 []⟩
            ⟨consumerRole, Operation.attestation.fullMethod, some md⟩ 1000 =
          .error ⟨.nil, .invalidMetadata
            (lit "rpc error: code = Unauthenticated desc = invalid metadata")⟩ :=
  ⟨entitled_sample rfl, _, rfl, rfl⟩

/-! ### What a signature is about -/

section Signatures

variable {lib : Library V} {req req' : Auth.Request} {now now' : Time} {v v' : Signed}

def payload (v : Signed) : Bytes := signaturePayload v.role v.method v.issuedAt v.nonce

/-- The key of `seenNonces`; the time and the context of a pending call are not part of it. -/
def nonceKey (v : Signed) : GoString := Pending.key ⟨v.role, v.method, v.nonce, 0, .nil⟩

/-- The call gets to the verification of its signature, with an interceptor's role and method. -/
structure Verifying (lib : Library V) (req : Auth.Request) (now : Time) (v : Signed) : Prop where
  demanded : authStreamInterceptor req.method = some req.role ∨
    authUnaryInterceptor req.method = some req.role
  signed : req.signed = some v
  recent : ∃ t, lib.parseTime v.issuedAt = .ok t ∧ validateIssuedAt t now = .ok ()

/-- The key accepts the signature for one payload only, that of `v`. -/
def GivenFor (lib : Library V) (signature : GoString) (publicKey : PublicKey) (v : Signed) : Prop :=
  ∀ u : Signed, verifySignature lib u.role u.method u.issuedAt u.nonce signature publicKey = true →
    payload u = payload v

/-- The constants of the interceptors hold neither a line break nor a NUL. -/
theorem Verifying.plain (h : Verifying lib req now v) :
    ∀ c ∈ [0x0a, 0], c ∉ v.role ∧ c ∉ v.method := by
  have hsig := h.signed
  simp only [Auth.Request.signed, Option.bind_eq_bind, Option.bind_eq_some_iff, Option.pure_def,
    Option.some.injEq] at hsig
  obtain ⟨_, _, _, _, _, _, rfl⟩ := hsig
  have hpl : ∀ role ∈ [algorithmProviderRole, dataProviderRole, consumerRole],
      ∀ op : Operation, ∀ c ∈ [0x0a, 0], c ∉ role ∧ c ∉ op.fullMethod := by
    intro role hrole op
    cases op <;> revert role <;> decide +kernel
  obtain ⟨hrole, op, hop⟩ : req.role ∈ [algorithmProviderRole, dataProviderRole, consumerRole] ∧
      ∃ op : Operation, op.fullMethod = req.method := by
    have hdemanded := h.demanded
    unfold authStreamInterceptor authUnaryInterceptor at hdemanded
    grind
  exact hop ▸ hpl _ hrole op

theorem payload_eq : payload v = (signaturePayloadVersion ++ lit "\nrole=") ++ (v.role ++ 0x0a ::
    (lit "method=" ++ (v.method ++ 0x0a :: (lit "issued_at=" ++ (v.issuedAt ++ 0x0a ::
      (lit "nonce=" ++ v.nonce)))))) := by
  have hmet : lit "\nmethod=" = 0x0a :: lit "method=" := by decide
  have hissuedAt : lit "\nissued_at=" = 0x0a :: lit "issued_at=" := by decide
  have hnon : lit "\nnonce=" = 0x0a :: lit "nonce=" := by decide
  simp [payload, signaturePayload, hmet, hissuedAt, hnon]

/-- Line breaks end the role, the method and the time, which hold none; the nonce is the rest. -/
theorem payload_inj (hpar : ∀ s t, lib.parseTime s = .ok t → 0x0a ∉ s)
    (h : Verifying lib req now v) (h' : Verifying lib req' now' v')
    (heq : payload v = payload v') : v = v' := by
  obtain ⟨t, ht, -⟩ := h.recent
  obtain ⟨t', ht', -⟩ := h'.recent
  obtain ⟨hr, hm⟩ := h.plain 0x0a (by decide)
  obtain ⟨hr', hm'⟩ := h'.plain 0x0a (by decide)
  rw [payload_eq, payload_eq] at heq
  obtain ⟨hrole, heq⟩ := append_cons_inj hr hr' (List.append_cancel_left heq)
  obtain ⟨hmet, heq⟩ := append_cons_inj hm hm' (List.append_cancel_left heq)
  obtain ⟨hissuedAt, heq⟩ :=
    append_cons_inj (hpar _ _ ht) (hpar _ _ ht') (List.append_cancel_left heq)
  have hnon := List.append_cancel_left heq
  cases v
  cases v'
  simp_all

/-- The payload and the key of `seenNonces` say what a call is about, and a signature given for one
call does not pass for another. What `time.Parse` accepts as RFC 3339 is on one line. -/
theorem payload_determines_request (hparse : ∀ s t, lib.parseTime s = .ok t → 0x0a ∉ s)
    (h : Verifying lib req now v) (h' : Verifying lib req' now' v') :
    (payload v = payload v' → v = v') ∧ (nonceKey v = nonceKey v' →
        v.role = v'.role ∧ v.method = v'.method ∧ v.nonce = v'.nonce) ∧
      ∀ signature publicKey, GivenFor lib signature publicKey v →
        verifySignature lib v'.role v'.method v'.issuedAt v'.nonce signature publicKey = true →
          v = v' := by
  refine ⟨payload_inj hparse h h', fun hkey => ?_, fun signature publicKey hgiv hvf => ?_⟩
  · obtain ⟨hr, hm⟩ := h.plain 0 (by decide)
    obtain ⟨hr', hm'⟩ := h'.plain 0 (by decide)
    simp only [nonceKey, Pending.key, List.append_assoc] at hkey
    obtain ⟨hrole, hkey⟩ := append_cons_inj hr hr' hkey
    obtain ⟨hmet, hnon⟩ := append_cons_inj hm hm' hkey
    exact ⟨hrole, hmet, hnon⟩
  · exact payload_inj hparse h h' (hgiv v' hvf).symm

/-- Two calls with the same time and nonce: what is signed for `Algo` does not pass for `Data`. -/
theorem payload_determines_request_sample :
    let v : Signed := ⟨algorithmProviderRole, Operation.algo.fullMethod, sampleTimestamp, lit "n"⟩
    let v' : Signed := ⟨dataProviderRole, Operation.data.fullMethod, sampleTimestamp, lit "n"⟩
    payload v ≠ payload v' ∧ nonceKey v ≠ nonceKey v' ∧
      verifySignature sampleLibrary v.role v.method v.issuedAt v.nonce
        (base64StdEncode (1 :: payload v)) (.ed25519 [1]) = true ∧
      verifySignature sampleLibrary v'.role v'.method v'.issuedAt v'.nonce
        (base64StdEncode (1 :: payload v)) (.ed25519 [1]) = false := by
  intro v v'
  have hpar : ∀ s t, sampleLibrary.parseTime s = .ok t → 0x0a ∉ s := by
    intro s t h
    obtain rfl : s = sampleTimestamp := by
      by_contra hne
      simp [sampleLibrary, hne] at h
    decide
  have hverifying : ∀ role op, authStreamInterceptor (Operation.fullMethod op) = some role →
      Verifying sampleLibrary ⟨role, op.fullMethod, some (sampleMD op.fullMethod)⟩ 1000
        ⟨role, op.fullMethod, sampleTimestamp, lit "n"⟩ :=
    fun _ _ h => ⟨.inl h, rfl, 1000, rfl, rfl⟩
  -- The signature holds all of what it was made over.
  have hverify : ∀ u : Signed, verifySignature sampleLibrary u.role u.method u.issuedAt u.nonce
      (base64StdEncode (1 :: payload v)) (.ed25519 [1]) = true ↔ payload u = payload v := by
    intro u
    simp [verifySignature, base64StdDecode_base64StdEncode, sampleLibrary, samplePrimitives, payload,
      eq_comm]
  obtain ⟨hpay, hkey, hsig⟩ := payload_determines_request hpar
    (hverifying algorithmProviderRole .algo rfl) (hverifying dataProviderRole .data rfl)
  have hne : v ≠ v' := by decide
  refine ⟨fun h => hne (hpay h), fun h => absurd (hkey h).1 (by decide), (hverify v).mpr rfl, ?_⟩
  exact Bool.eq_false_iff.mpr fun h => hne (hsig _ _ (fun u => (hverify u).mp) h)

end Signatures

end SecureBinding.Sdk
