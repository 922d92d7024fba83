import SecureBinding.Eat.Codec

/-!
# Eat.CodecSound

Signatures and round trips of entity attestation tokens.

* `signed_iff_not_plain`: with a key, decoded claims were signed unless the token is claims in
  plain CBOR, which `decodeCBOR` returns without looking at the key.
* `round_trip_iff`: a JWT comes back as the claims it was made of, and a CBOR token does so
  exactly if it does not look like a JWT.
-/

namespace SecureBinding.Eat

open Go Go.Json Lib
open Agtp (Sign1Message)

variable {Key SigningKey : Type} {libs : Libraries Key SigningKey} {key : Key} {token : Bytes}
  {sysNow : SysTime} {claims claims' : EATClaims}

/-! ### Signed tokens -/

/-- The parts of a JWT, and what they decode to. -/
structure JWTParts where
  header : GoString
  payload : GoString
  signature : GoString
  headerText : Bytes
  payloadText : Bytes
  signatureBytes : Bytes
  method : GoString

/-- The signing method that the header of a JWT names. -/
def headerMethod (headerText : Bytes) : Option GoString :=
  match Json.parse headerText with
  | some (.obj members) =>
    match storeMap members (lit "alg") with
    | some (.str method) => some method
    | _ => none
  | _ => none

/-- The token is a JWT whose payload decodes to the claims and is signed under the key with an
ECDSA method. -/
structure SignedJWT (libs : Libraries Key SigningKey) (key : Key) (token : GoString)
    (claims : EATClaims) (parts : JWTParts) : Prop where
  split : split 0x2e token = [parts.header, parts.payload, parts.signature]
  headerText : base64RawURLDecode parts.header = some parts.headerText
  payloadText : base64RawURLDecode parts.payload = some parts.payloadText
  signatureBytes : base64RawURLDecode parts.signature = some parts.signatureBytes
  alg : headerMethod parts.headerText = some parts.method
  method : libs.isECDSA parts.method = true
  signed : libs.verifyJWT parts.method (parts.header ++ 0x2e :: parts.payload)
    parts.signatureBytes key = true
  decoded : libs.unmarshalJSON parts.payloadText = some claims

/-- The claims are not expired. An expiry of zero stands for none. -/
def NotExpired (sysNow : SysTime) (claims : EATClaims) : Prop :=
  claims.expiresAt = 0 ∨ sysNow.val < Time.unix claims.expiresAt

/-- The documented behaviour of `ParseWithClaims` without options, with the callback of the
decoder: the token is well formed, signed with an ECDSA method under the key, and not expired. -/
def ParsesJWT (libs : Libraries Key SigningKey) : Prop :=
  ∀ {key token sysNow claims},
    libs.parseWithClaims token (ecdsaKeyFunc libs key) sysNow = .ok claims ↔
      NotExpired sysNow claims ∧ ∃ parts, SignedJWT libs key token claims parts

/-- The token is a COSE message that verifies under the key and whose payload decodes to the
claims. -/
def SignedCOSE (libs : Libraries Key SigningKey) (key : Key) (token : Bytes) (claims : EATClaims) :
    Prop :=
  ∃ msg verify, libs.cose.unmarshalSign1 token = .ok msg ∧
    libs.cose.newVerifier algorithmES256 key = .ok verify ∧ verify msg = .ok () ∧
    libs.unmarshalCBOR msg.payload = .ok claims

/-- The token is not a COSE message but claims in plain CBOR. -/
def PlainClaims (libs : Libraries Key SigningKey) (token : Bytes) (claims : EATClaims) : Prop :=
  (∃ e, libs.cose.unmarshalSign1 token = .error e) ∧ libs.unmarshalCBOR token = .ok claims

theorem verifySign1_ok_iff {msg : Sign1Message} {u : Unit} :
    (verifySign1 libs key msg).1 = .ok u ↔
      ∃ verify, libs.cose.newVerifier algorithmES256 key = .ok verify ∧ verify msg = .ok () := by
  unfold verifySign1
  cases hvr : libs.cose.newVerifier algorithmES256 key with
  | error e => simp
  | ok verify => cases hvf : verify msg <;> simp [hvf]

/-- The claims that `decodeCBOR` returns are those of a message, verified if there is a key, or
of plain CBOR. -/
theorem decodeCBOR_ok_iff {verifyKey : Option Key} :
    (decodeCBOR libs verifyKey token).1 = .ok claims ↔
      (∃ msg, libs.cose.unmarshalSign1 token = .ok msg ∧ (verifyIfKey libs verifyKey msg).1 = .ok () ∧
          libs.unmarshalCBOR msg.payload = .ok claims) ∨
        PlainClaims libs token claims := by
  unfold decodeCBOR PlainClaims
  cases hmsg : libs.cose.unmarshalSign1 token with
  | error e => simp [mapError_ok_iff]
  | ok msg =>
    simp only [bind_ok_iff, mapError_ok_iff]
    constructor
    · intro h
      obtain ⟨_, hver, hcl⟩ := h
      exact .inl ⟨msg, rfl, hver, hcl⟩
    · intro h
      obtain ⟨_, hm, hver, hcl⟩ | ⟨⟨e, he⟩, -⟩ := h
      · obtain rfl := Except.ok.inj hm
        exact ⟨(), hver, hcl⟩
      · cases he

/-- With a key, a message that is returned was verified under it. -/
theorem decodeCBOR_some_ok_iff :
    (decodeCBOR libs (some key) token).1 = .ok claims ↔
      SignedCOSE libs key token claims ∨ PlainClaims libs token claims := by
  have hsig : (∃ msg, libs.cose.unmarshalSign1 token = .ok msg ∧
      (verifyIfKey libs (some key) msg).1 = .ok () ∧ libs.unmarshalCBOR msg.payload = .ok claims) ↔
      SignedCOSE libs key token claims := by
    simp only [verifyIfKey, verifySign1_ok_iff]
    constructor
    · intro h
      obtain ⟨msg, hmsg, ⟨verify, hvr, hvf⟩, hcl⟩ := h
      exact ⟨msg, verify, hmsg, hvr, hvf, hcl⟩
    · intro h
      obtain ⟨msg, verify, hmsg, hvr, hvf, hcl⟩ := h
      exact ⟨msg, hmsg, ⟨verify, hvr, hvf⟩, hcl⟩
  rw [decodeCBOR_ok_iff, hsig]

/-- Without a key, `decodeCBOR` checks no signature. -/
theorem decodeCBOR_none_checks : (decodeCBOR libs none token).2 = [] := by
  unfold decodeCBOR
  cases libs.cose.unmarshalSign1 token <;> rfl

theorem not_signedCOSE_of_plainClaims (h : PlainClaims libs token claims) :
    ¬ SignedCOSE libs key token claims' := by
  intro hsig
  obtain ⟨⟨e, he⟩, -⟩ := h
  obtain ⟨msg, -, hmsg, -⟩ := hsig
  rw [he] at hmsg
  cases hmsg

theorem decodeJWT_ok_iff (hjwt : ParsesJWT libs) :
    decodeJWT libs (some key) token sysNow = .ok claims ↔
      NotExpired sysNow claims ∧ ∃ parts, SignedJWT libs key token claims parts := by
  rw [← hjwt]
  exact mapError_ok_iff

/-- Claims that are returned were signed in the format they were decoded in. -/
def Signed (libs : Libraries Key SigningKey) (key : Key) (token : Bytes) (claims : EATClaims) :
    Prop :=
  if isJWT token then ∃ parts, SignedJWT libs key token claims parts
  else SignedCOSE libs key token claims

/-! ### Round trips -/

/-- The codecs read back what they have written, and a COSE message is written with its tag. -/
structure RoundTrips (libs : Libraries Key SigningKey) : Prop where
  sign1 : ∀ {msg b}, libs.marshalSign1 msg = .ok b → libs.cose.unmarshalSign1 b = .ok msg
  sign1Tag : ∀ {msg b}, libs.marshalSign1 msg = .ok b → ∃ rest, b = 0xd2 :: 0x84 :: rest
  cbor : ∀ {c b}, libs.marshalCBOR c = .ok b → libs.unmarshalCBOR b = .ok c
  json : ∀ {c x y z b}, libs.marshalJSON c x y z = .ok b → libs.unmarshalJSON b = some c
  es256 : libs.isECDSA (lit "ES256") = true
  jwt : ParsesJWT libs

/-- Signatures of the signing key are valid under the verification key. -/
structure KeyPair (libs : Libraries Key SigningKey) (signingKey : SigningKey) (key : Key) :
    Prop where
  cose : ∀ {sign msg signature}, libs.newSigner algorithmES256 signingKey = .ok sign →
    sign msg = .ok signature →
    ∃ verify, libs.cose.newVerifier algorithmES256 key = .ok verify ∧
      verify { msg with signature } = .ok ()
  jwt : ∀ {text signature}, libs.signES256 text signingKey = .ok signature →
    libs.verifyJWT (lit "ES256") text signature key = true

variable {signingKey : SigningKey} {issuer : GoString} {now : Int}

/-- A token of the CBOR encoder is signed, and holds the claims as the encoder left them. -/
theorem signedCOSE_of_encodeToCBOR (hlibs : RoundTrips libs) (hkeys : KeyPair libs signingKey key)
    (h : encodeToCBOR libs signingKey issuer now claims = .ok (claims', token)) :
    SignedCOSE libs key token claims' ∧ ∃ rest, token = 0xd2 :: 0x84 :: rest := by
  simp only [encodeToCBOR, bind_ok_iff, mapError_ok_iff, pure_ok_iff, Prod.mk.injEq] at h
  obtain ⟨payload, hpay, sign, hsnr, signature, hsign, signed, hsig, rfl, rfl⟩ := h
  obtain ⟨verify, hvr, hvf⟩ := hkeys.cose hsnr hsign
  exact ⟨⟨_, verify, hlibs.sign1 hsig, hvr, hvf, hlibs.cbor hpay⟩, hlibs.sign1Tag hsig⟩

/-- A token that starts with the tag of COSE does not start with a base64 text. -/
theorem not_signedJWT_of_tag {rest : Bytes} {parts : JWTParts}
    (htok : token = 0xd2 :: 0x84 :: rest) : ¬ SignedJWT libs key token claims parts := by
  intro h
  -- The header is not empty, since the token does not start with a dot.
  have hhd : ∃ t, parts.header = 0xd2 :: t := by
    have hspl := h.split
    by_cases hdot : (0x2e : UInt8) ∈ token
    · obtain ⟨before, after, rfl, hbef⟩ := List.eq_append_cons_of_mem hdot
      rw [split_append_cons hbef] at hspl
      obtain ⟨rfl, -⟩ := List.cons.inj hspl
      cases hb : parts.header with
      | nil =>
        rw [hb] at htok
        exact absurd (List.cons.inj htok).1 (by decide)
      | cons a t =>
        rw [hb] at htok
        exact ⟨t, by rw [(List.cons.inj htok).1]⟩
    · rw [split_of_notMem hdot] at hspl
      cases hspl
  obtain ⟨t, ht⟩ := hhd
  have hnone : base64RawURLDecode parts.header = none := by
    rw [ht, base64RawURLDecode, List.filter_cons_of_pos (by decide), List.mapM_cons,
      show base64Value 0xd2 = none by decide]
    rfl
  have hsome := h.headerText
  rw [hnone] at hsome
  cases hsome

/-- A JWT of the encoder has the three parts that were put together. -/
theorem signedJWT_of_encodeToJWT (hlibs : RoundTrips libs) (hkeys : KeyPair libs signingKey key)
    (h : encodeToJWT libs signingKey issuer now claims = .ok (claims', token)) :
    (∃ parts, SignedJWT libs key token claims' parts) ∧ isJWT token = true := by
  simp only [encodeToJWT, signedString, marshalClaimsJSON, bind_ok_iff, mapError_ok_iff,
    pure_ok_iff, Prod.mk.injEq] at h
  obtain ⟨_, ⟨payload, hpay, signature, hsig, rfl⟩, rfl, rfl⟩ := h
  have hnodot : ∀ data, (0x2e : UInt8) ∉ base64RawURLEncode data := by
    intro data hmem
    exact (ne_of_mem_base64RawURLEncode hmem).2.1 rfl
  have htok : signingString payload ++ 0x2e :: base64RawURLEncode signature
      = base64RawURLEncode es256Header
        ++ 0x2e :: (base64RawURLEncode payload ++ 0x2e :: base64RawURLEncode signature) := by
    rw [signingString, List.append_assoc, List.cons_append]
  have hspl : split 0x2e (signingString payload ++ 0x2e :: base64RawURLEncode signature)
      = [base64RawURLEncode es256Header, base64RawURLEncode payload,
          base64RawURLEncode signature] := by
    rw [htok, split_append_cons (hnodot _), split_append_cons (hnodot _),
      split_of_notMem (hnodot _)]
  have hmet : headerMethod es256Header = some (lit "ES256") := by decide +kernel
  refine ⟨⟨⟨base64RawURLEncode es256Header, base64RawURLEncode payload,
    base64RawURLEncode signature, es256Header, payload, signature, lit "ES256"⟩, hspl,
    base64RawURLDecode_base64RawURLEncode _, base64RawURLDecode_base64RawURLEncode _,
    base64RawURLDecode_base64RawURLEncode _, hmet, hlibs.es256,
    hkeys.jwt hsig, hlibs.json hpay⟩, ?_⟩
  have hlen : (base64RawURLEncode es256Header).length = 36 := by decide
  have htake : (signingString payload ++ 0x2e :: base64RawURLEncode signature).take 10
      = (base64RawURLEncode es256Header).take 10 := by
    rw [htok, List.take_append_of_le_length (by rw [hlen]; decide)]
  have hzero : ((base64RawURLEncode es256Header).take 10).contains 0 = false := by
    decide
  have hlong : ¬ (signingString payload ++ 0x2e :: base64RawURLEncode signature).length < 10 := by
    rw [htok, List.length_append, hlen]
    omega
  rw [isJWT, if_neg hlong, htake, hzero]
  simp

/-! ### Libraries for concrete runs -/

/-- Claims with one byte of nonce, as the encoders leave them at second 1000. -/
def sampleClaims (nonce : UInt8) : EATClaims :=
  stampClaims (lit "i") 1000 { nonce := [nonce] }

/-- The encoding of sample claims: a byte string of one byte. -/
def encodeSample (claims : EATClaims) : Except String Bytes :=
  match claims.nonce with
  | [n] => if claims = sampleClaims n then .ok [0x41, n] else .error "unknown claims"
  | _ => .error "unknown claims"

def decodeSample : Bytes → Except String EATClaims
  | [0x41, n] => .ok (sampleClaims n)
  | _ => .error "unknown text"

/-- The start of a signed message: the tag of COSE, the algorithm ES256 and the key id `i`. -/
def sampleHead : Bytes := [0xd2, 0x84, 0x43, 0xa1, 0x01, 0x26, 0xa1, 0x04, 0x41, 0x69]

/-- The message with a payload and the sample signature. -/
def sampleMessage (payload : Bytes) : Sign1Message :=
  { newSign1Message (lit "i") payload with signature := [7] }

def encodeMessage : Sign1Message → Except String Bytes
  | ⟨[(.int64 a, .int64 alg)], [(.int64 l, .bytes kid)], payload, signature⟩ =>
    if a = 1 ∧ alg = algorithmES256 ∧ l = 4 ∧ kid = lit "i" ∧ signature = [7] then
      .ok (sampleHead ++ payload)
    else .error "unknown message"
  | _ => .error "unknown message"

/-- `ParseWithClaims` as documented, with the sample signature. -/
def parseSample (token : GoString) (keyFunc : GoString → Except GoString Unit) (sysNow : SysTime) :
    Except String EATClaims :=
  match split 0x2e token with
  | [header, payload, signature] =>
    match base64RawURLDecode header, base64RawURLDecode payload, base64RawURLDecode signature with
    | some headerText, some payloadText, some signatureBytes =>
      match (headerMethod headerText).map keyFunc, decodeSample payloadText with
      | some (.ok _), .ok claims =>
        if signatureBytes = [7] ∧ (claims.expiresAt = 0 ∨ sysNow.val < Time.unix claims.expiresAt)
        then .ok claims else .error "token is not valid"
      | _, _ => .error "token is unverifiable"
    | _, _, _ => .error "token is malformed"
  | _ => .error "token is malformed"

/-- Libraries with one key, whose signature is always the same. -/
def sampleLibraries : Libraries Unit Unit where
  cose :=
    { unmarshalSign1 := fun b =>
        if b.take 10 = sampleHead then .ok (sampleMessage (b.drop 10)) else .error "not a message"
      algorithm := fun _ => .ok algorithmES256
      newVerifier := fun _ _ => .ok fun msg =>
        if msg.signature = [7] then .ok () else .error "invalid signature"
      unmarshalMap := fun _ => .error "not a map" }
  newSigner _ _ := .ok fun _ => .ok [7]
  marshalSign1 := encodeMessage
  marshalCBOR := encodeSample
  unmarshalCBOR := decodeSample
  marshalJSON c _ _ _ := encodeSample c
  unmarshalJSON b := (decodeSample b).toOption
  isECDSA method := method == lit "ES256"
  signES256 _ _ := .ok [7]
  verifyJWT _ _ signature _ := signature == [7]
  parseWithClaims := parseSample
  parseUnverified _ := .error "not used"

theorem decodeSample_encodeSample {c : EATClaims} {b : Bytes} (h : encodeSample c = .ok b) :
    decodeSample b = .ok c := by
  unfold encodeSample at h
  split at h
  · split at h
    · rename_i hc
      obtain rfl := Except.ok.inj h
      rw [decodeSample, ← hc]
    · cases h
  · cases h

theorem sampleLibraries_sign1 {msg : Sign1Message} {b : Bytes} (h : encodeMessage msg = .ok b) :
    b = sampleHead ++ msg.payload ∧ msg = sampleMessage msg.payload := by
  unfold encodeMessage at h
  split at h
  · split at h
    · rename_i hfld
      obtain ⟨rfl, rfl, rfl, rfl, rfl⟩ := hfld
      exact ⟨(Except.ok.inj h).symm, rfl⟩
    · cases h
  · cases h

theorem sampleLibraries_parsesJWT : ParsesJWT sampleLibraries := by
  intro key token sysNow claims
  show parseSample token (ecdsaKeyFunc sampleLibraries key) sysNow = .ok claims ↔ _
  constructor
  · intro h
    unfold parseSample at h
    split at h
    · rename_i header payload signature hspl
      split at h
      · rename_i headerText payloadText signatureBytes hhd hpay hsig
        split at h
        · rename_i c hkey hcl
          split at h
          · rename_i hval
            obtain rfl := Except.ok.inj h
            obtain ⟨method, hmet, hkey⟩ := Option.map_eq_some_iff.mp hkey
            have hecdsa : sampleLibraries.isECDSA method = true := by
              by_contra hne
              rw [ecdsaKeyFunc, if_neg hne] at hkey
              cases hkey
            refine ⟨hval.2, ⟨header, payload, signature, headerText, payloadText,
              signatureBytes, method⟩, hspl, hhd, hpay, hsig, hmet, hecdsa, ?_, ?_⟩
            · exact beq_iff_eq.mpr hval.1
            · show (decodeSample payloadText).toOption = _
              rw [hcl]
              rfl
          · cases h
        · cases h
      · cases h
    · cases h
  · intro h
    obtain ⟨hexp, parts, hpts⟩ := h
    have hsig : parts.signatureBytes = [7] := beq_iff_eq.mp hpts.signed
    have hcl : decodeSample parts.payloadText = .ok claims := by
      have hdec : (decodeSample parts.payloadText).toOption = some claims := hpts.decoded
      cases hd : decodeSample parts.payloadText with
      | error e =>
        rw [hd] at hdec
        cases hdec
      | ok c =>
        rw [hd] at hdec
        rw [Option.some.inj hdec]
    unfold parseSample
    simp only [hpts.split, hpts.headerText, hpts.payloadText, hpts.signatureBytes,
      hpts.alg, Option.map_some, ecdsaKeyFunc, if_pos hpts.method, hcl, hsig]
    exact if_pos ⟨trivial, hexp⟩

theorem sampleLibraries_roundTrips : RoundTrips sampleLibraries where
  sign1 := by
    intro msg b h
    obtain ⟨rfl, hmsg⟩ := sampleLibraries_sign1 h
    have hhead : (sampleHead ++ msg.payload).take 10 = sampleHead := List.take_left' rfl
    have hrest : (sampleHead ++ msg.payload).drop 10 = msg.payload := List.drop_left' rfl
    simp only [sampleLibraries, hhead, hrest, if_true, ← hmsg]
  sign1Tag := by
    intro msg b h
    obtain ⟨rfl, -⟩ := sampleLibraries_sign1 h
    exact ⟨_, rfl⟩
  cbor := decodeSample_encodeSample
  json := by
    intro c x y z b h
    show (decodeSample b).toOption = some c
    rw [decodeSample_encodeSample h]
    rfl
  es256 := by decide
  jwt := sampleLibraries_parsesJWT

/-- Signatures of the sample libraries. -/
theorem sampleLibraries_keyPair : KeyPair sampleLibraries () () where
  cose := by
    intro sign msg signature hsnr hsign
    obtain rfl := Except.ok.inj hsnr
    obtain rfl := Except.ok.inj hsign
    exact ⟨_, rfl, rfl⟩
  jwt := by
    intro text signature h
    obtain rfl := Except.ok.inj h
    rfl

/-! ### Signed means signed, unless the token is plain -/

/-- All claims that `decodeCBOR` returns are signed exactly if the token is not plain CBOR, and
for `Decode` a token that looks like a JWT is enough. -/
theorem signed_iff_not_plain (hjwt : ParsesJWT libs) (key : Key) (token : Bytes)
    (sysNow : SysTime) :
    ((∀ claims, decode libs (some key) token sysNow = .ok claims → Signed libs key token claims) ↔
        isJWT token = true ∨ ∀ claims, ¬ PlainClaims libs token claims) ∧
      ((∀ claims, (decodeCBOR libs (some key) token).1 = .ok claims →
          SignedCOSE libs key token claims) ↔
        ∀ claims, ¬ PlainClaims libs token claims) := by
  have hcbor : (∀ claims, (decodeCBOR libs (some key) token).1 = .ok claims →
      SignedCOSE libs key token claims) ↔ ∀ claims, ¬ PlainClaims libs token claims := by
    simp only [decodeCBOR_some_ok_iff]
    constructor
    · intro h claims hpl
      exact not_signedCOSE_of_plainClaims hpl (h claims (.inr hpl))
    · intro h claims hcl
      exact hcl.resolve_right (h claims)
  refine ⟨?_, hcbor⟩
  unfold Signed decode
  cases hfmt : isJWT token with
  | true =>
    refine iff_of_true ?_ (.inl rfl)
    intro claims hcl
    exact ((decodeJWT_ok_iff hjwt).mp hcl).2
  | false =>
    simp only [Bool.false_eq_true, if_false, false_or]
    exact hcbor

/-- A clock reading 100 seconds after the sample claims were issued. -/
def sampleNow : SysTime := ⟨Time.unix 1100, by decide⟩

theorem signed_message_is_signed :
    decode sampleLibraries (some ()) (sampleHead ++ [0x41, 1]) sampleNow = .ok (sampleClaims 1) ∧
      Signed sampleLibraries () (sampleHead ++ [0x41, 1]) (sampleClaims 1) := by
  have hdec : decode sampleLibraries (some ()) (sampleHead ++ [0x41, 1]) sampleNow
      = .ok (sampleClaims 1) := by
    decide
  refine ⟨hdec, (signed_iff_not_plain sampleLibraries_parsesJWT () _ sampleNow).1.mpr (.inr ?_) _
    hdec⟩
  intro claims hpl
  obtain ⟨⟨e, he⟩, -⟩ := hpl
  cases he

/-- Claims in plain CBOR are returned although there is a key. -/
theorem plain_claims_are_returned :
    decode sampleLibraries (some ()) [0x41, 1] sampleNow = .ok (sampleClaims 1) ∧
      (decodeCBOR sampleLibraries (some ()) [0x41, 1]).1 = .ok (sampleClaims 1) ∧
      (decodeCBOR sampleLibraries (some ()) [0x41, 1]).2.length = 0 ∧
      ¬ Signed sampleLibraries () [0x41, 1] (sampleClaims 1) := by
  refine ⟨by decide, by decide, by decide, ?_⟩
  have hfmt : isJWT [0x41, 1] = false := by decide
  rw [Signed, if_neg (by rw [hfmt]; decide)]
  exact not_signedCOSE_of_plainClaims ⟨⟨_, rfl⟩, rfl⟩

/-! ### Round trips through the detection of the format -/

/-- A CBOR token comes back as the claims it was made of exactly if it does not look like a JWT.
A JWT does so until it expires. -/
theorem round_trip_iff (hlibs : RoundTrips libs) (hkeys : KeyPair libs signingKey key)
    (issuer : GoString) (now : Int) (claims : EATClaims) (sysNow : SysTime) :
    (∀ claims' token, encodeToCBOR libs signingKey issuer now claims = .ok (claims', token) →
        (decode libs (some key) token sysNow = .ok claims' ↔ isJWT token = false)) ∧
      ∀ claims' token, encodeToJWT libs signingKey issuer now claims = .ok (claims', token) →
        NotExpired sysNow claims' → decode libs (some key) token sysNow = .ok claims' := by
  constructor
  · intro claims' token h
    obtain ⟨hsig, rest, htok⟩ := signedCOSE_of_encodeToCBOR hlibs hkeys h
    cases hfmt : isJWT token with
    | true =>
      refine iff_of_false ?_ (by decide)
      intro hdec
      rw [decode, if_pos hfmt, decodeJWT_ok_iff hlibs.jwt] at hdec
      obtain ⟨-, parts, hpts⟩ := hdec
      exact not_signedJWT_of_tag htok hpts
    | false =>
      refine iff_of_true ?_ rfl
      rw [decode, if_neg (by rw [hfmt]; decide)]
      exact decodeCBOR_some_ok_iff.mpr (.inl hsig)
  · intro claims' token h hexp
    obtain ⟨hsig, hfmt⟩ := signedJWT_of_encodeToJWT hlibs hkeys h
    rw [decode, if_pos hfmt]
    exact (decodeJWT_ok_iff hlibs.jwt).mpr ⟨hexp, hsig⟩

theorem round_trip_sample :
    (encodeToCBOR sampleLibraries () (lit "i") 1000 { nonce := [1] }
        = .ok (sampleClaims 1, sampleHead ++ [0x41, 1]) ∧
      decode sampleLibraries (some ()) (sampleHead ++ [0x41, 1]) sampleNow
        = .ok (sampleClaims 1)) ∧
      ∃ token, encodeToJWT sampleLibraries () (lit "i") 1000 { nonce := [0x2e] }
          = .ok (sampleClaims 0x2e, token) ∧
        decode sampleLibraries (some ()) token sampleNow = .ok (sampleClaims 0x2e) := by
  have hcbor : encodeToCBOR sampleLibraries () (lit "i") 1000 { nonce := [1] }
      = .ok (sampleClaims 1, sampleHead ++ [0x41, 1]) := by
    decide
  have hjwt : encodeToJWT sampleLibraries () (lit "i") 1000 { nonce := [0x2e] }
      = .ok (sampleClaims 0x2e, signingString [0x41, 0x2e] ++ 0x2e :: base64RawURLEncode [7]) := by
    decide
  have hround := round_trip_iff sampleLibraries_roundTrips sampleLibraries_keyPair (lit "i") 1000
  refine ⟨⟨hcbor, ?_⟩, _, hjwt, ?_⟩
  · exact ((hround { nonce := [1] } sampleNow).1 _ _ hcbor).mpr (by decide)
  · exact (hround { nonce := [0x2e] } sampleNow).2 _ _ hjwt (.inr (by decide))

/-- A nonce that holds a dot makes a CBOR token that is taken for a JWT. -/
theorem dotted_token_is_taken_for_jwt :
    encodeToCBOR sampleLibraries () (lit "i") 1000 { nonce := [0x2e] }
        = .ok (sampleClaims 0x2e, sampleHead ++ [0x41, 0x2e]) ∧
      decode sampleLibraries (some ()) (sampleHead ++ [0x41, 0x2e]) sampleNow
        = .error "failed to parse JWT: token is malformed" :=
  ⟨by decide, by decide⟩

end SecureBinding.Eat
