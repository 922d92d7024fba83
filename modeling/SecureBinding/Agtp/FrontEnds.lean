import SecureBinding.Agtp.CWT

/-!
# Agtp.FrontEnds

Exactly which tokens the parsers of `pkg/agtp` let pass.

`parseJWT_ok_iff` and `parseCWT_ok_iff` put a successful parse of either profile in
one form: the options are usable and the key they have for the token's key id verifies it
(`JWTVerified`, `CWTVerified`), the payload decodes into the claims, and the registered
claims are valid. Unlike `Parsed` and `CWTParsed`, which say what follows from a
successful parse, these go both ways; for JWTs that takes a library that makes no demands
of its own (`Complete`).
-/

namespace SecureBinding.Agtp

open Go Go.Json IdentityPolicy JWT
open Token (VerifyError KeyFunc KeySource isListed)

/-! ### Options -/

section Options

variable {Key : Type}

/-- The options have a key function or local keys, and not both. -/
structure KeySourceGiven (source : KeySource Key) : Prop where
  given : (source.keyFunc.isSome || !source.localKeys.isEmpty) = true
  single : (source.keyFunc.isNone || source.localKeys.isEmpty) = true

/-- The guards in the form of the JWT profile. -/
theorem keySourceGiven_iff {source : KeySource Key} :
    KeySourceGiven source ↔ ¬(source.keyFunc.isNone && source.localKeys.isEmpty) = true ∧
      ¬(source.keyFunc.isSome && !source.localKeys.isEmpty) = true := by
  have hfld : KeySourceGiven source ↔ (source.keyFunc.isSome || !source.localKeys.isEmpty) = true ∧
      (source.keyFunc.isNone || source.localKeys.isEmpty) = true :=
    ⟨fun h => ⟨h.given, h.single⟩, fun h => ⟨h.1, h.2⟩⟩
  rw [hfld]
  cases source.keyFunc <;> cases source.localKeys <;> simp

/-- Signing methods that may be allowed. -/
def SafeMethods (methods : List GoString) : Prop :=
  methods ≠ [] ∧
    methods.any (fun method => trimSpace method == [] || equalFoldASCII method (lit "none")) = false

/-- Algorithms that may be allowed. -/
def SafeAlgorithms (algorithms : List Algorithm) : Prop :=
  algorithms ≠ [] ∧ algorithmReserved ∉ algorithms

/-- The options as the JWT library gets them. -/
def libraryOptions (opts : VerifyOptions Key) : ParserOptions where
  validMethods := opts.validMethods
  issuer := opts.expectedIssuer
  audience := opts.expectedAudience
  timeFunc := if opts.now.isZero then none else some opts.now

theorem time_libraryOptions (opts : VerifyOptions Key) (sysNow : SysTime) :
    (libraryOptions opts).time sysNow = opts.time sysNow := by
  unfold libraryOptions ParserOptions.time VerifyOptions.time
  split <;> rfl

theorem parserOptions_ok_iff {opts : VerifyOptions Key} {parserOpts : ParserOptions} :
    parserOptions opts = .ok parserOpts ↔
      KeySourceGiven opts.toKeySource ∧ SafeMethods opts.validMethods ∧
      isBlank opts.expectedIssuer = false ∧ isBlank opts.expectedAudience = false ∧
      parserOpts = libraryOptions opts := by
  simp only [parserOptions, parserOptionsWith, Lib.ite_error_ok_iff, keySourceGiven_iff]
  constructor
  · intro h
    obtain ⟨hgiv, hsng, hms, hsafe, hiss, haud, heq⟩ := h
    exact ⟨⟨hgiv, hsng⟩, ⟨by simpa using hms, Bool.eq_false_iff.mpr hsafe⟩,
      Bool.eq_false_iff.mpr hiss, Bool.eq_false_iff.mpr haud, (Except.ok.inj heq).symm⟩
  · intro h
    obtain ⟨⟨hgiv, hsng⟩, ⟨hms, hsafe⟩, hiss, haud, rfl⟩ := h
    exact ⟨hgiv, hsng, by simpa using hms, Bool.eq_false_iff.mp hsafe,
      Bool.eq_false_iff.mp hiss, Bool.eq_false_iff.mp haud, rfl⟩

theorem cwtOptions_ok_iff {opts : CWTVerifyOptions Key} {keyFunc : KeyFunc Key} :
    validateCWTVerifyOptions opts = .ok () ∧ cwtKeyFuncForOptions opts = .ok keyFunc ↔
      KeySourceGiven opts.toKeySource ∧ SafeAlgorithms opts.validAlgorithms ∧
      isBlank opts.expectedIssuer = false ∧ isBlank opts.expectedAudience = false ∧
      opts.toKeySource.resolve id = .ok keyFunc := by
  simp only [validateCWTVerifyOptions, cwtKeyFuncForOptions, Lib.bind_ok_iff,
    Token.require_ok_iff, exists_const]
  constructor
  · intro h
    obtain ⟨⟨hne, hsafe, hiss, haud⟩, hgiv, hsng, hkeys⟩ := h
    exact ⟨⟨hgiv, hsng⟩, ⟨by simpa using hne, by simpa using hsafe⟩, by simpa using hiss,
      by simpa using haud, hkeys⟩
  · intro h
    obtain ⟨⟨hgiv, hsng⟩, ⟨hne, hsafe⟩, hiss, haud, hkeys⟩ := h
    exact ⟨⟨by simpa using hne, by simpa using hsafe, by simpa using hiss,
      by simpa using haud⟩, hgiv, hsng, hkeys⟩

end Options

/-! ### Front ends -/

section FrontEnds

variable {Key : Type}

/-- The token is well formed and without duplicate members, and the key in `parts`
verifies it with an allowed method; its header has the key id. -/
structure SignedParts (lib : Library Key) (validMethods : List GoString) (tokenString : GoString)
    (keyID : GoString) (parts : TokenParts Key) : Prop where
  unique : rejectDuplicateJWTJSONMembers tokenString = .ok ()
  split : split 0x2e tokenString = [parts.header, parts.payload, parts.signature]
  headerText : base64RawURLDecode parts.header = some parts.headerText
  payloadText : base64RawURLDecode parts.payload = some parts.payloadText
  signatureBytes : base64RawURLDecode parts.signature = some parts.signatureBytes
  headerValue : Json.parse parts.headerText = some (.obj parts.members)
  alg : storeMap parts.members (lit "alg") = some (.str parts.alg)
  known : lib.known parts.alg = true
  method : parts.alg ∈ validMethods
  keyID : keyIDWith id (storeMap parts.members) = .ok keyID
  signed : lib.verify parts.alg (parts.header ++ [0x2e] ++ parts.payload) parts.signatureBytes
    parts.key = true

/-- The JWT has the key id, and the key verifies it with an allowed method. -/
def JWTSignedBy (lib : Library Key) (validMethods : List GoString) (tokenString keyID : GoString)
    (key : Key) : Prop :=
  ∃ parts, SignedParts lib validMethods tokenString keyID parts ∧ parts.key = key

/-- The message has the key id in its protected header only, and the key verifies it with
an allowed algorithm. -/
def CWTSignedBy (cose : Cose Key) (validAlgorithms : List Algorithm) (token : Bytes)
    (keyID : GoString) (key : Key) : Prop :=
  ∃ msg alg verify, cose.unmarshalSign1 token = .ok msg ∧
    msg.unprotectedHeader.lookup headerLabelKeyID = none ∧
    cose.algorithm msg.protectedHeader = .ok alg ∧ alg ∈ validAlgorithms ∧
    keyIDFromCOSE msg = .ok keyID ∧ cose.newVerifier alg key = .ok verify ∧ verify msg = .ok ()

/-- The claims in a message, verified or not. -/
def messageClaims (cose : Cose Key) (token : Bytes) : Except String ClaimMap := do
  let msg ← cose.unmarshalSign1 token
  cose.unmarshalMap msg.payload

/-- The options are usable, and the key they have for the key id verifies the JWT. -/
structure JWTVerified (lib : Library Key) (opts : VerifyOptions Key) (tokenString keyID : GoString) :
    Prop where
  keySource : KeySourceGiven opts.toKeySource
  methods : SafeMethods opts.validMethods
  issuer : isBlank opts.expectedIssuer = false
  audience : isBlank opts.expectedAudience = false
  signed : ∃ keyFunc key, opts.toKeySource.resolve id = .ok keyFunc ∧ keyFunc keyID = .ok key ∧
    JWTSignedBy lib opts.validMethods tokenString keyID key

/-- The options are usable, and the key they have for the key id verifies the message. -/
structure CWTVerified (cose : Cose Key) (opts : CWTVerifyOptions Key) (token : Bytes)
    (keyID : GoString) : Prop where
  keySource : KeySourceGiven opts.toKeySource
  algorithms : SafeAlgorithms opts.validAlgorithms
  issuer : isBlank opts.expectedIssuer = false
  audience : isBlank opts.expectedAudience = false
  signed : ∃ keyFunc key, opts.toKeySource.resolve id = .ok keyFunc ∧ keyFunc keyID = .ok key ∧
    CWTSignedBy cose opts.validAlgorithms token keyID key

variable {lib : Library Key} {cose : Cose Key} {tokenString keyID : GoString} {token : Bytes}
  {sysNow : SysTime}

theorem SignedParts.determined {methods methods' : List GoString} {keyID' : GoString}
    {parts parts' : TokenParts Key} (h : SignedParts lib methods tokenString keyID parts)
    (h' : SignedParts lib methods' tokenString keyID' parts') :
    keyID = keyID' ∧ parts.signatureBytes = parts'.signatureBytes := by
  have hspl := h.split.symm.trans h'.split
  simp only [List.cons.injEq, and_true] at hspl
  obtain ⟨hhd, -, hsig⟩ := hspl
  have htext : parts.headerText = parts'.headerText := by
    have htext := h.headerText
    rw [hhd, h'.headerText] at htext
    exact (Option.some.inj htext).symm
  have hmembers : parts.members = parts'.members := by
    have hval := h.headerValue
    rw [htext, h'.headerValue] at hval
    simpa using hval.symm
  have hid := h.keyID
  rw [hmembers, h'.keyID] at hid
  have hby := h.signatureBytes
  rw [hsig, h'.signatureBytes] at hby
  exact ⟨(Except.ok.inj hid).symm, (Option.some.inj hby).symm⟩

theorem JWTVerified.keyID_unique {opts : VerifyOptions Key} {keyID' : GoString}
    (h : JWTVerified lib opts tokenString keyID) (h' : JWTVerified lib opts tokenString keyID') :
    keyID = keyID' := by
  obtain ⟨-, -, -, -, parts, hpts, -⟩ := h.signed
  obtain ⟨-, -, -, -, parts', hpts', -⟩ := h'.signed
  exact (hpts.determined hpts').1

theorem JWTVerified.headerKeyID_eq {opts : VerifyOptions Key}
    (h : JWTVerified lib opts tokenString keyID) : headerKeyID tokenString = some keyID := by
  obtain ⟨-, -, -, -, parts, hpts, -⟩ := h.signed
  obtain ⟨_, hkid, -, rfl⟩ := keyIDWith_ok_iff.mp hpts.keyID
  simp [headerKeyID, hpts.split, hpts.headerText, hpts.headerValue, hkid]

/-- The library accepts a token under a key id exactly if the key of that id verifies it
and the registered claims are valid. -/
theorem parseWithClaims_ok_iff (hlib : Lawful lib) (hcom : Complete lib)
    {fields : StructType Claims} {opts : VerifyOptions Key} {keyFunc : KeyFunc Key}
    {claims : Claims} (hscan : rejectDuplicateJWTJSONMembers tokenString = .ok ()) :
    (∃ header, lib.parseWithClaims (unmarshalClaims fields) tokenString
        (fun header => keyIDWith id header >>= keyFunc) (libraryOptions opts) sysNow =
          .ok (header, claims) ∧ keyIDWith id header = .ok keyID) ↔
      ∃ parts, SignedParts lib opts.validMethods tokenString keyID parts ∧
        keyFunc keyID = .ok parts.key ∧ payloadClaims fields tokenString = some claims ∧
        RegisteredValid (libraryOptions opts) (opts.time sysNow) claims.toRegisteredClaims := by
  constructor
  · intro h
    obtain ⟨header, hpar, hid⟩ := h
    obtain ⟨parts, hv⟩ := hlib hpar
    obtain rfl := hv.headerMap
    have hkey := hv.key
    rw [hid, Lib.ok_bind] at hkey
    have hreg := hv.registered
    rw [time_libraryOptions] at hreg
    refine ⟨parts, ⟨hscan, hv.split, hv.headerText, hv.payloadText, hv.signatureBytes,
      hv.headerValue, hv.alg, hv.known, hv.method, hid, hv.signed⟩, hkey, ?_, hreg⟩
    simp only [payloadClaims, hv.split, hv.payloadText]
    exact hv.decoded
  · intro h
    obtain ⟨parts, hs, hkey, hpay, hreg⟩ := h
    simp only [payloadClaims, hs.split, hs.payloadText] at hpay
    rw [← time_libraryOptions] at hreg
    have hv : Verifies lib (unmarshalClaims fields) tokenString
        (fun header => keyIDWith id header >>= keyFunc) (libraryOptions opts) sysNow
        (storeMap parts.members) claims parts :=
      ⟨hs.split, hs.headerText, hs.payloadText, hs.signatureBytes, hs.headerValue, rfl, hpay,
        hs.alg, hs.known, hs.method, by rw [hs.keyID, Lib.ok_bind, hkey], hs.signed, hreg⟩
    exact ⟨storeMap parts.members, hcom hv, hs.keyID⟩

/-- `parseJWT` succeeds exactly on a verified token that is not revoked and whose
registered claims are valid. -/
theorem parseJWT_ok_iff (hlib : Lawful lib) (hcom : Complete lib)
    {fields : StructType Claims} {opts : VerifyOptions Key} {claims : Claims} :
    parseJWT lib fields tokenString opts sysNow = .ok (claims, keyID) ↔
      JWTVerified lib opts tokenString keyID ∧ payloadClaims fields tokenString = some claims ∧
      RegisteredValid (libraryOptions opts) (opts.time sysNow) claims.toRegisteredClaims ∧
      isListed claims.id opts.revokedJWTIDs = false := by
  simp only [parseJWT, parseVerified, Lib.bind_ok_iff, Lib.mapError_ok_iff,
    Prod.exists, Lib.pure_ok_iff, Prod.mk.injEq, Token.require_ok_iff,
    parserOptions_ok_iff, exists_const]
  constructor
  · intro h
    obtain ⟨_, ⟨hsrc, hms, hiss, haud, rfl⟩, keyFunc, hkeys, _, hscan, header,
      claims', hpar, keyID', hid, hrev, rfl, rfl⟩ := h
    obtain ⟨parts, hs, hkey, hpay, hreg⟩ :=
      (parseWithClaims_ok_iff hlib hcom hscan).mp ⟨header, hpar, hid⟩
    exact ⟨⟨hsrc, hms, hiss, haud, keyFunc, parts.key, hkeys, hkey, parts, hs, rfl⟩,
      hpay, hreg, by simpa using hrev⟩
  · intro h
    obtain ⟨⟨hsrc, hms, hiss, haud, keyFunc, _, hkeys, hkey, parts, hs, rfl⟩, hpay, hreg, hrev⟩ := h
    obtain ⟨header, hpar, hid⟩ := (parseWithClaims_ok_iff hlib hcom hs.unique).mpr
      ⟨parts, hs, hkey, hpay, hreg⟩
    exact ⟨_, ⟨hsrc, hms, hiss, haud, rfl⟩, keyFunc, hkeys, (), hs.unique, header,
      claims, hpar, keyID, hid, by simpa using hrev, rfl, rfl⟩

/-- `parseCWT` succeeds exactly on a verified message whose registered claims are
valid. -/
theorem parseCWT_ok_iff {opts : CWTVerifyOptions Key} {claims : ClaimMap} :
    parseCWT cose token opts sysNow = .ok (claims, keyID) ↔
      CWTVerified cose opts token keyID ∧ messageClaims cose token = .ok claims ∧
      validateCWTRegisteredClaims claims opts sysNow = .ok () := by
  simp only [parseCWT, messageClaims, Lib.bind_ok_iff, Lib.mapError_ok_iff,
    Lib.pure_ok_iff, Prod.mk.injEq, Token.require_ok_iff, exists_const]
  constructor
  · intro h
    obtain ⟨_, hval, keyFunc, hkeys, msg, hmsg, hunp, alg, halg, hall, keyID', hid,
      key, hkey, verify, hvr, _, hvf, claims', hcl, _, hreg, rfl, rfl⟩ := h
    obtain ⟨hsrc, halgs, hiss, haud, hrsv⟩ := cwtOptions_ok_iff.mp ⟨hval, hkeys⟩
    refine ⟨⟨hsrc, halgs, hiss, haud, keyFunc, key, hrsv, hkey, msg, alg, verify,
      hmsg, ?_, halg, by simpa using hall, hid, hvr, hvf⟩, ⟨msg, hmsg, hcl⟩,
      hreg⟩
    simpa using hunp
  · intro h
    obtain ⟨⟨hsrc, halgs, hiss, haud, keyFunc, key, hrsv, hkey, msg, alg, verify,
      hmsg, hunp, halg, hall, hid, hvr, hvf⟩, ⟨msg', hmsg', hcl⟩,
      hreg⟩ := h
    obtain rfl : msg = msg' := Except.ok.inj (hmsg.symm.trans hmsg')
    obtain ⟨hval, hkeys⟩ := cwtOptions_ok_iff.mpr ⟨hsrc, halgs, hiss, haud, hrsv⟩
    exact ⟨(), hval, keyFunc, hkeys, msg, hmsg, by simp [hunp], alg, halg,
      by simpa using hall, keyID, hid, key, hkey, verify, hvr, (), hvf, claims,
      hcl, (), hreg, rfl, rfl⟩

end FrontEnds

/-! ### Verifiers -/

section Verifiers

variable {Key : Type}

/-- The checks of a grant's claims after the parse. -/
structure GrantChecks (opts : VerifyOptions Key) (c : Claims) : Prop where
  notRevoked : isListed c.id opts.revokedJWTIDs = false
  profile : validateProfileClaims c tokenTypeIdentityGrant = .ok ()
  id : isBlank c.id = false
  subject : isBlank c.subject = false
  confirmation : isBlank c.confirmationKeyID = false

/-- The checks of a statement's claims after the parse. -/
structure StatementChecks (opts : VerifyOptions Key) (c : Claims) : Prop where
  notRevoked : isListed c.id opts.revokedJWTIDs = false
  profile : validateProfileClaims c tokenTypeSessionBinding = .ok ()
  id : isBlank c.id = false
  fields : validateSessionBindingClaims c = .ok ()

/-- The token passes the front end, `checks` being those of its kind: its header has the key
id, its payload the claims. -/
structure Passes (lib : Library Key) (fields : StructType Claims) (opts : VerifyOptions Key)
    (tokenString : GoString) (sysNow : SysTime) (checks : Claims → Prop) (c : Claims)
    (keyID : GoString) : Prop where
  verified : JWTVerified lib opts tokenString keyID
  claims : payloadClaims fields tokenString = some c
  registered : RegisteredValid (libraryOptions opts) (opts.time sysNow) c.toRegisteredClaims
  checks : checks c

variable {lib : Library Key} {fields : StructType Claims} {opts : VerifyOptions Key}
  {tokenString : GoString} {sysNow : SysTime} {sha256 : Bytes → Bytes}

theorem verifyIdentityGrantJWT_iff_passes (hlib : Lawful lib) (hcom : Complete lib)
    (grant : VerifiedGrant) :
    verifyIdentityGrantJWT sha256 lib tokenString opts sysNow = .ok grant ↔
      ∃ c keyID, Passes lib (identityGrantClaims lib) opts tokenString sysNow (GrantChecks opts) c
        keyID ∧ grant = grantOf sha256 tokenString opts c keyID := by
  simp only [verifyIdentityGrantJWT, Lib.bind_ok_iff, Prod.exists, Lib.pure_ok_iff,
    Token.require_ok_iff, exists_const, parseJWT_ok_iff hlib hcom]
  constructor
  · intro h
    obtain ⟨c, keyID, ⟨hver, hcl, hreg, hrev⟩, _, hprf, hid, hsub, hconf, rfl⟩ := h
    exact ⟨c, keyID, ⟨hver, hcl, hreg, hrev, hprf, by simpa using hid,
      by simpa using hsub, by simpa using hconf⟩, rfl⟩
  · intro h
    obtain ⟨c, keyID, hpass, rfl⟩ := h
    have hchk := hpass.checks
    exact ⟨c, keyID, ⟨hpass.verified, hpass.claims, hpass.registered, hchk.notRevoked⟩, (),
      hchk.profile, by simpa using hchk.id, by simpa using hchk.subject,
      by simpa using hchk.confirmation, rfl⟩

theorem verifySessionBindingJWT_iff_passes (hlib : Lawful lib) (hcom : Complete lib)
    (statement : VerifiedSessionBindingStatement) :
    verifySessionBindingJWT lib tokenString opts sysNow = .ok statement ↔
      ∃ c keyID, Passes lib (sessionBindingClaims lib) opts tokenString sysNow
        (StatementChecks opts) c keyID ∧ statement = statementOf opts c keyID := by
  simp only [verifySessionBindingJWT, Lib.bind_ok_iff, Prod.exists, Lib.pure_ok_iff,
    Token.require_ok_iff, exists_const, parseJWT_ok_iff hlib hcom]
  constructor
  · intro h
    obtain ⟨c, keyID, ⟨hver, hcl, hreg, hrev⟩, _, hprf, hid, _, hfld, rfl⟩ := h
    exact ⟨c, keyID, ⟨hver, hcl, hreg, hrev, hprf, by simpa using hid, hfld⟩, rfl⟩
  · intro h
    obtain ⟨c, keyID, hpass, rfl⟩ := h
    have hchk := hpass.checks
    exact ⟨c, keyID, ⟨hpass.verified, hpass.claims, hpass.registered, hchk.notRevoked⟩, (),
      hchk.profile, by simpa using hchk.id, (), hchk.fields, rfl⟩

end Verifiers

/-! ### Sample tokens -/

/-- A second of the clock. -/
def sampleOptionsAt (issuer keyID : GoString) (key : Bytes) (second : Int) : VerifyOptions Bytes :=
  { sampleVerifyOptions issuer keyID key with now := Time.unix second }

def sampleClock : SysTime := ⟨1, by decide⟩

section Samples

variable {t keyID keyID₀ issuer : GoString} {key key₀ : Bytes} {fields : StructType Claims}
  {c : Claims}

theorem jwtSignedBy_sampleLibrary_iff {methods : List GoString}
    (h₀ : JWTSignedBy sampleLibrary methods t keyID₀ key₀) :
    JWTSignedBy sampleLibrary methods t keyID key ↔ keyID = keyID₀ ∧ key = key₀ := by
  constructor
  · intro h
    obtain ⟨parts, hpts, rfl⟩ := h
    obtain ⟨parts₀, hpts₀, rfl⟩ := h₀
    obtain ⟨hid, hby⟩ := hpts.determined hpts₀
    have hkey : parts.signatureBytes = parts.key := beq_iff_eq.mp hpts.signed
    have hkey₀ : parts₀.signatureBytes = parts₀.key := beq_iff_eq.mp hpts₀.signed
    exact ⟨hid, by rw [← hkey, ← hkey₀, hby]⟩
  · intro h
    obtain ⟨rfl, rfl⟩ := h
    exact h₀

/-- A token that is accepted at second 10 is signed by the key of the options. -/
theorem jwtSignedBy_of_run
    (hrun : parseJWT sampleLibrary fields t (sampleOptionsAt issuer keyID key 10) sampleClock =
      .ok (c, keyID))
    (hkey : ((sampleOptionsAt issuer keyID key 10).toKeySource.resolve id >>= fun f => f keyID) =
      .ok key) :
    JWTSignedBy sampleLibrary [lit "t"] t keyID key ∧ payloadClaims fields t = some c := by
  obtain ⟨hver, hcl, -⟩ := (parseJWT_ok_iff sampleLibrary_lawful reference_complete).mp hrun
  obtain ⟨keyFunc, key', hrsv, hkey', hsig⟩ := hver.signed
  rw [hrsv, Lib.ok_bind, hkey'] at hkey
  obtain rfl := Except.ok.inj hkey
  exact ⟨hsig, hcl⟩

end Samples

end SecureBinding.Agtp
