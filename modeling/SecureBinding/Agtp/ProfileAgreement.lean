import SecureBinding.Agtp.Encodings
import SecureBinding.Agtp.FrontEnds

/-!
# Agtp.ProfileAgreement

The JWT and the CWT profile of `pkg/agtp`, side by side.

Each profile has its own parser and its own validator of the registered claims: those
of the JWT library, and `validateCWTRegisteredClaims`. A verifier of either profile is
put in the form "the options are usable and a key they offer verifies the token, the
registered claims are valid, the claims pass the checks of the token's kind"
(`parseJWT_ok_iff`, `parseCWT_ok_iff`). For tokens with the same claims the first
part and the last are the same; the middle one is not. What both validators demand is
`CommonValid`; `JWTOnly` and `CWTOnly` are the claims and clocks that only one of them
lets pass:

* the CWT validator wants `iat`, which the library does not;
* at the instant of expiry the library has a token expired, the CWT validator not yet;
* the library compares the issuer as it is, the CWT validator in its trimmed form;
* the library respects `nbf`, the CWT validator does not look at it.
-/

namespace SecureBinding.Agtp

open Go Go.Json IdentityPolicy JWT
open Token (isListed)

/-! ### Registered claims -/

/-- What both validators demand of the registered claims. -/
structure CommonValid (audience : GoString) (now : Time) (c : RegisteredClaims) : Prop where
  notExpired : ∃ e, c.expiresAt = some e ∧ now ≤ e
  notFuture : ∀ t, c.issuedAt = some t → t ≤ now
  audience : audience ∈ c.audience

/-- The JWT library lets the claims pass, the CWT validator does not. -/
structure JWTOnly (expected : GoString) (now : Time) (c : RegisteredClaims) : Prop where
  issuer : c.issuer = expected
  beforeExpiry : c.expiresAt ≠ some now
  notBefore : ∀ t, c.notBefore = some t → t ≤ now
  /-- There is no `iat`, or the expected issuer itself has surrounding white space. -/
  refused : c.issuedAt = none ∨ trimSpace c.issuer ≠ expected

/-- The CWT validator lets the claims pass, the JWT library does not. -/
structure CWTOnly (expected : GoString) (now : Time) (c : RegisteredClaims) : Prop where
  issuer : trimSpace c.issuer = expected
  issuedAt : c.issuedAt ≠ none
  /-- The token expires at this instant, is not valid yet, or its issuer has surrounding
  white space. -/
  refused : c.expiresAt = some now ∨ (∃ t, c.notBefore = some t ∧ now < t) ∨ c.issuer ≠ expected

/-- What the JWT library demands besides. -/
abbrev JWTDemands (expected : GoString) (now : Time) (c : RegisteredClaims) : Prop :=
  c.expiresAt ≠ some now ∧ (∀ t, c.notBefore = some t → t ≤ now) ∧ c.issuer = expected

/-- What the CWT validator demands besides. -/
abbrev CWTDemands (expected : GoString) (c : RegisteredClaims) : Prop :=
  c.issuedAt ≠ none ∧ trimSpace c.issuer = expected

section Registered

variable {Key : Type} {now : Time} {sysNow : SysTime}

theorem registeredValid_iff {opts : ParserOptions} {c : RegisteredClaims} :
    RegisteredValid opts now c ↔
      CommonValid opts.audience now c ∧ JWTDemands opts.issuer now c := by
  constructor
  · intro h
    obtain ⟨e, he, hlt⟩ := h.notExpired
    refine ⟨⟨⟨e, he, Int.le_of_lt hlt⟩, h.notFuture, h.audience⟩, ?_, h.notBefore, h.issuer⟩
    intro hnow
    rw [he] at hnow
    obtain rfl := Option.some.inj hnow
    exact Int.lt_irrefl _ hlt
  · intro h
    obtain ⟨⟨⟨e, he, hle⟩, hfut, haud⟩, hexp, hbef, hiss⟩ := h
    have hne : now ≠ e := fun heq => hexp (heq ▸ he)
    exact ⟨⟨e, he, Int.lt_iff_le_and_ne.mpr ⟨hle, hne⟩⟩, hbef, hfut, hiss, haud⟩

theorem requireTime_ok_iff {value : Option Time} {err : Token.Err} {t : Time} :
    requireTime value err = .ok t ↔ value = some t := by
  cases value <;> simp [requireTime]

theorem validateCWTRegisteredClaims_ok_iff {c : RegisteredClaims} {m : ClaimMap}
    {opts : CWTVerifyOptions Key} (h : SameStandard c m)
    (hissuer : isBlank opts.expectedIssuer = false) :
    validateCWTRegisteredClaims m opts sysNow = .ok () ↔
      CommonValid opts.expectedAudience (opts.time sysNow) c ∧
      CWTDemands opts.expectedIssuer c := by
  simp only [validateCWTRegisteredClaims, Lib.bind_ok_iff, Token.require_ok_iff, beq_iff_eq,
    cwtIssuer_matches_iff h.issuer hissuer, cwtAudienceMatches_iff h.audience,
    cwtTimeClaim_eq h.expiresAt, cwtTimeClaim_eq h.issuedAt, requireTime_ok_iff, exists_const]
  constructor
  · intro h
    obtain ⟨hiss, haud, e, he, i, hi, hexp, hfut⟩ := h
    refine ⟨⟨⟨e, he, by simpa using hexp⟩, ?_, haud⟩, by simp [hi], hiss⟩
    intro t ht
    rw [hi] at ht
    obtain rfl := Option.some.inj ht
    simpa using hfut
  · intro h
    obtain ⟨⟨⟨e, he, hle⟩, hfut, haud⟩, hgiv, hiss⟩ := h
    obtain ⟨i, hi⟩ := Option.ne_none_iff_exists'.mp hgiv
    exact ⟨hiss, haud, e, he, i, hi, by simpa using hle, by simpa using hfut i hi⟩

/-- What the validators demand beyond what they share is equivalent unless the claims are
of the kind that only one of them lets pass. -/
theorem demands_iff {expected : GoString} {c : RegisteredClaims} :
    (JWTDemands expected now c ↔ CWTDemands expected c) ↔
      ¬JWTOnly expected now c ∧ ¬CWTOnly expected now c := by
  have hbef : (∀ t, c.notBefore = some t → t ≤ now) ↔ ¬∃ t, c.notBefore = some t ∧ now < t := by
    simp only [not_exists, not_and, Int.not_lt]
  constructor
  · intro h
    refine ⟨fun hj => ?_, fun hw => ?_⟩
    · obtain ⟨hgiv, htrim⟩ := h.mp ⟨hj.beforeExpiry, hj.notBefore, hj.issuer⟩
      exact hj.refused.elim hgiv fun hne => hne htrim
    · obtain ⟨hexp, hnbf, hiss⟩ := h.mpr ⟨hw.issuedAt, hw.issuer⟩
      exact hw.refused.elim hexp (Or.rec (hbef.mp hnbf) fun hne => hne hiss)
  · intro h
    obtain ⟨hjwt, hcwt⟩ := h
    constructor
    · intro hj
      obtain ⟨hexp, hnbf, hiss⟩ := hj
      by_contra hw
      exact hjwt ⟨hiss, hexp, hnbf, by tauto⟩
    · intro hw
      obtain ⟨hgiv, htrim⟩ := hw
      by_contra hj
      refine hcwt ⟨htrim, hgiv, ?_⟩
      by_contra hnone
      obtain ⟨hexp, hnone⟩ := not_or.mp hnone
      obtain ⟨hnbf, hiss⟩ := not_or.mp hnone
      exact hj ⟨hexp, hbef.mpr hnbf, not_not.mp hiss⟩

end Registered

/-! ### Tokens with the same claims -/

section Pairs

variable {Key σ τ : Type}

/-- Corresponding options: the same keys, expectations, revocations and clock, and lists of
methods and algorithms that are both usable or both not. -/
structure SameOptions (jopts : VerifyOptions Key) (copts : CWTVerifyOptions Key) : Prop where
  keySource : copts.toKeySource = jopts.toKeySource
  issuer : copts.expectedIssuer = jopts.expectedIssuer
  audience : copts.expectedAudience = jopts.expectedAudience
  revoked : copts.revokedCWTIDs = jopts.revokedJWTIDs
  now : copts.now = jopts.now
  safe : SafeAlgorithms copts.validAlgorithms ↔ SafeMethods jopts.validMethods

/-- A JWT with claims `c` and a CWT with claims `m`, whose signatures are valid under the
same key ids and keys, and options for them. -/
structure SameToken (lib : Library Key) (cose : Cose Key) (fields : StructType Claims)
    (tokenString : GoString) (token : Bytes) (jopts : VerifyOptions Key)
    (copts : CWTVerifyOptions Key) (c : Claims) (m : ClaimMap) : Prop where
  options : SameOptions jopts copts
  signatures : ∀ keyID key, JWTSignedBy lib jopts.validMethods tokenString keyID key ↔
    CWTSignedBy cose copts.validAlgorithms token keyID key
  jwtClaims : payloadClaims fields tokenString = some c
  cwtClaims : messageClaims cose token = .ok m

variable {lib : Library Key} {cose : Cose Key} {fields : StructType Claims}
  {tokenString : GoString} {token : Bytes} {jopts : VerifyOptions Key}
  {copts : CWTVerifyOptions Key} {c : Claims} {m : ClaimMap} {sysNow : SysTime}
  {sha256 : Bytes → Bytes} {grantHash : GoString}

/-- The JWT library lets the registered claims pass. -/
abbrev JWTValid (opts : VerifyOptions Key) (sysNow : SysTime) (c : Claims) : Prop :=
  CommonValid opts.expectedAudience (opts.time sysNow) c.toRegisteredClaims ∧
    JWTDemands opts.expectedIssuer (opts.time sysNow) c.toRegisteredClaims

/-- So does the CWT validator, given the same options. -/
abbrev CWTValid (opts : VerifyOptions Key) (sysNow : SysTime) (c : Claims) : Prop :=
  CommonValid opts.expectedAudience (opts.time sysNow) c.toRegisteredClaims ∧
    CWTDemands opts.expectedIssuer c.toRegisteredClaims

theorem SameOptions.time_eq (h : SameOptions jopts copts) (sysNow : SysTime) :
    copts.time sysNow = jopts.time sysNow := by
  unfold CWTVerifyOptions.time VerifyOptions.time
  rw [h.now]

theorem SameToken.verified_iff (h : SameToken lib cose fields tokenString token jopts copts c m)
    {keyID : GoString} :
    CWTVerified cose copts token keyID ↔ JWTVerified lib jopts tokenString keyID := by
  constructor
  · intro hc
    have hsrc := hc.keySource
    have hiss := hc.issuer
    have haud := hc.audience
    obtain ⟨keyFunc, key, hrsv, hkey, hsig⟩ := hc.signed
    rw [h.options.keySource] at hsrc hrsv
    rw [h.options.issuer] at hiss
    rw [h.options.audience] at haud
    exact ⟨hsrc, h.options.safe.mp hc.algorithms, hiss, haud, keyFunc, key, hrsv, hkey,
      (h.signatures keyID key).mpr hsig⟩
  · intro hj
    have hsrc := hj.keySource
    have hiss := hj.issuer
    have haud := hj.audience
    obtain ⟨keyFunc, key, hrsv, hkey, hsig⟩ := hj.signed
    rw [← h.options.keySource] at hsrc hrsv
    rw [← h.options.issuer] at hiss
    rw [← h.options.audience] at haud
    exact ⟨hsrc, h.options.safe.mpr hj.methods, hiss, haud, keyFunc, key, hrsv, hkey,
      (h.signatures keyID key).mp hsig⟩

/-- The JWT of a pair passes the front end with its claims. -/
theorem SameToken.exists_passes_iff {γ : Type} {x : γ} {f : Claims → GoString → γ}
    (h : SameToken lib cose fields tokenString token jopts copts c m) {checks : Claims → Prop} :
    (∃ c' keyID, Passes lib fields jopts tokenString sysNow checks c' keyID ∧ x = f c' keyID) ↔
      ∃ keyID, JWTVerified lib jopts tokenString keyID ∧ (checks c ∧ JWTValid jopts sysNow c) ∧
        x = f c keyID := by
  constructor
  · rintro ⟨c', keyID, hpass, rfl⟩
    obtain rfl : c = c' := Option.some.inj (h.jwtClaims.symm.trans hpass.claims)
    exact ⟨keyID, hpass.verified, ⟨hpass.checks, registeredValid_iff.mp hpass.registered⟩, rfl⟩
  · rintro ⟨keyID, hver, ⟨hchk, hreg⟩, rfl⟩
    exact ⟨c, keyID, ⟨hver, h.jwtClaims, registeredValid_iff.mpr hreg, hchk⟩, rfl⟩

theorem SameToken.parseJWT_iff (hlib : Lawful lib) (hcom : Complete lib)
    (h : SameToken lib cose fields tokenString token jopts copts c m) {claims : Claims}
    {keyID : GoString} :
    parseJWT lib fields tokenString jopts sysNow = .ok (claims, keyID) ↔
      JWTVerified lib jopts tokenString keyID ∧ JWTValid jopts sysNow c ∧
        isListed c.id jopts.revokedJWTIDs = false ∧ claims = c := by
  rw [parseJWT_ok_iff hlib hcom, h.jwtClaims, registeredValid_iff, Option.some.injEq]
  constructor
  · intro h
    obtain ⟨hver, rfl, hreg, hrev⟩ := h
    exact ⟨hver, hreg, hrev, rfl⟩
  · intro h
    obtain ⟨hver, hreg, hrev, rfl⟩ := h
    exact ⟨hver, rfl, hreg, hrev⟩

theorem SameToken.parseCWT_iff (h : SameToken lib cose fields tokenString token jopts copts c m)
    (hsame : SameStandard c.toRegisteredClaims m) {claims : ClaimMap} {keyID : GoString} :
    parseCWT cose token copts sysNow = .ok (claims, keyID) ↔
      JWTVerified lib jopts tokenString keyID ∧ CWTValid jopts sysNow c ∧ claims = m := by
  rw [parseCWT_ok_iff, h.verified_iff, h.cwtClaims, Except.ok.injEq]
  refine and_congr_right fun hver => ?_
  have hiss := hver.issuer
  rw [← h.options.issuer] at hiss
  have hreg : validateCWTRegisteredClaims m copts sysNow = .ok () ↔ _ :=
    validateCWTRegisteredClaims_ok_iff hsame hiss
  rw [h.options.time_eq, h.options.issuer, h.options.audience] at hreg
  rw [CWTValid, ← hreg]
  constructor
  · intro h
    obtain ⟨rfl, hval⟩ := h
    exact ⟨hval, rfl⟩
  · intro h
    obtain ⟨hval, rfl⟩ := h
    exact ⟨rfl, hval⟩

theorem verifyIdentityGrantJWT_ok_iff (hlib : Lawful lib) (hcom : Complete lib)
    (h : SameToken lib cose (identityGrantClaims lib) tokenString token jopts copts c m)
    (grant : VerifiedGrant) :
    verifyIdentityGrantJWT sha256 lib tokenString jopts sysNow = .ok grant ↔
      ∃ keyID, JWTVerified lib jopts tokenString keyID ∧
        (GrantChecks jopts c ∧ JWTValid jopts sysNow c) ∧
        grant = grantOf sha256 tokenString jopts c keyID := by
  rw [verifyIdentityGrantJWT_iff_passes hlib hcom]
  exact h.exists_passes_iff

theorem verifyIdentityGrantCWT_ok_iff
    (h : SameToken lib cose (identityGrantClaims lib) tokenString token jopts copts c m)
    (hsame : SameGrantClaims c m) (grant : VerifiedGrant) :
    verifyIdentityGrantCWT sha256 cose token copts sysNow = .ok grant ↔
      ∃ keyID, JWTVerified lib jopts tokenString keyID ∧
        (GrantChecks jopts c ∧ CWTValid jopts sysNow c) ∧
        grant = { grantOf sha256 tokenString jopts c keyID with
          grantHash := identityGrantCWTHash sha256 token } := by
  have hid := cwtStringClaimOrEmpty_eq hsame.id
  have hsub := cwtStringClaimOrEmpty_eq hsame.subject
  have hkey := cwtConfirmationKey_eq hsame.confirmation
  simp only [verifyIdentityGrantCWT, Lib.bind_ok_iff, Prod.exists, Lib.pure_ok_iff,
    Token.require_ok_iff, exists_const, h.parseCWT_iff hsame.toSameRegistered.standard]
  constructor
  · intro hok
    obtain ⟨_, keyID, ⟨hver, hreg, rfl⟩, _, hprf, hid', hrev, hsub', hconf, rfl⟩ := hok
    rw [validateProfileClaims_cwt hsame.toSameRegistered] at hprf
    rw [cwtIDFromClaims, hid] at hid' hrev
    rw [h.options.revoked] at hrev
    rw [hsub] at hsub'
    rw [hkey] at hconf
    exact ⟨keyID, hver, ⟨⟨by simpa using hrev, hprf, by simpa using hid',
      by simpa using hsub', by simpa using hconf⟩, hreg⟩,
      cwtGrantOf_eq hsame h.options.audience tokenString token keyID⟩
  · intro hok
    obtain ⟨keyID, hver, ⟨hchk, hreg⟩, rfl⟩ := hok
    refine ⟨m, keyID, ⟨hver, hreg, rfl⟩, (), ?_, ?_, ?_, ?_, ?_, ?_⟩
    · rw [validateProfileClaims_cwt hsame.toSameRegistered, hchk.profile]
    · rw [cwtIDFromClaims, hid, hchk.id]
      rfl
    · rw [cwtIDFromClaims, hid, h.options.revoked, hchk.notRevoked]
      rfl
    · rw [hsub, hchk.subject]
      rfl
    · rw [hkey, hchk.confirmation]
      rfl
    · exact cwtGrantOf_eq hsame h.options.audience tokenString token keyID

theorem verifySessionBindingJWT_ok_iff (hlib : Lawful lib) (hcom : Complete lib)
    (h : SameToken lib cose (sessionBindingClaims lib) tokenString token jopts copts c m)
    (statement : VerifiedSessionBindingStatement) :
    verifySessionBindingJWT lib tokenString jopts sysNow = .ok statement ↔
      ∃ keyID, JWTVerified lib jopts tokenString keyID ∧
        (StatementChecks jopts c ∧ JWTValid jopts sysNow c) ∧
        statement = statementOf jopts c keyID := by
  rw [verifySessionBindingJWT_iff_passes hlib hcom]
  exact h.exists_passes_iff

theorem verifySessionBindingCWT_ok_iff
    (h : SameToken lib cose (sessionBindingClaims lib) tokenString token jopts copts c m)
    (hsame : SameBindingClaims c m grantHash) (statement : VerifiedSessionBindingStatement) :
    verifySessionBindingCWT cose token copts sysNow = .ok statement ↔
      ∃ keyID, JWTVerified lib jopts tokenString keyID ∧
        (StatementChecks jopts c ∧ CWTValid jopts sysNow c) ∧
        statement = { statementOf jopts c keyID with grantHash } := by
  have hid := cwtStringClaimOrEmpty_eq hsame.id
  simp only [verifySessionBindingCWT, Lib.bind_ok_iff, Prod.exists, Lib.pure_ok_iff,
    Token.require_ok_iff, exists_const, h.parseCWT_iff hsame.toSameRegistered.standard]
  constructor
  · intro hok
    obtain ⟨_, keyID, ⟨hver, hreg, rfl⟩, _, hprf, hid', hrev, _, hfld, rfl⟩ := hok
    rw [validateProfileClaims_cwt hsame.toSameRegistered] at hprf
    rw [validateSessionBindingClaims_cwt hsame] at hfld
    rw [cwtIDFromClaims, hid] at hid' hrev
    rw [h.options.revoked] at hrev
    exact ⟨keyID, hver, ⟨⟨by simpa using hrev, hprf, by simpa using hid', hfld⟩,
      hreg⟩, cwtStatementOf_eq hsame h.options.audience keyID⟩
  · intro hok
    obtain ⟨keyID, hver, ⟨hchk, hreg⟩, rfl⟩ := hok
    refine ⟨m, keyID, ⟨hver, hreg, rfl⟩, (), ?_, ?_, ?_, (), ?_, ?_⟩
    · rw [validateProfileClaims_cwt hsame.toSameRegistered, hchk.profile]
    · rw [cwtIDFromClaims, hid, hchk.id]
      rfl
    · rw [cwtIDFromClaims, hid, h.options.revoked, hchk.notRevoked]
      rfl
    · rw [validateSessionBindingClaims_cwt hsame, hchk.fields]
    · exact cwtStatementOf_eq hsame h.options.audience keyID

/-- The pair passes everything the two profiles share, `checks` being those of its kind,
and only one of the validators of registered claims lets it pass. -/
structure Divided (lib : Library Key) (tokenString : GoString) (jopts : VerifyOptions Key)
    (now : Time) (checks : Prop) (c : RegisteredClaims) : Prop where
  verified : ∃ keyID, JWTVerified lib jopts tokenString keyID
  checks : checks
  common : CommonValid jopts.expectedAudience now c
  divided : JWTOnly jopts.expectedIssuer now c ∨ CWTOnly jopts.expectedIssuer now c

theorem demands_iff_not_divided {checks : Prop} {now : Time} :
    ((∃ keyID, JWTVerified lib jopts tokenString keyID) →
        (checks ∧ CommonValid jopts.expectedAudience now c.toRegisteredClaims ∧
            JWTDemands jopts.expectedIssuer now c.toRegisteredClaims ↔
          checks ∧ CommonValid jopts.expectedAudience now c.toRegisteredClaims ∧
            CWTDemands jopts.expectedIssuer c.toRegisteredClaims)) ↔
      ¬Divided lib tokenString jopts now checks c.toRegisteredClaims := by
  simp only [and_congr_right_iff, demands_iff, ← not_or]
  constructor
  · intro h hdiv
    exact h hdiv.verified hdiv.checks hdiv.common hdiv.divided
  · intro h hver hchk hcommon hdiv
    exact h ⟨hver, hchk, hcommon, hdiv⟩

/-- Claims with an `iat`, without a `nbf` and with an issuer without surrounding white space
divide the profiles at most at the instant they expire. -/
theorem not_divided_of_ne_expiry {checks : Prop} {now : Time} {c : RegisteredClaims}
    (hgiv : c.issuedAt ≠ none) (hbef : c.notBefore = none)
    (hiss : trimSpace c.issuer = c.issuer) (hexp : c.expiresAt ≠ some now) :
    ¬Divided lib tokenString jopts now checks c := by
  intro h
  cases h.divided with
  | inl hjwt =>
    have htrim : trimSpace c.issuer = jopts.expectedIssuer := hiss.trans hjwt.issuer
    exact hjwt.refused.elim hgiv fun hne => hne htrim
  | inr hcwt =>
    have hsame : c.issuer = jopts.expectedIssuer := hiss.symm.trans hcwt.issuer
    obtain hnow | ⟨t, ht, -⟩ | hne := hcwt.refused
    · exact hexp hnow
    · rw [hbef] at ht
      cases ht
    · exact hne hsame

/-- The profiles agree on a pair of grants unless the pair is divided. -/
theorem grants_agree_iff (hlib : Lawful lib) (hcom : Complete lib)
    (h : SameToken lib cose (identityGrantClaims lib) tokenString token jopts copts c m)
    (hsame : SameGrantClaims c m) :
    Lib.Agree (fun jwt cwt => cwt = { jwt with grantHash := identityGrantCWTHash sha256 token })
        (verifyIdentityGrantJWT sha256 lib tokenString jopts sysNow)
        (verifyIdentityGrantCWT sha256 cose token copts sysNow) ↔
      ¬Divided lib tokenString jopts (jopts.time sysNow) (GrantChecks jopts c)
        c.toRegisteredClaims := by
  rw [← demands_iff_not_divided]
  exact Lib.agree_iff (verifyIdentityGrantJWT_ok_iff hlib hcom h)
    (verifyIdentityGrantCWT_ok_iff h hsame) (fun _ _ hk hk' => hk.keyID_unique hk')
    fun _ => rfl

/-- The profiles agree on a pair of statements unless the pair is divided. -/
theorem statements_agree_iff (hlib : Lawful lib) (hcom : Complete lib)
    (h : SameToken lib cose (sessionBindingClaims lib) tokenString token jopts copts c m)
    (hsame : SameBindingClaims c m grantHash) :
    Lib.Agree (fun jwt cwt => cwt = { jwt with grantHash })
        (verifySessionBindingJWT lib tokenString jopts sysNow)
        (verifySessionBindingCWT cose token copts sysNow) ↔
      ¬Divided lib tokenString jopts (jopts.time sysNow) (StatementChecks jopts c)
        c.toRegisteredClaims := by
  rw [← demands_iff_not_divided]
  exact Lib.agree_iff (verifySessionBindingJWT_ok_iff hlib hcom h)
    (verifySessionBindingCWT_ok_iff h hsame) (fun _ _ hk hk' => hk.keyID_unique hk')
    fun _ => rfl

/-- Grants accepted under both profiles are the same but for their hashes, divided pair or
not. -/
theorem grants_related (hlib : Lawful lib) (hcom : Complete lib)
    (h : SameToken lib cose (identityGrantClaims lib) tokenString token jopts copts c m)
    (hsame : SameGrantClaims c m) {grant grant' : VerifiedGrant}
    (hgr : verifyIdentityGrantJWT sha256 lib tokenString jopts sysNow = .ok grant)
    (hgr' : verifyIdentityGrantCWT sha256 cose token copts sysNow = .ok grant') :
    grant' = { grant with grantHash := identityGrantCWTHash sha256 token } :=
  Lib.related_of_ok
    (R := fun jwt cwt => cwt = { jwt with grantHash := identityGrantCWTHash sha256 token })
    (verifyIdentityGrantJWT_ok_iff hlib hcom h) (verifyIdentityGrantCWT_ok_iff h hsame)
    (fun _ _ hk hk' => hk.keyID_unique hk') (fun _ => rfl) grant grant' hgr hgr'

theorem statements_related (hlib : Lawful lib) (hcom : Complete lib)
    (h : SameToken lib cose (sessionBindingClaims lib) tokenString token jopts copts c m)
    (hsame : SameBindingClaims c m grantHash) {statement statement' : VerifiedSessionBindingStatement}
    (hstm : verifySessionBindingJWT lib tokenString jopts sysNow = .ok statement)
    (hstm' : verifySessionBindingCWT cose token copts sysNow = .ok statement') :
    statement' = { statement with grantHash } :=
  Lib.related_of_ok (R := fun jwt cwt => cwt = { jwt with grantHash })
    (verifySessionBindingJWT_ok_iff hlib hcom h) (verifySessionBindingCWT_ok_iff h hsame)
    (fun _ _ hk hk' => hk.keyID_unique hk') (fun _ => rfl) statement statement' hstm
    hstm'

theorem SameToken.setNow (h : SameToken lib cose fields tokenString token jopts copts c m)
    (now : Time) :
    SameToken lib cose fields tokenString token { jopts with now } { copts with now } c m where
  options := { keySource := h.options.keySource, issuer := h.options.issuer
               audience := h.options.audience, revoked := h.options.revoked, now := rfl
               safe := h.options.safe }
  signatures := h.signatures
  jwtClaims := h.jwtClaims
  cwtClaims := h.cwtClaims

variable {grantTokenString bindingTokenString : GoString} {grantToken bindingToken : Bytes}
  {grantClaims bindingClaims : Claims} {grantMap bindingMap : ClaimMap}

/-- Two accepted sessions with the same claims have the same assertion. -/
theorem sessions_agree (hlib : Lawful lib) (hcom : Complete lib)
    {jsession : SessionIdentityJWTOptions Key σ} {csession : SessionIdentityCWTOptions Key τ}
    (hgr : SameToken lib cose (identityGrantClaims lib) grantTokenString grantToken
      jsession.grant csession.grant grantClaims grantMap)
    (hgcl : SameGrantClaims grantClaims grantMap)
    (hbin : SameToken lib cose (sessionBindingClaims lib) bindingTokenString bindingToken
      jsession.sessionBinding csession.sessionBinding bindingClaims bindingMap)
    (hbcl : SameBindingClaims bindingClaims bindingMap grantHash)
    (hnow : csession.now = jsession.now) {r r' : Token.SessionIdentityResult} {w w₁ : σ} {v v₁ : τ}
    (hjwt : verifySessionIdentityJWT sha256 lib grantTokenString bindingTokenString jsession sysNow
      w = (.ok r, w₁))
    (hcwt : verifySessionIdentityCWT sha256 cose grantToken bindingToken csession sysNow v =
      (.ok r', v₁)) :
    r'.grant = { r.grant with grantHash := identityGrantCWTHash sha256 grantToken } ∧
      r'.statement = { r.statement with grantHash } ∧ r'.assertion = r.assertion := by
  have htime : csession.toSessionOptions.time sysNow = jsession.toSessionOptions.time sysNow := by
    unfold Token.SessionOptions.time
    rw [hnow]
  obtain ⟨hju, -⟩ := Token.accepts_iff.mp hjwt
  obtain ⟨hju', -⟩ := Token.accepts_iff.mp hcwt
  obtain ⟨-, -, hg, hs, hadm⟩ := Token.judge_ok_iff.mp hju
  obtain ⟨-, -, hg', hs', hadm'⟩ := Token.judge_ok_iff.mp hju'
  rw [htime] at hg' hs'
  have hgrants := grants_related hlib hcom (hgr.setNow _) hgcl hg hg'
  have hstms := statements_related hlib hcom (hbin.setNow _) hbcl hs hs'
  refine ⟨hgrants, hstms, ?_⟩
  rw [hadm.assertion, hadm'.assertion, hgrants, hstms]

end Pairs

/-! ### Sample pairs -/

/-- The grant `sampleGrant` with an `iat`, at second 5. -/
def datedGrant : GoString := litPieces
  ["eyJhbGciOiJ0Iiwia2lkIjoibTEifQ.", "eyJpc3MiOiJtIiwic3ViIjoiYSIsImF1ZCI6InYi",
    "LCJleHAiOjIwLCJpYXQiOjUsImp0aSI6IjEiLCJw", "cm9maWxlX3R5cGUiOiJzYmFpcC5pZGVudGl0eS1n",
    "cmFudCIsInByb2ZpbGVfdmVyc2lvbiI6IjEiLCJj", "bmYiOnsia2lkIjoiYTEifX0.AQ"]

/-- The statement `sampleStatement` with an `iat`, at second 5. -/
def datedStatement : GoString := litPieces
  ["eyJhbGciOiJ0Iiwia2lkIjoiYTEifQ.", "eyJpc3MiOiJhIiwiYXVkIjoidiIsImV4cCI6MTUs",
    "ImlhdCI6NSwianRpIjoiMiIsInByb2ZpbGVfdHlw", "ZSI6InNiYWlwLnNlc3Npb24tYmluZGluZyIsInBy",
    "b2ZpbGVfdmVyc2lvbiI6IjEiLCJncmFudF9oYXNo", "Ijoic2hhMjU2OmFiIiwibGVhZl9wdWJsaWNfa2V5",
    "X3NoYTI1NiI6ImwiLCJ0bHNfZXhwb3J0ZXJfc2hh", "MjU2IjoieCIsInJlcXVlc3RfY29udGV4dF9zaGEy",
    "NTYiOiJjIiwibm9uY2UiOiJuIn0.Ag"]

/-- The claims of the sample grants, which are issued at the second `issuedAt`, if any. -/
def sampleGrantMap (issuedAt : Option Nat) : ClaimMap :=
  [(.uint64 1, .str (lit "m")), (.uint64 2, .str (lit "a")), (.uint64 3, .str (lit "v")),
    (.uint64 4, .uint64 20), (.uint64 7, .str (lit "1")),
    (.uint64 8, .map [(.str (lit "kid"), .str (lit "a1"))]),
    (.str (lit "profile_type"), .str tokenTypeIdentityGrant),
    (.str (lit "profile_version"), .str profileVersion)] ++
    (issuedAt.map fun second => (.uint64 6, .uint64 second)).toList

def sampleStatementMap : ClaimMap :=
  [(.uint64 1, .str (lit "a")), (.uint64 3, .str (lit "v")), (.uint64 4, .uint64 15),
    (.uint64 6, .uint64 5), (.uint64 7, .str (lit "2")),
    (.str (lit "profile_type"), .str tokenTypeSessionBinding),
    (.str (lit "profile_version"), .str profileVersion),
    (.str (lit "grant_hash"), .str (lit "sha256:ab")),
    (.str (lit "leaf_public_key_sha256"), .str (lit "l")),
    (.str (lit "tls_exporter_sha256"), .str (lit "x")),
    (.str (lit "request_context_sha256"), .str (lit "c")), (.str (lit "nonce"), .str (lit "n"))]

/-- A message that is its own payload. -/
def sampleMessage (token : Bytes) (keyID : GoString) (signature : Bytes) : Sign1Message where
  protectedHeader := [(headerLabelKeyID, .bytes keyID)]
  unprotectedHeader := []
  payload := token
  signature := signature

/-- Libraries with three messages: the grant with an `iat`, the statement, and the grant
without one. Signatures are the keys themselves. -/
def sampleCose : Cose Bytes where
  unmarshalSign1
    | [1] => .ok (sampleMessage [1] (lit "m1") [1])
    | [2] => .ok (sampleMessage [2] (lit "a1") [2])
    | [3] => .ok (sampleMessage [3] (lit "m1") [1])
    | _ => .error "cbor: invalid COSE_Sign1_Tagged object"
  algorithm _ := .ok (-8)
  newVerifier _ key := .ok fun msg =>
    if msg.signature = key then .ok () else .error "verification error"
  unmarshalMap
    | [1] => .ok (sampleGrantMap (some 5))
    | [2] => .ok sampleStatementMap
    | [3] => .ok (sampleGrantMap none)
    | _ => .error "cbor: cannot unmarshal"

/-- The same libraries with other messages. -/
def sampleCoseWith (unmarshalSign1 : Bytes → Except String Sign1Message)
    (unmarshalMap : Bytes → Except String ClaimMap) : Cose Bytes :=
  { sampleCose with unmarshalSign1, unmarshalMap }

/-- The options that correspond to those of a JWT. -/
def sampleCWTOptions (opts : VerifyOptions Bytes) : CWTVerifyOptions Bytes where
  toKeySource := opts.toKeySource
  expectedIssuer := opts.expectedIssuer
  expectedAudience := opts.expectedAudience
  validAlgorithms := [-8]
  revokedCWTIDs := opts.revokedJWTIDs
  now := opts.now

theorem sampleCWTOptions_same {issuer keyID : GoString} {key : Bytes} {second : Int} :
    SameOptions (sampleOptionsAt issuer keyID key second)
      (sampleCWTOptions (sampleOptionsAt issuer keyID key second)) where
  keySource := rfl
  issuer := rfl
  audience := rfl
  revoked := rfl
  now := rfl
  safe := by
    have hms : SafeMethods [lit "t"] := ⟨by decide, by decide⟩
    have halgorithms : SafeAlgorithms [-8] := ⟨by decide, by decide⟩
    exact ⟨fun _ => hms, fun _ => halgorithms⟩

section Samples

variable {t keyID keyID₀ : GoString} {token key key₀ : Bytes} {fields : StructType Claims}
  {issuer : GoString} {c : Claims} {m : ClaimMap}
  {unmarshalSign1 : Bytes → Except String Sign1Message}
  {unmarshalMap : Bytes → Except String ClaimMap}

theorem cwtSignedBy_sampleCoseWith_iff
    (hmsg : unmarshalSign1 token = .ok (sampleMessage token keyID₀ key₀))
    (hbl : isBlank keyID₀ = false) :
    CWTSignedBy (sampleCoseWith unmarshalSign1 unmarshalMap) [-8] token keyID key ↔
      keyID = keyID₀ ∧ key = key₀ := by
  have hid : keyIDFromCOSE (sampleMessage token keyID₀ key₀) = .ok keyID₀ := by
    show (if isBlank keyID₀ then _ else _) = _
    rw [hbl]
    rfl
  constructor
  · intro h
    obtain ⟨msg, alg, verify, hmsg', -, -, -, hid', hvr, hvf⟩ := h
    obtain rfl := Except.ok.inj (hmsg.symm.trans hmsg')
    obtain rfl := Except.ok.inj (hid.symm.trans hid')
    obtain rfl := Except.ok.inj hvr
    have hif : (if key₀ = key then Except.ok () else Except.error "verification error") =
        Except.ok () := hvf
    split at hif
    · exact ⟨rfl, Eq.symm ‹_›⟩
    · cases hif
  · intro h
    obtain ⟨rfl, rfl⟩ := h
    exact ⟨_, -8, _, hmsg, rfl, rfl, List.mem_singleton.mpr rfl, hid, rfl, if_pos rfl⟩

/-- Samples that are accepted at second 10 are pairs at any second. -/
theorem sameToken_of_run (second : Int)
    (hrun : parseJWT sampleLibrary fields t (sampleOptionsAt issuer keyID key 10) sampleClock =
      .ok (c, keyID))
    (hkey : ((sampleOptionsAt issuer keyID key 10).toKeySource.resolve id >>= fun f => f keyID) =
      .ok key) (hbl : isBlank keyID = false)
    (hmsg : unmarshalSign1 token = .ok (sampleMessage token keyID key))
    (hm : unmarshalMap token = .ok m) :
    SameToken sampleLibrary (sampleCoseWith unmarshalSign1 unmarshalMap) fields t token (sampleOptionsAt issuer keyID key second)
      (sampleCWTOptions (sampleOptionsAt issuer keyID key second)) c m where
  options := sampleCWTOptions_same
  signatures keyID' key' := by
    show JWTSignedBy sampleLibrary [lit "t"] t keyID' key' ↔
      CWTSignedBy (sampleCoseWith unmarshalSign1 unmarshalMap) [-8] token keyID' key'
    rw [jwtSignedBy_sampleLibrary_iff (jwtSignedBy_of_run hrun hkey).1,
      cwtSignedBy_sampleCoseWith_iff hmsg hbl]
  jwtClaims := (jwtSignedBy_of_run hrun hkey).2
  cwtClaims := by
    show unmarshalSign1 token >>= (fun msg => unmarshalMap msg.payload) = .ok m
    rw [hmsg, Lib.ok_bind]
    exact hm

end Samples

def sampleGrantClaims (issuedAt : Option Nat) : Claims where
  issuer := lit "m"
  subject := lit "a"
  audience := [lit "v"]
  expiresAt := some (Time.unix 20)
  issuedAt := issuedAt.map fun second => Time.unix second
  id := lit "1"
  profileType := tokenTypeIdentityGrant
  profileVersion := profileVersion
  confirmationKeyID := lit "a1"

def sampleStatementClaims : Claims where
  issuer := lit "a"
  audience := [lit "v"]
  expiresAt := some (Time.unix 15)
  issuedAt := some (Time.unix 5)
  id := lit "2"
  profileType := tokenTypeSessionBinding
  profileVersion := profileVersion
  grantHash := lit "sha256:ab"
  leafKeySHA256 := lit "l"
  tlsExporter := lit "x"
  requestContext := lit "c"
  nonce := lit "n"

theorem sample_runs :
    parseJWT sampleLibrary (identityGrantClaims sampleLibrary) datedGrant
        (sampleOptionsAt (lit "m") (lit "m1") [1] 10) sampleClock =
          .ok (sampleGrantClaims (some 5), lit "m1") ∧
      parseJWT sampleLibrary (sessionBindingClaims sampleLibrary) datedStatement
        (sampleOptionsAt (lit "a") (lit "a1") [2] 10) sampleClock =
          .ok (sampleStatementClaims, lit "a1") ∧
      parseJWT sampleLibrary (identityGrantClaims sampleLibrary) sampleGrant
        (sampleOptionsAt (lit "m") (lit "m1") [1] 10) sampleClock =
          .ok (sampleGrantClaims none, lit "m1") := by
  unfold datedGrant datedStatement sampleGrant
  simp only [litPieces_cons]
  repeat rw [lit_ofList]
  decide +kernel

/-- The grant with an `iat` as a pair. -/
theorem datedGrant_same (second : Int) :
    SameToken sampleLibrary sampleCose (identityGrantClaims sampleLibrary) datedGrant [1]
      (sampleOptionsAt (lit "m") (lit "m1") [1] second)
      (sampleCWTOptions (sampleOptionsAt (lit "m") (lit "m1") [1] second))
      (sampleGrantClaims (some 5)) (sampleGrantMap (some 5)) :=
  sameToken_of_run second sample_runs.1 (by decide) (by decide) rfl rfl

theorem datedStatement_same (second : Int) :
    SameToken sampleLibrary sampleCose (sessionBindingClaims sampleLibrary) datedStatement [2]
      (sampleOptionsAt (lit "a") (lit "a1") [2] second)
      (sampleCWTOptions (sampleOptionsAt (lit "a") (lit "a1") [2] second))
      sampleStatementClaims sampleStatementMap :=
  sameToken_of_run second sample_runs.2.1 (by decide) (by decide) rfl rfl

/-- So is the grant without an `iat`. -/
theorem sampleGrant_same (second : Int) :
    SameToken sampleLibrary sampleCose (identityGrantClaims sampleLibrary) sampleGrant [3]
      (sampleOptionsAt (lit "m") (lit "m1") [1] second)
      (sampleCWTOptions (sampleOptionsAt (lit "m") (lit "m1") [1] second))
      (sampleGrantClaims none) (sampleGrantMap none) :=
  sameToken_of_run second sample_runs.2.2 (by decide) (by decide) rfl rfl

theorem sampleGrant_claims :
    ∀ issuedAt ∈ [none, some 5],
      SameGrantClaims (sampleGrantClaims issuedAt) (sampleGrantMap issuedAt) := by
  intro issuedAt h
  exact {
    issuer := by revert issuedAt; decide
    subject := by revert issuedAt; decide
    audience := by revert issuedAt; decide
    expiresAt := by revert issuedAt; decide
    notBefore := by revert issuedAt; decide
    issuedAt := by revert issuedAt; decide
    id := by revert issuedAt; decide
    profileType := by revert issuedAt; decide
    profileVersion := by revert issuedAt; decide
    legacyType := by revert issuedAt; decide
    legacyVersion := by revert issuedAt; decide
    confirmation := by revert issuedAt; decide
    texts := by revert issuedAt; decide
    lists := by revert issuedAt; decide }

theorem sampleStatement_claims :
    SameBindingClaims sampleStatementClaims sampleStatementMap (lit "sha256:ab") where
  issuer := by decide
  subject := by decide
  audience := by decide
  expiresAt := by decide
  notBefore := by decide
  issuedAt := by decide
  id := by decide
  profileType := by decide
  profileVersion := by decide
  legacyType := by decide
  legacyVersion := by decide
  hash := by decide
  hashGiven := rfl
  texts := by decide

/-! ### The profiles compared -/

/-- For tokens with the same claims the profiles agree, on grants and on statements, unless
the pair is divided: both accept or both refuse, with results that differ in the hash of
the grant only. Where both accept a session, its assertion is the same, divided or not. -/
theorem profiles_agree_iff {Key : Type} {lib : Library Key} (hlib : Lawful lib)
    (hcomplete : Complete lib) {cose : Cose Key} {sha256 : Bytes → Bytes} {sysNow : SysTime}
    {jgrant jbinding : VerifyOptions Key} {cgrant cbinding : CWTVerifyOptions Key}
    {grantTokenString bindingTokenString : GoString} {grantToken bindingToken : Bytes}
    {grantClaims bindingClaims : Claims} {grantMap bindingMap : ClaimMap} {grantHash : GoString}
    (hgrant : SameToken lib cose (identityGrantClaims lib) grantTokenString grantToken jgrant cgrant
      grantClaims grantMap) (hgrantClaims : SameGrantClaims grantClaims grantMap)
    (hbinding : SameToken lib cose (sessionBindingClaims lib) bindingTokenString bindingToken
      jbinding cbinding bindingClaims bindingMap)
    (hbindingClaims : SameBindingClaims bindingClaims bindingMap grantHash) :
    (Lib.Agree
        (fun jwt cwt => cwt = { jwt with grantHash := identityGrantCWTHash sha256 grantToken })
        (verifyIdentityGrantJWT sha256 lib grantTokenString jgrant sysNow)
        (verifyIdentityGrantCWT sha256 cose grantToken cgrant sysNow) ↔
      ¬Divided lib grantTokenString jgrant (jgrant.time sysNow) (GrantChecks jgrant grantClaims)
        grantClaims.toRegisteredClaims) ∧
    (Lib.Agree (fun jwt cwt => cwt = { jwt with grantHash })
        (verifySessionBindingJWT lib bindingTokenString jbinding sysNow)
        (verifySessionBindingCWT cose bindingToken cbinding sysNow) ↔
      ¬Divided lib bindingTokenString jbinding (jbinding.time sysNow)
        (StatementChecks jbinding bindingClaims) bindingClaims.toRegisteredClaims) ∧
    ∀ {σ τ : Type} {jsession : SessionIdentityJWTOptions Key σ}
      {csession : SessionIdentityCWTOptions Key τ} {r r' : Token.SessionIdentityResult}
      {w w₁ : σ} {v v₁ : τ}, jsession.grant = jgrant → jsession.sessionBinding = jbinding →
      csession.grant = cgrant → csession.sessionBinding = cbinding →
      csession.now = jsession.now →
      verifySessionIdentityJWT sha256 lib grantTokenString bindingTokenString jsession sysNow w =
        (.ok r, w₁) →
      verifySessionIdentityCWT sha256 cose grantToken bindingToken csession sysNow v =
        (.ok r', v₁) →
      r'.grant = { r.grant with grantHash := identityGrantCWTHash sha256 grantToken } ∧
        r'.statement = { r.statement with grantHash } ∧ r'.assertion = r.assertion := by
  refine ⟨grants_agree_iff hlib hcomplete hgrant hgrantClaims,
    statements_agree_iff hlib hcomplete hbinding hbindingClaims, ?_⟩
  intro σ τ jsession csession r r' w w₁ v v₁ hjgrant hjbinding hcgrant hcbinding hnow hjwt hcwt
  subst hjgrant hjbinding hcgrant hcbinding
  exact sessions_agree hlib hcomplete hgrant hgrantClaims hbinding hbindingClaims hnow hjwt hcwt

/-- At second 10 the profiles agree on the sample grant and the sample statement with an
`iat`, and accept both. -/
theorem profiles_agree_sample :
    (Lib.Agree
        (fun jwt cwt => cwt = { jwt with grantHash := identityGrantCWTHash (fun _ => [0xab]) [1] })
        (verifyIdentityGrantJWT (fun _ => [0xab]) sampleLibrary datedGrant
          (sampleOptionsAt (lit "m") (lit "m1") [1] 10) sampleClock)
        (verifyIdentityGrantCWT (fun _ => [0xab]) sampleCose [1]
          (sampleCWTOptions (sampleOptionsAt (lit "m") (lit "m1") [1] 10)) sampleClock)) ∧
    (Lib.Agree (fun jwt cwt => cwt = { jwt with grantHash := lit "sha256:ab" })
        (verifySessionBindingJWT sampleLibrary datedStatement
          (sampleOptionsAt (lit "a") (lit "a1") [2] 10) sampleClock)
        (verifySessionBindingCWT sampleCose [2]
          (sampleCWTOptions (sampleOptionsAt (lit "a") (lit "a1") [2] 10)) sampleClock)) ∧
    (verifyIdentityGrantCWT (fun _ => [0xab]) sampleCose [1]
      (sampleCWTOptions (sampleOptionsAt (lit "m") (lit "m1") [1] 10)) sampleClock).map
        (fun grant => grant.values.agent) = .ok (lit "a") ∧
    (verifySessionBindingCWT sampleCose [2]
      (sampleCWTOptions (sampleOptionsAt (lit "a") (lit "a1") [2] 10)) sampleClock).map
        (fun statement => statement.signerKey) = .ok (lit "a1") := by
  obtain ⟨hgrants, hstms, -⟩ :=
    @profiles_agree_iff Bytes sampleLibrary sampleLibrary_lawful reference_complete sampleCose
      (fun _ => [0xab]) sampleClock _ _ _ _ _ _ _ _ _ _ _ _ _ (datedGrant_same 10)
      (sampleGrant_claims (some 5) (by decide)) (datedStatement_same 10) sampleStatement_claims
  exact ⟨
    hgrants.mpr (not_divided_of_ne_expiry (by decide) rfl (by decide) (by decide)),
    hstms.mpr
      (not_divided_of_ne_expiry (by decide) rfl (by decide) (by decide)),
    by decide, by decide⟩

/-- The same claims, and the profiles part: at second 20, when it expires, a grant is
refused as a JWT and accepted as a CWT; at second 10 a grant without an `iat` is accepted as
a JWT and refused as a CWT. -/
theorem profiles_disagree :
    (SameToken sampleLibrary sampleCose (identityGrantClaims sampleLibrary) datedGrant [1]
        (sampleOptionsAt (lit "m") (lit "m1") [1] 20)
        (sampleCWTOptions (sampleOptionsAt (lit "m") (lit "m1") [1] 20)) (sampleGrantClaims (some 5))
        (sampleGrantMap (some 5)) ∧
      SameGrantClaims (sampleGrantClaims (some 5)) (sampleGrantMap (some 5)) ∧
      (¬∃ grant, verifyIdentityGrantJWT (fun _ => [0xab]) sampleLibrary datedGrant
        (sampleOptionsAt (lit "m") (lit "m1") [1] 20) sampleClock = .ok grant) ∧
      (verifyIdentityGrantCWT (fun _ => [0xab]) sampleCose [1]
        (sampleCWTOptions (sampleOptionsAt (lit "m") (lit "m1") [1] 20)) sampleClock).map
          (fun grant => grant.values.agent) = .ok (lit "a")) ∧
    SameToken sampleLibrary sampleCose (identityGrantClaims sampleLibrary) sampleGrant [3]
      (sampleOptionsAt (lit "m") (lit "m1") [1] 10)
      (sampleCWTOptions (sampleOptionsAt (lit "m") (lit "m1") [1] 10)) (sampleGrantClaims none)
      (sampleGrantMap none) ∧
    SameGrantClaims (sampleGrantClaims none) (sampleGrantMap none) ∧
    (verifyIdentityGrantJWT (fun _ => [0xab]) sampleLibrary sampleGrant
      (sampleOptionsAt (lit "m") (lit "m1") [1] 10) sampleClock).map
        (fun grant => grant.values.agent) = .ok (lit "a") ∧
    verifyIdentityGrantCWT (fun _ => [0xab]) sampleCose [3]
      (sampleCWTOptions (sampleOptionsAt (lit "m") (lit "m1") [1] 10)) sampleClock =
        .error (.sentinel .missingIssuedAt) := by
  have hexpd : ¬∃ grant, verifyIdentityGrantJWT (fun _ => [0xab]) sampleLibrary datedGrant
      (sampleOptionsAt (lit "m") (lit "m1") [1] 20) sampleClock = .ok grant := by
    intro h
    obtain ⟨grant, h⟩ := h
    obtain ⟨-, -, ⟨-, -, hexp, -⟩, -⟩ :=
      (verifyIdentityGrantJWT_ok_iff sampleLibrary_lawful reference_complete (datedGrant_same 20)
        grant).mp h
    exact hexp (by decide)
  refine ⟨⟨datedGrant_same 20, sampleGrant_claims (some 5) (by decide), hexpd,
      by decide⟩,
    sampleGrant_same 10, sampleGrant_claims none (by decide), ?_, by decide⟩
  rw [verifyIdentityGrantJWT, sample_runs.2.2, Lib.ok_bind]
  decide

end SecureBinding.Agtp
