import SecureBinding.Agtp.GatewayToken
import SecureBinding.Agtp.ProfileAgreement
import SecureBinding.GatewayRoute.RouteSound

/-!
# Agtp.GatewayAgreement

Gateway route assertions as JWT and as CWT, side by side.

A claim set is given with its audience as a single text or as a list, and is signed in both
encodings, with the list in every order (`EncodedInEveryOrder`). Both parsers are content if
the expected audience is anywhere in the list. The adapters then pick one value: of a JWT the
first, of a CWT a single text, and nothing out of a list. That value is what `Validate`
compares with the audience of the expected route. So a list is never accepted as a CWT, and as
a JWT it is accepted if the right audience comes first (`gateway_encodings_agree_iff`). The
differences between the validators of registered claims (`JWTOnly`, `CWTOnly`) come on top,
except that a missing `iat` is found by `Validate` in both.
-/

namespace SecureBinding.Agtp

open Go JWT GatewayRoute
open Token (VerifyError isListed)

/-! ### Claim sets -/

/-- How an audience is given. -/
inductive AudienceForm
  | text
  | list

/-- An audience in one of the forms. -/
inductive GivenAs : AudienceForm → Option Value → List GoString → Prop
  | text (s : GoString) : GivenAs .text (some (.str s)) [s]
  | list {value : Option Value} {ss : List GoString} (h : HoldsStrings value ss) :
    GivenAs .list value ss

/-- An integer claim of any of the types a decoder produces; zero may be left out. -/
inductive HoldsInt : Option Value → Int → Prop
  | absent : HoldsInt none 0
  | int (n : Int) : HoldsInt (some (.int n)) n
  | int64 (n : Int) : HoldsInt (some (.int64 n)) n
  | uint64 (n : Nat) (h : n < 2 ^ 63) : HoldsInt (some (.uint64 n)) n

/-- The names of the text claims of a route assertion. -/
def routeTexts : List (String × (RouteClaims → GoString)) :=
  [("gta_type", RouteClaims.type), ("nonce", RouteClaims.nonce),
    ("grant_hash", RouteClaims.grantHash),
    ("gateway_session_binding_sha256", RouteClaims.gatewaySessionBindingSHA256),
    ("route_id", RouteClaims.routeID), ("next_hop", RouteClaims.nextHop),
    ("tenant", RouteClaims.tenant), ("principal", RouteClaims.principal),
    ("authority_scope", RouteClaims.authorityScope), ("policy_id", RouteClaims.policyID),
    ("target_agent", RouteClaims.targetAgent), ("target_workload", RouteClaims.targetWorkload),
    ("target_agent_key_thumbprint", RouteClaims.targetAgentKeyThumbprint),
    ("upstream_authn", RouteClaims.upstreamAuthn), ("upstream_peer", RouteClaims.upstreamPeer),
    ("request_context_sha256", RouteClaims.requestContextSHA256), ("task_id", RouteClaims.taskID),
    ("context_id", RouteClaims.contextID), ("session_id", RouteClaims.sessionID),
    ("audit_hash", RouteClaims.auditHash),
    ("agent_hok_proof_sha256", RouteClaims.agentHolderOfKeyProofSHA256)]

/-- The map has the claims of the struct, both being those of a route assertion. -/
structure SameGatewayClaims (form : AudienceForm) (c : Claims) (m : ClaimMap) : Prop where
  standard : SameStandard c.toRegisteredClaims m
  audience : GivenAs form (cwtClaimValue m cwtClaimAudience) c.audience
  version : HoldsInt (cwtClaimValue m (.str (lit "gta_version"))) c.route.version
  texts : ∀ claim ∈ routeTexts, TextNamed m claim.1 (claim.2 c.route)

section Claims

variable {form : AudienceForm} {c : Claims} {m : ClaimMap}

theorem cwtIntClaimOrZero_eq {key : Label} {n : Int} (h : HoldsInt (cwtClaimValue m key) n) :
    cwtIntClaimOrZero m key = n := by
  rw [cwtIntClaimOrZero]
  generalize cwtClaimValue m key = value at h
  cases h with
  | absent => rfl
  | int n => rfl
  | int64 n => rfl
  | uint64 n hn =>
    simp only [Int.bmod_def]
    omega

theorem cwtRouteClaims_eq (h : SameGatewayClaims form c m) : cwtRouteClaims m = c.route := by
  have htexts : ∀ claim ∈ routeTexts, namedClaim m claim.1 = claim.2 c.route :=
    fun claim hmem => namedClaim_eq (h.texts claim hmem)
  simp only [routeTexts, List.forall_mem_cons] at htexts
  simp only [cwtRouteClaims, htexts, cwtIntClaimOrZero_eq h.version]

/-- The adapters make the same of the claims, but for the audience. -/
theorem assertionFromCWTClaims_eq (h : SameGatewayClaims form c m) :
    gatewayRouteAssertionFromCWTClaims m =
      { gatewayRouteAssertionFromJWTClaims c with
        audience := (cwtStringClaim m cwtClaimAudience).getD [] } := by
  have hiss : (cwtStringClaim m cwtClaimIssuer).getD [] = c.issuer :=
    cwtStringClaimOrEmpty_eq h.standard.issuer
  have hid : cwtIDFromClaims m = c.id := cwtStringClaimOrEmpty_eq h.standard.id
  simp only [gatewayRouteAssertionFromCWTClaims, gatewayRouteAssertionFromJWTClaims,
    cwtRouteClaims_eq h, hiss, hid, cwtTimeClaim_eq h.standard.issuedAt,
    cwtTimeClaim_eq h.standard.expiresAt]

/-- An audience in a single text is the same for both adapters. -/
theorem assertionFromCWTClaims_text (h : SameGatewayClaims .text c m) :
    gatewayRouteAssertionFromCWTClaims m = gatewayRouteAssertionFromJWTClaims c := by
  have haud : (cwtStringClaim m cwtClaimAudience).getD [] = c.audience.headD [] := by
    have hgiv := h.audience
    rw [cwtStringClaim]
    generalize cwtClaimValue m cwtClaimAudience = value at hgiv
    generalize c.audience = audience at hgiv
    cases hgiv
    rfl
  rw [assertionFromCWTClaims_eq h, haud]
  rfl

theorem assertionFromCWTClaims_list (h : SameGatewayClaims .list c m) :
    (gatewayRouteAssertionFromCWTClaims m).audience = [] := by
  have hgiv := h.audience
  show (cwtStringClaim m cwtClaimAudience).getD [] = []
  rw [cwtStringClaim]
  generalize cwtClaimValue m cwtClaimAudience = value at hgiv
  generalize c.audience = audience at hgiv
  cases hgiv with
  | list hlist => cases hlist <;> rfl

end Claims

/-! ### Verifiers -/

section Verifiers

variable {Key σ : Type}

/-- The policy accepts the assertion, with a cache in state `w`. -/
structure RouteAccepted (policy : GatewayRoutePolicy σ) (now : Time) (started : SysTime) (w : σ)
    (a : Assertion) : Prop where
  cache : policy.route.replayCache.isNone = false
  acceptance : validateGatewayRouteAcceptance a policy.expectedGrantHash
    policy.expectedGatewaySessionBindingSHA256 policy.expectedAgentHolderOfKeyProofSHA256
    policy.expected.requireAgentHolderOfKeyProof = .ok ()
  valid : (validate a policy.proof policy.expected
    (routeOptionsWithNow policy.route (if now.isZero then started.val else now)) started w).1 = none

theorem acceptGatewayRoute_ok_iff {policy : GatewayRoutePolicy σ} {now : Time}
    {started : SysTime} {verified : Except VerifyError Assertion} {w : σ} {a : Assertion} :
    (acceptGatewayRoute policy now started verified w).1 = .ok a ↔
      verified = .ok a ∧ RouteAccepted policy now started w a := by
  unfold acceptGatewayRoute
  constructor
  · intro h
    -- In the order of the code: the cache, the token, its acceptance, the validator.
    split at h
    · cases h
    · rename_i hca
      split at h
      · cases h
      · rename_i b
        split at h
        · cases h
        · rename_i hacceptance
          split at h
          · cases h
          · rename_i hval
            obtain rfl := Except.ok.inj h
            exact ⟨rfl, Bool.eq_false_iff.mpr hca, hacceptance, congrArg Prod.fst hval⟩
  · intro h
    obtain ⟨rfl, hrt⟩ := h
    have hval := hrt.valid
    rw [hrt.cache, if_neg Bool.false_ne_true]
    dsimp only
    rw [hrt.acceptance]
    dsimp only
    split
    · rename_i heq
      rw [heq] at hval
      cases hval
    · rfl

/-- An accepted assertion has the audience of the expected route. -/
theorem RouteAccepted.audience_eq {policy : GatewayRoutePolicy σ} {now : Time} {started : SysTime}
    {w : σ} {a : Assertion} (h : RouteAccepted policy now started w a) :
    a.audience = policy.expected.audience ∧ isBlank policy.expected.audience = false := by
  obtain ⟨-, hrt, -⟩ := fieldErrors_eq_nil_iff.mp (fieldErrors_of_validate h.valid)
  have hmts : Matches policy.expected.audience a.audience :=
    hrt.fields ("aud", policy.expected.audience, a.audience) (by simp [expectedFields])
  have hgiv := hrt.required policy.expected.audience (by simp [requiredValues])
  exact ⟨(hmts.eq hgiv).symm, hgiv⟩

/-- What both verifiers check of an assertion, once its token is parsed. -/
structure GatewayChecks (opts : GatewayRouteJWTOptions Key σ) (started : SysTime) (w : σ)
    (a : Assertion) : Prop where
  notRevoked : isListed a.id opts.assertion.revokedJWTIDs = false
  core : validateGatewayRouteCore a = .ok ()
  accepted : RouteAccepted opts.toGatewayRoutePolicy opts.assertion.now started w a

variable {lib : Library Key} {cose : Cose Key} {tokenString : GoString} {token : Bytes}
  {jopts : GatewayRouteJWTOptions Key σ} {copts : GatewayRouteCWTOptions Key σ} {c : Claims}
  {m : ClaimMap} {form : AudienceForm} {started parsed : SysTime} {w : σ} {a : Assertion}

theorem verifyGatewayRouteJWT_ok_iff (hlib : Lawful lib) (hcom : Complete lib)
    (h : SameToken lib cose (gatewayRouteAssertionClaims lib) tokenString token jopts.assertion
      copts.assertion c m) (a : Assertion) :
    (verifyGatewayRouteJWT lib tokenString jopts started parsed w).1 = .ok a ↔
      ∃ keyID, JWTVerified lib jopts.assertion tokenString keyID ∧
        (GatewayChecks jopts started w (gatewayRouteAssertionFromJWTClaims c) ∧
          JWTValid jopts.assertion parsed c) ∧
        a = gatewayRouteAssertionFromJWTClaims c := by
  simp only [verifyGatewayRouteJWT, acceptGatewayRoute_ok_iff, verifyGatewayRouteAssertionJWT,
    Lib.bind_ok_iff, Prod.exists, Lib.pure_ok_iff, h.parseJWT_iff hlib hcom]
  constructor
  · intro hok
    obtain ⟨⟨_, keyID, ⟨hver, hreg, hrev, rfl⟩, _, hcore, rfl⟩, hacc⟩ := hok
    exact ⟨keyID, hver, ⟨⟨hrev, hcore, hacc⟩, hreg⟩, rfl⟩
  · intro hok
    obtain ⟨keyID, hver, ⟨hchk, hreg⟩, rfl⟩ := hok
    exact ⟨⟨c, keyID, ⟨hver, hreg, hchk.notRevoked, rfl⟩, (), hchk.core, rfl⟩, hchk.accepted⟩

theorem verifyGatewayRouteCWT_ok_iff
    (h : SameToken lib cose (gatewayRouteAssertionClaims lib) tokenString token jopts.assertion
      copts.assertion c m) (hsame : SameGatewayClaims form c m)
    (hpol : copts.toGatewayRoutePolicy = jopts.toGatewayRoutePolicy) (a : Assertion) :
    (verifyGatewayRouteCWT cose token copts started parsed w).1 = .ok a ↔
      ∃ keyID, JWTVerified lib jopts.assertion tokenString keyID ∧
        (GatewayChecks jopts started w (gatewayRouteAssertionFromCWTClaims m) ∧
          CWTValid jopts.assertion parsed c) ∧
        a = gatewayRouteAssertionFromCWTClaims m := by
  simp only [verifyGatewayRouteCWT, acceptGatewayRoute_ok_iff, verifyGatewayRouteAssertionCWT,
    Lib.bind_ok_iff, Prod.exists, Lib.pure_ok_iff, Token.require_ok_iff, exists_const,
    h.parseCWT_iff hsame.standard, hpol, h.options.revoked, h.options.now]
  constructor
  · intro hok
    obtain ⟨⟨_, keyID, ⟨hver, hreg, hm⟩, -, hrev, _, hcore, rfl⟩, hacc⟩ := hok
    rw [hm] at hrev hcore hacc ⊢
    have hlisted : isListed (cwtIDFromClaims m) jopts.assertion.revokedJWTIDs = false := by
      simpa using hrev
    exact ⟨keyID, hver, ⟨⟨hlisted, hcore, hacc⟩, hreg⟩, rfl⟩
  · intro hok
    obtain ⟨keyID, hver, ⟨hchk, hreg⟩, rfl⟩ := hok
    have hlisted : isListed (cwtIDFromClaims m) jopts.assertion.revokedJWTIDs = false :=
      hchk.notRevoked
    -- an id that is not blank is not empty
    have hid : (cwtIDFromClaims m != []) = true := by
      have hcore := hchk.core
      simp only [validateGatewayRouteCore, Lib.bind_ok_iff, Token.require_ok_iff,
        exists_const] at hcore
      obtain ⟨-, -, hgiv⟩ := hcore
      rw [bne_iff_ne]
      intro hnil
      rw [show (gatewayRouteAssertionFromCWTClaims m).id = [] from hnil] at hgiv
      exact absurd hgiv (by decide)
    exact ⟨⟨m, keyID, ⟨hver, hreg, rfl⟩, hid, by simp [hlisted], (), hchk.core, rfl⟩, hchk.accepted⟩

/-- Of all audiences only that of the expected route passes. -/
theorem gatewayChecks_iff {x : GoString} :
    GatewayChecks jopts started w { a with audience := x } ↔ x = jopts.expected.audience ∧
      GatewayChecks jopts started w { a with audience := jopts.expected.audience } := by
  constructor
  · intro h
    have hx : x = jopts.expected.audience := h.accepted.audience_eq.1
    rw [hx] at h
    exact ⟨hx, h⟩
  · intro h
    obtain ⟨rfl, h⟩ := h
    exact h

/-! ### Every order of the audience -/

/-- The claim set is signed in both encodings, the audience in every order; `jwt`, `cwt` and
`maps` are the tokens and the decoded maps. The signatures are valid in all orders or in
none. -/
structure EncodedInEveryOrder (lib : Library Key) (cose : Cose Key) (jopts : VerifyOptions Key)
    (copts : CWTVerifyOptions Key) (form : AudienceForm) (c : Claims)
    (jwt : List GoString → GoString) (cwt : List GoString → Bytes)
    (maps : List GoString → ClaimMap) : Prop where
  tokens : ∀ audience, audience.Perm c.audience →
    SameToken lib cose (gatewayRouteAssertionClaims lib) (jwt audience) (cwt audience) jopts copts
      { c with audience } (maps audience)
  claims : ∀ audience, audience.Perm c.audience →
    SameGatewayClaims form { c with audience } (maps audience)
  signed : ∀ audience, audience.Perm c.audience →
    ((∃ keyID, JWTVerified lib jopts (jwt audience) keyID) ↔
      ∃ keyID, JWTVerified lib jopts (jwt c.audience) keyID)

/-- The claim set passes everything that the verifiers share, if the adapters find the
audience of the expected route. -/
structure PassesShared (lib : Library Key) (tokenString : GoString)
    (opts : GatewayRouteJWTOptions Key σ) (started parsed : SysTime) (w : σ) (c : Claims) :
    Prop where
  verified : ∃ keyID, JWTVerified lib opts.assertion tokenString keyID
  common : CommonValid opts.assertion.expectedAudience (opts.assertion.time parsed)
    c.toRegisteredClaims
  checks : GatewayChecks opts started w
    { gatewayRouteAssertionFromJWTClaims c with audience := opts.expected.audience }

/-- The encodings can not be told apart: a single audience is not that of the route, or the
validators of registered claims agree; of several none is that of the route, or the JWT
library refuses the claims. -/
def Indistinct (form : AudienceForm) (expected : ExpectedRoute) (issuer : GoString) (now : Time)
    (c : RegisteredClaims) : Prop :=
  match form with
  | .text => c.audience = [expected.audience] → ¬JWTOnly issuer now c ∧ ¬CWTOnly issuer now c
  | .list => expected.audience ∈ c.audience → ¬JWTDemands issuer now c

variable {jwt : List GoString → GoString} {cwt : List GoString → Bytes}
  {maps : List GoString → ClaimMap}

/-- The audience of the JWT's assertion is the first of the list. -/
theorem gatewayChecks_fromJWTClaims_iff :
    GatewayChecks jopts started w (gatewayRouteAssertionFromJWTClaims c) ↔
      c.audience.headD [] = jopts.expected.audience ∧
      GatewayChecks jopts started w
        { gatewayRouteAssertionFromJWTClaims c with audience := jopts.expected.audience } :=
  gatewayChecks_iff (a := gatewayRouteAssertionFromJWTClaims c) (x := c.audience.headD [])

theorem GivenAs.audience_text {value : Option Value} {audience : List GoString}
    (h : GivenAs .text value audience) : ∃ s, audience = [s] := by
  cases h with
  | text s => exact ⟨s, rfl⟩

/-- A claim set with a single audience: the verifiers agree unless the validators of the
registered claims do not. -/
theorem agree_text_iff (hlib : Lawful lib) (hcom : Complete lib)
    (h : SameToken lib cose (gatewayRouteAssertionClaims lib) tokenString token jopts.assertion
      copts.assertion c m) (hsame : SameGatewayClaims .text c m)
    (hpol : copts.toGatewayRoutePolicy = jopts.toGatewayRoutePolicy) :
    Lib.Agree Eq (verifyGatewayRouteJWT lib tokenString jopts started parsed w).1
        (verifyGatewayRouteCWT cose token copts started parsed w).1 ↔
      (PassesShared lib tokenString jopts started parsed w c →
        Indistinct .text jopts.expected jopts.assertion.expectedIssuer
          (jopts.assertion.time parsed) c.toRegisteredClaims) := by
  have hcwt : ∀ a, (verifyGatewayRouteCWT cose token copts started parsed w).1 = .ok a ↔ _ :=
    verifyGatewayRouteCWT_ok_iff h hsame hpol
  rw [assertionFromCWTClaims_text hsame] at hcwt
  have huni := fun k k' (hk : JWTVerified lib jopts.assertion tokenString k)
    (hk' : JWTVerified lib jopts.assertion tokenString k') => hk.keyID_unique hk'
  rw [Lib.agree_iff (verifyGatewayRouteJWT_ok_iff hlib hcom h) hcwt huni fun _ => rfl]
  obtain ⟨s, hs⟩ := hsame.audience.audience_text
  have hhead : c.audience.headD [] = jopts.expected.audience ↔
      c.audience = [jopts.expected.audience] := by
    rw [hs]
    simp
  rw [gatewayChecks_fromJWTClaims_iff, hhead]
  simp only [and_congr_right_iff, demands_iff]
  constructor
  · intro hagr hpas haud
    exact hagr hpas.verified ⟨haud, hpas.checks⟩ hpas.common
  · intro hindistinct hver hchk hcommon
    exact hindistinct ⟨hver, hcommon, hchk.2⟩ hchk.1

theorem verifyGatewayRouteCWT_list
    (h : SameToken lib cose (gatewayRouteAssertionClaims lib) tokenString token jopts.assertion
      copts.assertion c m) (hsame : SameGatewayClaims .list c m)
    (hpol : copts.toGatewayRoutePolicy = jopts.toGatewayRoutePolicy) :
    ¬∃ a, (verifyGatewayRouteCWT cose token copts started parsed w).1 = .ok a := by
  intro hok
  obtain ⟨a, hok⟩ := hok
  obtain ⟨-, -, ⟨hchk, -⟩, -⟩ := (verifyGatewayRouteCWT_ok_iff h hsame hpol a).mp hok
  obtain ⟨haud, hgiv⟩ := hchk.accepted.audience_eq
  rw [assertionFromCWTClaims_list hsame] at haud
  rw [← haud] at hgiv
  exact absurd hgiv (by decide)

theorem verifyGatewayRouteJWT_accepts_iff (hlib : Lawful lib) (hcom : Complete lib)
    (h : SameToken lib cose (gatewayRouteAssertionClaims lib) tokenString token jopts.assertion
      copts.assertion c m) :
    (∃ a, (verifyGatewayRouteJWT lib tokenString jopts started parsed w).1 = .ok a) ↔
      PassesShared lib tokenString jopts started parsed w c ∧
      c.audience.headD [] = jopts.expected.audience ∧
      JWTDemands jopts.assertion.expectedIssuer (jopts.assertion.time parsed)
        c.toRegisteredClaims := by
  simp only [verifyGatewayRouteJWT_ok_iff hlib hcom h, gatewayChecks_fromJWTClaims_iff]
  constructor
  · intro hok
    obtain ⟨_, keyID, hver, ⟨⟨haud, hchk⟩, hcommon, hdem⟩, -⟩ := hok
    exact ⟨⟨⟨keyID, hver⟩, hcommon, hchk⟩, haud, hdem⟩
  · intro hok
    obtain ⟨hpas, haud, hdem⟩ := hok
    obtain ⟨keyID, hver⟩ := hpas.verified
    exact ⟨_, keyID, hver, ⟨⟨haud, hpas.checks⟩, hpas.common, hdem⟩, rfl⟩

/-- The order of the audience makes no difference to what is shared. -/
theorem PassesShared.perm {audience : List GoString} (hperm : audience.Perm c.audience)
    {tokenString' : GoString}
    (hsig : (∃ keyID, JWTVerified lib jopts.assertion tokenString' keyID) ↔
      ∃ keyID, JWTVerified lib jopts.assertion tokenString keyID) :
    PassesShared lib tokenString' jopts started parsed w { c with audience } ↔
      PassesShared lib tokenString jopts started parsed w c := by
  constructor
  · intro h
    exact ⟨hsig.mp h.verified, ⟨h.common.notExpired, h.common.notFuture,
      hperm.mem_iff.mp h.common.audience⟩, h.checks⟩
  · intro h
    exact ⟨hsig.mpr h.verified, ⟨h.common.notExpired, h.common.notFuture,
      hperm.mem_iff.mpr h.common.audience⟩, h.checks⟩

/-- A claim set means the same in both encodings, and in every order of its audience, exactly
if it does not pass what the verifiers share, or is indistinct. -/
theorem gateway_encodings_agree_iff (hlib : Lawful lib) (hcomplete : Complete lib)
    (h : EncodedInEveryOrder lib cose jopts.assertion copts.assertion form c jwt cwt maps)
    (hpolicy : copts.toGatewayRoutePolicy = jopts.toGatewayRoutePolicy) (started parsed : SysTime)
    (w : σ) :
    (∀ audience, audience.Perm c.audience →
      Lib.Agree Eq (verifyGatewayRouteJWT lib (jwt audience) jopts started parsed w).1
        (verifyGatewayRouteCWT cose (cwt audience) copts started parsed w).1 ∧
      ((∃ a, (verifyGatewayRouteJWT lib (jwt audience) jopts started parsed w).1 = .ok a) ↔
        ∃ a, (verifyGatewayRouteJWT lib (jwt c.audience) jopts started parsed w).1 = .ok a) ∧
      ((∃ a, (verifyGatewayRouteCWT cose (cwt audience) copts started parsed w).1 = .ok a) ↔
        ∃ a, (verifyGatewayRouteCWT cose (cwt c.audience) copts started parsed w).1 = .ok a)) ↔
      (PassesShared lib (jwt c.audience) jopts started parsed w c →
        Indistinct form jopts.expected jopts.assertion.expectedIssuer
          (jopts.assertion.time parsed) c.toRegisteredClaims) := by
  have hrefl := List.Perm.refl c.audience
  cases form with
  | text =>
    have htokens : SameToken lib cose (gatewayRouteAssertionClaims lib) (jwt c.audience)
        (cwt c.audience) jopts.assertion copts.assertion c (maps c.audience) :=
      h.tokens c.audience hrefl
    have hcl : SameGatewayClaims .text c (maps c.audience) := h.claims c.audience hrefl
    rw [← agree_text_iff hlib hcomplete htokens hcl hpolicy]
    constructor
    · intro hall
      exact (hall c.audience hrefl).1
    · intro hone audience hperm
      -- a single audience has one order only
      obtain ⟨s, hs⟩ := hcl.audience.audience_text
      obtain rfl : audience = c.audience := by
        rw [hs] at hperm ⊢
        exact List.perm_singleton.mp hperm
      exact ⟨hone, Iff.rfl, Iff.rfl⟩
  | list =>
    have hcwt : ∀ audience, audience.Perm c.audience →
        ¬∃ a, (verifyGatewayRouteCWT cose (cwt audience) copts started parsed w).1 = .ok a :=
      fun audience hperm =>
        verifyGatewayRouteCWT_list (h.tokens audience hperm) (h.claims audience hperm) hpolicy
    constructor
    · intro hall hpas hmem hdem
      -- the JWT that has the audience of the route first is accepted
      have hperm := (List.perm_cons_erase hmem).symm
      obtain ⟨⟨hboth, -⟩, -⟩ := hall _ hperm
      have hjwt := (verifyGatewayRouteJWT_accepts_iff hlib hcomplete (h.tokens _ hperm)).mpr
        ⟨(PassesShared.perm hperm (h.signed _ hperm)).mpr hpas, rfl, hdem⟩
      exact hcwt _ hperm (hboth.mp hjwt)
    · intro hindistinct
      have hjwt : ∀ audience, audience.Perm c.audience →
          ¬∃ a, (verifyGatewayRouteJWT lib (jwt audience) jopts started parsed w).1 = .ok a := by
        intro audience hperm hok
        obtain ⟨hpas, hhead, hdem⟩ :=
          (verifyGatewayRouteJWT_accepts_iff hlib hcomplete (h.tokens audience hperm)).mp hok
        have hmem : jopts.expected.audience ∈ audience := by
          have hsome : jopts.assertion.expectedAudience ∈ audience := hpas.common.audience
          cases audience with
          | nil => cases hsome
          | cons x rest => exact hhead ▸ List.mem_cons_self
        exact hindistinct ((PassesShared.perm hperm (h.signed audience hperm)).mp hpas)
          (hperm.mem_iff.mp hmem) hdem
      intro audience hperm
      exact ⟨⟨iff_of_false (hjwt audience hperm) (hcwt audience hperm),
          fun a _ ha _ => absurd ⟨a, ha⟩ (hjwt audience hperm)⟩,
        iff_of_false (hjwt audience hperm) (hjwt c.audience hrefl),
        iff_of_false (hcwt audience hperm) (hcwt c.audience hrefl)⟩

end Verifiers

/-! ### Sample claim sets -/

/-- A JWT of gateway `m`, signed under the key id `m1` and valid from second 5 to second 20,
with the claims of `sampleClaims`. The encoded audience comes last. -/
def gatewayToken (audience : String) : GoString := litPieces
  ["eyJhbGciOiJ0Iiwia2lkIjoibTEifQ.", "eyJpc3MiOiJtIiwiZXhwIjoyMCwiaWF0Ijo1LCJq",
    "dGkiOiIxIiwiZ3RhX3R5cGUiOiJhaTJhaS5nYXRl", "d2F5LXJvdXRlLWFzc2VydGlvbiIsImd0YV92ZXJz",
    "aW9uIjoxLCJub25jZSI6Im4iLCJncmFudF9oYXNo", "IjoiZyIsImdhdGV3YXlfc2Vzc2lvbl9iaW5kaW5n",
    "X3NoYTI1NiI6ImIiLCJyb3V0ZV9pZCI6InIiLCJu", "ZXh0X2hvcCI6ImgiLCJwb2xpY3lfaWQiOiJwIiwi",
    "dGFyZ2V0X2FnZW50IjoiYSIsInVwc3RyZWFtX2F1", "dGhuIjoiayIsInVwc3RyZWFtX3BlZXIiOiJ1Iiwi",
    "cmVxdWVzdF9jb250ZXh0X3NoYTI1NiI6ImMiLCJh", "dWQiOiAg", audience, ".AQ"]

def gatewayClaims (audience : List GoString) : Claims where
  issuer := lit "m"
  audience := audience
  expiresAt := some (Time.unix 20)
  issuedAt := some (Time.unix 5)
  id := lit "1"
  route := { sampleClaims with agentHolderOfKeyProofSHA256 := [] }

def gatewayMap (audience : Value) : ClaimMap :=
  [(.uint64 1, .str (lit "m")), (.uint64 3, audience), (.uint64 4, .uint64 20),
    (.uint64 6, .uint64 5), (.uint64 7, .str (lit "1")),
    (.str (lit "gta_type"), .str assertionType), (.str (lit "gta_version"), .uint64 1),
    (.str (lit "nonce"), .str (lit "n")), (.str (lit "grant_hash"), .str (lit "g")),
    (.str (lit "gateway_session_binding_sha256"), .str (lit "b")),
    (.str (lit "route_id"), .str (lit "r")), (.str (lit "next_hop"), .str (lit "h")),
    (.str (lit "policy_id"), .str (lit "p")), (.str (lit "target_agent"), .str (lit "a")),
    (.str (lit "upstream_authn"), .str (lit "k")), (.str (lit "upstream_peer"), .str (lit "u")),
    (.str (lit "request_context_sha256"), .str (lit "c"))]

/-- The audience `v` as a text, and `v` and `x` as a list in two orders: the JWT's ending,
the bytes of the CWT, and the value in its map. -/
def gatewaySamples : List (List GoString × String × Bytes × Value) :=
  [([lit "v"], "InYifQ", [1], .str (lit "v")),
    ([lit "v", lit "x"], "WyJ2IiwieCJdfQ", [2], .strs [lit "v", lit "x"]),
    ([lit "x", lit "v"], "WyJ4IiwidiJdfQ", [3], .strs [lit "x", lit "v"])]

/-- Libraries with the three messages. -/
def gatewayCose : Cose Bytes :=
  sampleCoseWith (fun token => .ok (sampleMessage token (lit "m1") [1]))
    fun token => match gatewaySamples.find? fun s => s.2.2.1 == token with
      | some s => .ok (gatewayMap s.2.2.2)
      | none => .error "cbor: cannot unmarshal"

/-- The options of a verifier that expects the audience `v`, at second 10. -/
def gatewayJWTOptions : GatewayRouteJWTOptions Bytes IdentityPolicy.CacheValue where
  expected := { sampleRoute with issuer := lit "m", requireAgentHolderOfKeyProof := false }
  expectedGrantHash := lit "g"
  expectedGatewaySessionBindingSHA256 := lit "b"
  route := { replayCache := some IdentityPolicy.CacheValue.cache }
  assertion := sampleOptionsAt (lit "m") (lit "m1") [1] 10

/-- The same options for CWTs. -/
def gatewayCWTOptions : GatewayRouteCWTOptions Bytes IdentityPolicy.CacheValue where
  toGatewayRoutePolicy := gatewayJWTOptions.toGatewayRoutePolicy
  assertion := sampleCWTOptions gatewayJWTOptions.assertion

/-- A replay cache that has seen nothing. -/
def freshCache : IdentityPolicy.CacheValue := .memory (some (.new (Time.unix 10)))

theorem gatewayToken_runs :
    ∀ s ∈ gatewaySamples,
      parseJWT sampleLibrary (gatewayRouteAssertionClaims sampleLibrary) (gatewayToken s.2.1)
        gatewayJWTOptions.assertion sampleClock = .ok (gatewayClaims s.1, lit "m1") := by
  unfold gatewayToken
  simp only [litPieces_cons]
  repeat rw [lit_ofList]
  decide +kernel

theorem gatewaySamples_standard :
    ∀ s ∈ gatewaySamples, SameStandard (gatewayClaims s.1).toRegisteredClaims
      (gatewayMap s.2.2.2) := by
  intro s h
  exact {
    issuer := by revert s; decide
    audience := by revert s; decide
    expiresAt := by revert s; decide
    notBefore := by revert s; decide
    issuedAt := by revert s; decide
    id := by revert s; decide }

theorem gatewaySamples_texts :
    ∀ s ∈ gatewaySamples, ∀ claim ∈ routeTexts,
      TextNamed (gatewayMap s.2.2.2) claim.1 (claim.2 (gatewayClaims s.1).route) := by
  decide +kernel

/-- The JWT of the sample with the audience. -/
def gatewayJWT (audience : List GoString) : GoString :=
  gatewayToken (((gatewaySamples.lookup audience).map fun s => s.1).getD "")

def gatewayCWT (audience : List GoString) : Bytes :=
  ((gatewaySamples.lookup audience).map fun s => s.2.1).getD []

def gatewayMaps (audience : List GoString) : ClaimMap :=
  gatewayMap (((gatewaySamples.lookup audience).map fun s => s.2.2).getD (.str []))

/-- A sample is found by its audience and by its bytes. -/
theorem gatewaySamples_found : ∀ s ∈ gatewaySamples, gatewaySamples.lookup s.1 = some s.2 ∧
      gatewaySamples.find? (fun other => other.2.2.1 == s.2.2.1) = some s := by
  intro s h
  simp only [gatewaySamples, List.mem_cons, List.not_mem_nil, or_false] at h
  obtain rfl | rfl | rfl := h <;> exact ⟨rfl, rfl⟩

/-- Samples that have the audience in the form, in every order. -/
theorem encodedInEveryOrder_of_samples {form : AudienceForm} {audience : List GoString}
    (h : ∀ l, l.Perm audience → ∃ s ∈ gatewaySamples, s.1 = l ∧
      GivenAs form (cwtClaimValue (gatewayMap s.2.2.2) cwtClaimAudience) l) :
    EncodedInEveryOrder sampleLibrary gatewayCose gatewayJWTOptions.assertion
      gatewayCWTOptions.assertion form (gatewayClaims audience) gatewayJWT gatewayCWT
      gatewayMaps := by
  have htok : ∀ s ∈ gatewaySamples,
      SameToken sampleLibrary gatewayCose (gatewayRouteAssertionClaims sampleLibrary)
        (gatewayJWT s.1) (gatewayCWT s.1) gatewayJWTOptions.assertion gatewayCWTOptions.assertion
        (gatewayClaims s.1) (gatewayMaps s.1) := by
    intro s hs
    simp only [gatewayJWT, gatewayCWT, gatewayMaps, (gatewaySamples_found s hs).1]
    refine sameToken_of_run 10 (gatewayToken_runs s hs) (by decide) (by decide) rfl ?_
    show (match gatewaySamples.find? fun other => other.2.2.1 == s.2.2.1 with
      | some s => Except.ok (gatewayMap s.2.2.2)
      | none => _) = _
    rw [(gatewaySamples_found s hs).2]
    rfl
  have hver : ∀ s ∈ gatewaySamples, ∃ keyID,
      JWTVerified sampleLibrary gatewayJWTOptions.assertion (gatewayJWT s.1) keyID := by
    intro s hs
    simp only [gatewayJWT, (gatewaySamples_found s hs).1]
    exact ⟨_, ((parseJWT_ok_iff sampleLibrary_lawful reference_complete).mp
      (gatewayToken_runs s hs)).1⟩
  constructor
  · intro l hl
    obtain ⟨s, hs, rfl, -⟩ := h l hl
    exact htok s hs
  · intro l hl
    obtain ⟨s, hs, rfl, hgiv⟩ := h l hl
    simp only [gatewayMaps, (gatewaySamples_found s hs).1]
    exact ⟨gatewaySamples_standard s hs, hgiv, .uint64 1 (by decide), gatewaySamples_texts s hs⟩
  · intro l hl
    obtain ⟨s, hs, rfl, -⟩ := h l hl
    obtain ⟨s', hs', heq, -⟩ := h audience (List.Perm.refl audience)
    have hoth := hver s' hs'
    rw [heq] at hoth
    exact iff_of_true (hver s hs) hoth

theorem textSample_encoded :
    EncodedInEveryOrder sampleLibrary gatewayCose gatewayJWTOptions.assertion
      gatewayCWTOptions.assertion .text (gatewayClaims [lit "v"]) gatewayJWT gatewayCWT
      gatewayMaps := by
  refine encodedInEveryOrder_of_samples fun l hl => ?_
  obtain rfl := List.perm_singleton.mp hl
  exact ⟨_, List.mem_cons_self, rfl, .text (lit "v")⟩

theorem listSample_encoded :
    EncodedInEveryOrder sampleLibrary gatewayCose gatewayJWTOptions.assertion
      gatewayCWTOptions.assertion .list (gatewayClaims [lit "v", lit "x"]) gatewayJWT gatewayCWT
      gatewayMaps := by
  refine encodedInEveryOrder_of_samples fun l hl => ?_
  have horders : l = [lit "v", lit "x"] ∨ l = [lit "x", lit "v"] := by
    match l, hl.length_eq with
    | [p, q], _ =>
      have hp : p ∈ [lit "v", lit "x"] := hl.subset (by simp)
      have hq : q ∈ [lit "v", lit "x"] := hl.subset (by simp)
      have hne : p ≠ q := by
        have hnodup := hl.nodup_iff.mpr (by decide)
        simpa using hnodup
      simp only [List.mem_cons, List.not_mem_nil, or_false] at hp hq
      obtain rfl | rfl := hp <;> obtain rfl | rfl := hq <;> simp at hne ⊢
  obtain rfl | rfl := horders
  · exact ⟨_, .tail _ (.head _), rfl, .list (.strs _)⟩
  · exact ⟨_, .tail _ (.tail _ (.head _)), rfl, .list (.strs _)⟩

/-- The verdicts on the samples, from the parsed tokens. -/
theorem verifyGatewayRouteJWT_sample {s : List GoString × String × Bytes × Value}
    (hs : s ∈ gatewaySamples) :
    (verifyGatewayRouteJWT sampleLibrary (gatewayJWT s.1) gatewayJWTOptions sampleClock sampleClock
      freshCache).1 =
    (acceptGatewayRoute gatewayJWTOptions.toGatewayRoutePolicy gatewayJWTOptions.assertion.now
      sampleClock (do
        validateGatewayRouteCore (gatewayRouteAssertionFromJWTClaims (gatewayClaims s.1))
        return gatewayRouteAssertionFromJWTClaims (gatewayClaims s.1)) freshCache).1 := by
  simp only [verifyGatewayRouteJWT, verifyGatewayRouteAssertionJWT, gatewayJWT,
    (gatewaySamples_found s hs).1, Option.map_some, Option.getD_some, gatewayToken_runs s hs,
    Lib.ok_bind]

/-- The claim set with the audience `v` in a text, at second 10: the verifiers agree, and
accept it. -/
theorem gateway_encodings_agree_sample :
    (verifyGatewayRouteJWT sampleLibrary (gatewayJWT [lit "v"]) gatewayJWTOptions sampleClock
        sampleClock freshCache).1 =
          .ok (gatewayRouteAssertionFromJWTClaims (gatewayClaims [lit "v"])) ∧
      Lib.Agree Eq
        (verifyGatewayRouteJWT sampleLibrary (gatewayJWT [lit "v"]) gatewayJWTOptions sampleClock
          sampleClock freshCache).1
        (verifyGatewayRouteCWT gatewayCose (gatewayCWT [lit "v"]) gatewayCWTOptions sampleClock
          sampleClock freshCache).1 := by
  constructor
  · rw [verifyGatewayRouteJWT_sample (.head _)]
    decide +kernel
  · have hagr := (gateway_encodings_agree_iff sampleLibrary_lawful reference_complete
      textSample_encoded rfl sampleClock sampleClock freshCache).mpr fun _ _ => ?_
    · exact (hagr _ (List.Perm.refl _)).1
    · refine ⟨fun hjwt => ?_, fun hcwt => ?_⟩
      · exact hjwt.refused.elim (by decide) fun hne => hne (by decide)
      · obtain hnow | ⟨t, ht, -⟩ | hne := hcwt.refused
        · exact absurd hnow (by decide)
        · cases ht
        · exact hne rfl

/-- The claim set with the audiences `v` and `x` in a list: as a JWT with `v` first it is
accepted, with `x` first it is not, and as a CWT it has no audience. -/
theorem gateway_encodings_differ :
    EncodedInEveryOrder sampleLibrary gatewayCose gatewayJWTOptions.assertion
        gatewayCWTOptions.assertion .list (gatewayClaims [lit "v", lit "x"]) gatewayJWT gatewayCWT
        gatewayMaps ∧
      gatewayCWTOptions.toGatewayRoutePolicy = gatewayJWTOptions.toGatewayRoutePolicy ∧
      (verifyGatewayRouteJWT sampleLibrary (gatewayJWT [lit "v", lit "x"]) gatewayJWTOptions
        sampleClock sampleClock freshCache).1 =
          .ok (gatewayRouteAssertionFromJWTClaims (gatewayClaims [lit "v", lit "x"])) ∧
      (verifyGatewayRouteJWT sampleLibrary (gatewayJWT [lit "x", lit "v"]) gatewayJWTOptions
        sampleClock sampleClock freshCache).1 = .error (.route (.joined [⟨"aud", .mismatch⟩])) ∧
      (verifyGatewayRouteCWT gatewayCose (gatewayCWT [lit "v", lit "x"]) gatewayCWTOptions
        sampleClock sampleClock freshCache).1 =
          .error (.route (.joined [⟨"aud", .missingObserved⟩, ⟨"aud", .missingObserved⟩])) := by
  refine ⟨listSample_encoded, rfl, ?_, ?_, ?_⟩
  · rw [verifyGatewayRouteJWT_sample (.tail _ (.head _))]
    decide +kernel
  · rw [verifyGatewayRouteJWT_sample (.tail _ (.tail _ (.head _)))]
    decide +kernel
  · decide +kernel

end SecureBinding.Agtp
