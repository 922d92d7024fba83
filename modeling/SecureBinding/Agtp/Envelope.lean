import SecureBinding.Agtp.FrontEnds

/-!
# Agtp.Envelope

The two transports of a session identity in `pkg/agtp`: a grant and a session-binding
statement in two tokens, or one envelope that carries the grant next to the fields of the
binding.

`Presents` relates an envelope and a statement that present one session binding. The two
verifiers come to one verdict on them (`verdicts_agree`), although the envelope's verifier
rebuilds the statement from claims of its own, has one more check, and turns to the grant
last. They record the same use in the replay cache, so what is presented by one transport can
not be presented again by the other, as far as the cache keeps its record.
-/

namespace SecureBinding.Agtp

open Go Go.Json IdentityPolicy JWT
open Token (SessionIdentityResult VerifyError isListed thenRecord)

variable {Key σ : Type}

/-! ### One session binding in two forms -/

/-- The claims of an envelope are those of a statement, with the grant and the envelope's own
profile markers. -/
structure EnvelopeOf (grantToken : GoString) (envelope statement : Claims) : Prop where
  claims : envelope =
    { statement with
      identityGrantJWT := grantToken
      profileType := envelope.profileType
      profileVersion := envelope.profileVersion
      legacyType := envelope.legacyType
      legacyVersion := envelope.legacyVersion }
  envelopeProfile : validateProfileClaims envelope tokenTypeSessionEnvelope = .ok ()
  statementProfile : validateProfileClaims statement tokenTypeSessionBinding = .ok ()

/-- The tokens present one session binding: an envelope with the grant in it, and a statement
to go with the grant, signed under the same key id. -/
structure Presents (lib : Library Key) (validMethods : List GoString)
    (grantToken envelopeToken bindingToken : GoString) (ec bc : Claims) : Prop where
  envelopeClaims : payloadClaims (sessionEnvelopeClaims lib) envelopeToken = some ec
  bindingClaims : payloadClaims (sessionBindingClaims lib) bindingToken = some bc
  same : EnvelopeOf grantToken ec bc
  signatures : ∀ keyID key, JWTSignedBy lib validMethods envelopeToken keyID key ↔
    JWTSignedBy lib validMethods bindingToken keyID key

section Verdicts

variable {sha256 : Bytes → Bytes} {lib : Library Key}
  {grantToken envelopeToken bindingToken : GoString} {ec bc : Claims} {sysNow : SysTime}

theorem isBlank_of_verified {opts : VerifyOptions Key} {tokenString keyID : GoString}
    (h : JWTVerified lib opts tokenString keyID) : isBlank tokenString = false := by
  obtain ⟨-, -, -, -, parts, hpts, -⟩ := h.signed
  have hdot : (0x2e : UInt8) ∈ tokenString := by
    by_contra hno
    have hspl := hpts.split
    rw [split_of_notMem hno] at hspl
    simp at hspl
  exact isBlank_of_mem ⟨by decide, by decide⟩ hdot

/-- The envelope and the statement are verified alike. -/
theorem Presents.verified_iff {opts : VerifyOptions Key}
    (h : Presents lib opts.validMethods grantToken envelopeToken bindingToken ec bc)
    {keyID : GoString} :
    JWTVerified lib opts envelopeToken keyID ↔ JWTVerified lib opts bindingToken keyID := by
  constructor
  · intro hv
    obtain ⟨keyFunc, key, hrsv, hkey, hsig⟩ := hv.signed
    exact ⟨hv.keySource, hv.methods, hv.issuer, hv.audience, keyFunc, key, hrsv, hkey,
      (h.signatures keyID key).mp hsig⟩
  · intro hv
    obtain ⟨keyFunc, key, hrsv, hkey, hsig⟩ := hv.signed
    exact ⟨hv.keySource, hv.methods, hv.issuer, hv.audience, keyFunc, key, hrsv, hkey,
      (h.signatures keyID key).mpr hsig⟩

/-- The claims that both verifiers read are the same. -/
theorem EnvelopeOf.fields (h : EnvelopeOf grantToken ec bc) :
    ec.toRegisteredClaims = bc.toRegisteredClaims ∧ ec.identityGrantJWT = grantToken ∧
      validateSessionBindingClaims ec = validateSessionBindingClaims bc := by
  rw [h.claims]
  exact ⟨rfl, rfl, rfl⟩

theorem EnvelopeOf.statementOf_eq (h : EnvelopeOf grantToken ec bc) (opts : VerifyOptions Key)
    (keyID : GoString) : statementOf opts ec keyID = statementOf opts bc keyID := by
  rw [h.claims]
  rfl

/-- An envelope opens into a grant and a statement exactly if the two tokens verify into
them. -/
theorem openEnvelope_ok_iff (hlib : Lawful lib) (hcom : Complete lib)
    {grantOpts bindingOpts : VerifyOptions Key}
    (h : Presents lib bindingOpts.validMethods grantToken envelopeToken bindingToken ec bc)
    {grant : VerifiedGrant} {statement : VerifiedSessionBindingStatement} :
    openEnvelope sha256 lib envelopeToken grantOpts bindingOpts sysNow = .ok (grant, statement) ↔
      verifyIdentityGrantJWT sha256 lib grantToken grantOpts sysNow = .ok grant ∧
        verifySessionBindingJWT lib bindingToken bindingOpts sysNow = .ok statement := by
  obtain ⟨hreg, hgrantJWT, hfld⟩ := h.same.fields
  have hstm := h.same.statementOf_eq bindingOpts
  have hid : ec.id = bc.id := congrArg RegisteredClaims.id hreg
  simp only [openEnvelope, Lib.bind_ok_iff, Prod.exists, Lib.pure_ok_iff, Prod.mk.injEq,
    Token.require_ok_iff, exists_const, parseJWT_ok_iff hlib hcom,
    verifySessionBindingJWT_iff_passes hlib hcom]
  constructor
  · intro hopen
    obtain ⟨c, keyID, ⟨hver, hc, hval, hrev⟩, _, -, hcid, -, _, hcfields, grant', hgr,
      rfl, rfl⟩ := hopen
    -- The claims that are parsed are those of the envelope, and they are those of the statement.
    obtain rfl : ec = c := Option.some.inj (h.envelopeClaims.symm.trans hc)
    rw [hgrantJWT] at hgr
    rw [hreg] at hval
    rw [hid] at hcid hrev
    rw [hfld] at hcfields
    exact ⟨hgr, bc, keyID, ⟨h.verified_iff.mp hver, h.bindingClaims, hval, hrev,
      h.same.statementProfile, by simpa using hcid, hcfields⟩, hstm _⟩
  · intro htokens
    obtain ⟨hgr, c, keyID, hpass, rfl⟩ := htokens
    obtain rfl : bc = c := Option.some.inj (h.bindingClaims.symm.trans hpass.claims)
    have hchk := hpass.checks
    obtain ⟨_, _, hgpass, -⟩ := (verifyIdentityGrantJWT_iff_passes hlib hcom grant).mp hgr
    refine ⟨ec, keyID, ⟨h.verified_iff.mpr hpass.verified, h.envelopeClaims, ?_, ?_⟩, (),
      h.same.envelopeProfile, ?_, ?_, (), ?_, grant, ?_, rfl, hstm _⟩
    · rw [hreg]
      exact hpass.registered
    · rw [hid]
      exact hchk.notRevoked
    · rw [hid, hchk.id]
      rfl
    · -- The envelope's own check: the grant that is verified below is not blank.
      rw [hgrantJWT, isBlank_of_verified hgpass.verified]
      rfl
    · rw [hfld]
      exact hchk.fields
    · rw [hgrantJWT]
      exact hgr

theorem verdicts_agree (hlib : Lawful lib) (hcom : Complete lib)
    {opts : SessionIdentityJWTOptions Key σ}
    (h : Presents lib opts.sessionBinding.validMethods grantToken envelopeToken bindingToken ec bc)
    {r : SessionIdentityResult} :
    judgeSessionIdentityJWTEnvelope sha256 lib envelopeToken opts sysNow = .ok r ↔
      judgeSessionIdentityJWT sha256 lib grantToken bindingToken opts sysNow = .ok r := by
  have hnow : Presents lib
      { opts.sessionBinding with now := opts.time sysNow : VerifyOptions Key }.validMethods grantToken
      envelopeToken bindingToken ec bc := h
  unfold judgeSessionIdentityJWT
  rw [judgeSessionIdentityJWTEnvelope_ok_iff, Token.judge_ok_iff,
    openEnvelope_ok_iff hlib hcom hnow, and_assoc]

end Verdicts

/-! ### Presentations -/

/-- How a session identity is presented. -/
inductive Transport
  | envelope
  | twoTokens
  deriving DecidableEq

section Presentations

variable (sha256 : Bytes → Bytes) (lib : Library Key)
  (grantToken envelopeToken bindingToken : GoString) (opts : SessionIdentityJWTOptions Key σ)
  (sysNow : SysTime)

/-- The verdict on a presentation before the replay cache. -/
def verdictOn : Transport → Except VerifyError SessionIdentityResult
  | .envelope => judgeSessionIdentityJWTEnvelope sha256 lib envelopeToken opts sysNow
  | .twoTokens => judgeSessionIdentityJWT sha256 lib grantToken bindingToken opts sysNow

/-- `VerifySessionIdentityJWTEnvelope` of the envelope, or `VerifySessionIdentityJWT` of the
two tokens. -/
def present (w : σ) : Transport → Except VerifyError SessionIdentityResult × σ
  | .envelope => verifySessionIdentityJWTEnvelope sha256 lib envelopeToken opts sysNow w
  | .twoTokens => verifySessionIdentityJWT sha256 lib grantToken bindingToken opts sysNow w

/-- The transports accept alike, with the same result, and leave the same replay state. -/
structure Equivalent (w : σ) : Prop where
  accepts : ∀ r w',
    present sha256 lib grantToken envelopeToken bindingToken opts sysNow w .envelope = (.ok r, w') ↔
      present sha256 lib grantToken envelopeToken bindingToken opts sysNow w .twoTokens =
        (.ok r, w')
  state : (present sha256 lib grantToken envelopeToken bindingToken opts sysNow w .envelope).2 =
    (present sha256 lib grantToken envelopeToken bindingToken opts sysNow w .twoTokens).2

end Presentations

section OneCache

variable {sha256 : Bytes → Bytes} {lib : Library Key}
  {grantToken envelopeToken bindingToken : GoString} {ec bc : Claims} {sysNow : SysTime}

theorem present_eq {opts : SessionIdentityJWTOptions Key σ} {w : σ} (transport : Transport) :
    present sha256 lib grantToken envelopeToken bindingToken opts sysNow w transport =
      thenRecord opts.replayCache (verdictOn sha256 lib grantToken envelopeToken bindingToken opts
        sysNow transport) w := by
  cases transport with
  | envelope => exact verifySessionIdentityJWTEnvelope_eq
  | twoTokens => exact verifySessionIdentityJWT_eq

theorem verdictOn_ok_iff (hlib : Lawful lib) (hcom : Complete lib)
    {opts : SessionIdentityJWTOptions Key σ}
    (h : Presents lib opts.sessionBinding.validMethods grantToken envelopeToken bindingToken ec bc)
    {r : SessionIdentityResult} (transport : Transport) :
    verdictOn sha256 lib grantToken envelopeToken bindingToken opts sysNow transport = .ok r ↔
      judgeSessionIdentityJWT sha256 lib grantToken bindingToken opts sysNow = .ok r := by
  cases transport with
  | envelope => exact verdicts_agree hlib hcom h
  | twoTokens => exact Iff.rfl

theorem equivalent (hlib : Lawful lib) (hcom : Complete lib)
    {opts : SessionIdentityJWTOptions Key σ}
    (h : Presents lib opts.sessionBinding.validMethods grantToken envelopeToken bindingToken ec bc)
    (w : σ) : Equivalent sha256 lib grantToken envelopeToken bindingToken opts sysNow w := by
  have hvd : ∀ r, verdictOn sha256 lib grantToken envelopeToken bindingToken opts sysNow
      .envelope = .ok r ↔ _ := fun r => verdictOn_ok_iff hlib hcom h .envelope
  constructor
  · intro r w'
    rw [present_eq, present_eq, Token.thenRecord_ok_iff, Token.thenRecord_ok_iff, hvd]
    exact Iff.rfl
  · rw [present_eq, present_eq]
    show (thenRecord _ (verdictOn _ _ _ _ _ _ _ .envelope) _).2 =
      (thenRecord _ (judgeSessionIdentityJWT _ _ _ _ _ _) _).2
    -- Two verdicts that admit alike are the same, or both errors, which leave the state alone.
    cases henv : verdictOn sha256 lib grantToken envelopeToken bindingToken opts sysNow .envelope with
    | ok r => rw [(hvd r).mp henv]
    | error e =>
      cases hpair : judgeSessionIdentityJWT sha256 lib grantToken bindingToken opts sysNow with
      | error e' => rfl
      | ok r =>
        rw [(hvd r).mpr hpair] at henv
        cases henv

/-- The statement of an admitted presentation is that of its tokens, at any time. -/
theorem statement_of_judge (hlib : Lawful lib) (hcom : Complete lib)
    {opts : SessionIdentityJWTOptions Key σ}
    (h : Presents lib opts.sessionBinding.validMethods grantToken envelopeToken bindingToken ec bc)
    {r : SessionIdentityResult}
    (hju : judgeSessionIdentityJWT sha256 lib grantToken bindingToken opts sysNow = .ok r) :
    opts.replayCache.isSome = true ∧ bc.expiresAt = some r.statement.binding.expiresAt ∧
      ∃ keyID, headerKeyID bindingToken = some keyID ∧
        r.statement = statementOf opts.sessionBinding bc keyID := by
  obtain ⟨-, hsome, -, hbin, -⟩ := Token.judge_ok_iff.mp hju
  obtain ⟨c, keyID, hpass, hr⟩ := (verifySessionBindingJWT_iff_passes hlib hcom r.statement).mp hbin
  obtain rfl : bc = c := Option.some.inj (h.bindingClaims.symm.trans hpass.claims)
  obtain ⟨e, he, -⟩ := hpass.registered.notExpired
  have hexp : r.statement.binding.expiresAt = e := by
    rw [hr]
    simp [statementOf, bindingOf, claimTime, he]
  exact ⟨hsome, by rw [he, hexp], keyID, hpass.verified.headerKeyID_eq, hr⟩

/-- An admitted presentation is recorded. The other one, and itself, are then turned down at
every later time exactly if the cache was durable. -/
theorem presented_once_iff (hlib : Lawful lib) (hcom : Complete lib)
    {opts : SessionIdentityJWTOptions Key CacheValue}
    (h : Presents lib opts.sessionBinding.validMethods grantToken envelopeToken bindingToken ec bc)
    (hca : opts.replayCache = some CacheValue.cache) {v v' : CacheValue}
    {r : SessionIdentityResult} {transport : Transport}
    (hac : present sha256 lib grantToken envelopeToken bindingToken opts sysNow v transport =
      (.ok r, v')) (again : Transport) :
    (∀ v'' sysNow', v'.Later v'' → sysNow.val ≤ sysNow'.val →
        ∃ e w, present sha256 lib grantToken envelopeToken bindingToken opts sysNow' v'' again =
          (.error e, w)) ↔
      v.Durable r.statement.binding.expiresAt := by
  rw [present_eq] at hac
  obtain ⟨hvd, hused⟩ := Token.thenRecord_ok_iff.mp hac
  have hju := (verdictOn_ok_iff hlib hcom h transport).mp hvd
  obtain ⟨-, -, keyID, hkey, hr⟩ := statement_of_judge hlib hcom h hju
  have hsame : ∀ sysNow' r', verdictOn sha256 lib grantToken envelopeToken bindingToken opts sysNow'
      again = .ok r' → r'.statement = r.statement := by
    intro sysNow' r' hvd'
    obtain ⟨-, -, keyID', hkey', hr'⟩ := statement_of_judge hlib hcom h
      ((verdictOn_ok_iff hlib hcom h again).mp hvd')
    obtain rfl : keyID = keyID' := Option.some.inj (hkey.symm.trans hkey')
    rw [hr, hr']
  have hagain := (verdictOn_ok_iff hlib hcom h again).mpr hju
  rw [hca] at hused
  simp only [present_eq, hca]
  exact Token.fails_later_iff hsame hagain hused

/-- **One session binding, two transports.** The transports are equivalent on every
presentation of a session binding, and an envelope and a two-token presentation are never
both accepted with one cache, exactly if the cache is durable for the expiry of the binding or
does not accept it in the first place. -/
theorem transports_equivalent_iff (hlib : Lawful lib) (hcomplete : Complete lib)
    {opts : SessionIdentityJWTOptions Key CacheValue}
    (hcache : ∀ cache, opts.replayCache = some cache → cache = CacheValue.cache)
    (h : Presents lib opts.sessionBinding.validMethods grantToken envelopeToken bindingToken ec bc)
    (v : CacheValue) :
    (Equivalent sha256 lib grantToken envelopeToken bindingToken opts sysNow v ∧
      ∀ first again r v', first ≠ again →
        present sha256 lib grantToken envelopeToken bindingToken opts sysNow v first = (.ok r, v') →
        ∀ v'' sysNow', v'.Later v'' → sysNow.val ≤ sysNow'.val →
          ∃ e w, present sha256 lib grantToken envelopeToken bindingToken opts sysNow' v'' again =
            (.error e, w)) ↔
      ∀ r v', present sha256 lib grantToken envelopeToken bindingToken opts sysNow v .twoTokens =
          (.ok r, v') →
        ∃ expiresAt, bc.expiresAt = some expiresAt ∧ v.Durable expiresAt := by
  have hequiv : Equivalent sha256 lib grantToken envelopeToken bindingToken opts sysNow v :=
    equivalent hlib hcomplete h v
  -- What is accepted was admitted, so there is a cache and the statement has its expiry.
  have hadmitted : ∀ {r v'}, present sha256 lib grantToken envelopeToken bindingToken opts sysNow v
      .twoTokens = (.ok r, v') →
      opts.replayCache = some CacheValue.cache ∧
        bc.expiresAt = some r.statement.binding.expiresAt := by
    intro r v' hac
    rw [present_eq] at hac
    obtain ⟨hsome, hexp, -⟩ := statement_of_judge hlib hcomplete h
      (Token.thenRecord_ok_iff.mp hac).1
    obtain ⟨cache, hc⟩ := Option.isSome_iff_exists.mp hsome
    rw [hcache cache hc] at hc
    exact ⟨hc, hexp⟩
  constructor
  · intro hprop r v' hac
    obtain ⟨hc, hexp⟩ := hadmitted hac
    refine ⟨_, hexp, (presented_once_iff hlib hcomplete h hc hac .envelope).mp ?_⟩
    exact hprop.2 .twoTokens .envelope r v' (by decide) hac
  · intro hdurable
    refine ⟨hequiv, fun first again r v' _ hac => ?_⟩
    have hpair : present sha256 lib grantToken envelopeToken bindingToken opts sysNow v .twoTokens =
        (.ok r, v') := by
      cases first with
      | envelope => exact (hequiv.accepts r v').mp hac
      | twoTokens => exact hac
    obtain ⟨hc, hexp⟩ := hadmitted hpair
    obtain ⟨expiresAt, he, hdur⟩ := hdurable r v' hpair
    obtain rfl : expiresAt = r.statement.binding.expiresAt := by
      rw [hexp] at he
      exact (Option.some.inj he).symm
    exact (presented_once_iff hlib hcomplete h hc hac again).mpr hdur

end OneCache

/-! ### Samples -/

/-- The statement `sampleStatement` as an envelope of `sampleGrant`. -/
def sampleEnvelope : GoString := litPieces
  ["eyJhbGciOiJ0Iiwia2lkIjoiYTEifQ.", "eyJpc3MiOiJhIiwiYXVkIjoidiIsImV4cCI6MTUs",
    "Imp0aSI6IjIiLCJwcm9maWxlX3R5cGUiOiJzYmFp", "cC5zZXNzaW9uLWVudmVsb3BlIiwicHJvZmlsZV92",
    "ZXJzaW9uIjoiMSIsImlkZW50aXR5X2dyYW50X2p3", "dCI6ImV5SmhiR2NpT2lKMElpd2lhMmxrSWpvaWJU",
    "RWlmUS5leUpwYzNNaU9pSnRJaXdpYzNWaUlqb2lZ", "U0lzSW1GMVpDSTZJbllpTENKbGVIQWlPakl3TENK",
    "cWRHa2lPaUl4SWl3aWNISnZabWxzWlY5MGVYQmxJ", "am9pYzJKaGFYQXVhV1JsYm5ScGRIa3RaM0poYm5R",
    "aUxDSndjbTltYVd4bFgzWmxjbk5wYjI0aU9pSXhJ", "aXdpWTI1bUlqcDdJbXRwWkNJNkltRXhJbjE5LkFR",
    "IiwiZ3JhbnRfaGFzaCI6InNoYTI1NjphYiIsImxl", "YWZfcHVibGljX2tleV9zaGEyNTYiOiJsIiwidGxz",
    "X2V4cG9ydGVyX3NoYTI1NiI6IngiLCJyZXF1ZXN0", "X2NvbnRleHRfc2hhMjU2IjoiYyIsIm5vbmNlIjoi",
    "biJ9.Ag"]

/-- The claims of `sampleStatement`. -/
def presentedClaims : Claims where
  issuer := lit "a"
  audience := [lit "v"]
  expiresAt := some (Time.unix 15)
  id := lit "2"
  profileType := tokenTypeSessionBinding
  profileVersion := profileVersion
  grantHash := lit "sha256:ab"
  leafKeySHA256 := lit "l"
  tlsExporter := lit "x"
  requestContext := lit "c"
  nonce := lit "n"

/-- The claims of `sampleEnvelope`. -/
def envelopedClaims : Claims :=
  { presentedClaims with
    profileType := tokenTypeSessionEnvelope
    identityGrantJWT := sampleGrant }

def presentedOptions : SessionIdentityJWTOptions Bytes CacheValue :=
  { Token.sampleSessionOptions CacheValue.cache with
    grant := sampleVerifyOptions (lit "m") (lit "m1") [1]
    sessionBinding := sampleVerifyOptions (lit "a") (lit "a1") [2] }

theorem sample_parses :
    parseJWT sampleLibrary (sessionEnvelopeClaims sampleLibrary) sampleEnvelope
        (sampleOptionsAt (lit "a") (lit "a1") [2] 10) sampleClock =
          .ok (envelopedClaims, lit "a1") ∧
      parseJWT sampleLibrary (sessionBindingClaims sampleLibrary) sampleStatement
        (sampleOptionsAt (lit "a") (lit "a1") [2] 10) sampleClock =
          .ok (presentedClaims, lit "a1") := by
  unfold envelopedClaims sampleEnvelope sampleStatement sampleGrant
  simp only [litPieces_cons]
  repeat rw [lit_ofList]
  decide +kernel

theorem sample_judged :
    (judgeSessionIdentityJWT (fun _ => [0xab]) sampleLibrary sampleGrant sampleStatement
      presentedOptions sampleClock).isOk = true := by
  unfold sampleStatement sampleGrant
  simp only [litPieces_cons]
  repeat rw [lit_ofList]
  decide +kernel

theorem sample_keyID : headerKeyID sampleStatement = some (lit "a1") := by
  obtain ⟨hver, -⟩ := (parseJWT_ok_iff sampleLibrary_lawful reference_complete).mp sample_parses.2
  exact hver.headerKeyID_eq

theorem sample_presents :
    Presents sampleLibrary presentedOptions.sessionBinding.validMethods sampleGrant sampleEnvelope
      sampleStatement envelopedClaims presentedClaims := by
  obtain ⟨henvelope, hstm⟩ := sample_parses
  have hkey : ((sampleOptionsAt (lit "a") (lit "a1") [2] 10).toKeySource.resolve id >>= fun f =>
      f (lit "a1")) = .ok [2] := by decide
  obtain ⟨hsig, hcl⟩ := jwtSignedBy_of_run henvelope hkey
  obtain ⟨hsig', hcl'⟩ := jwtSignedBy_of_run hstm hkey
  refine ⟨hcl, hcl', ⟨rfl, by decide, by decide⟩, fun keyID key => ?_⟩
  show JWTSignedBy sampleLibrary [lit "t"] sampleEnvelope keyID key ↔
    JWTSignedBy sampleLibrary [lit "t"] sampleStatement keyID key
  rw [jwtSignedBy_sampleLibrary_iff hsig, jwtSignedBy_sampleLibrary_iff hsig']

/-- An interface that holds a nil pointer records nothing: the envelope is accepted, and then
the two tokens are. -/
theorem nil_cache_accepts_both :
    ∃ r v, present (fun _ => [0xab]) sampleLibrary sampleGrant sampleEnvelope sampleStatement
        presentedOptions sampleClock (.memory none) .envelope = (.ok r, v) ∧
      present (fun _ => [0xab]) sampleLibrary sampleGrant sampleEnvelope sampleStatement
        presentedOptions sampleClock v .twoTokens = (.ok r, v) := by
  obtain ⟨r, hju⟩ := Lib.isOk_iff_exists.mp sample_judged
  have hused : markSessionBindingUsed (some CacheValue.cache) r.statement (.memory none) =
    (none, .memory none) := rfl
  have hac : ∀ transport, present (fun _ => [0xab]) sampleLibrary sampleGrant sampleEnvelope
      sampleStatement presentedOptions sampleClock (.memory none) transport =
        (.ok r, .memory none) := by
    intro transport
    rw [present_eq]
    exact Token.thenRecord_ok_iff.mpr ⟨(verdictOn_ok_iff sampleLibrary_lawful
      reference_complete sample_presents transport).mpr hju, hused⟩
  exact ⟨r, .memory none, hac .envelope, hac .twoTokens⟩

/-- With a new memory cache the samples are accepted once, by whichever transport. -/
theorem transports_equivalent_sample :
    Equivalent (fun _ => [0xab]) sampleLibrary sampleGrant sampleEnvelope sampleStatement
        presentedOptions sampleClock (.memory (some (.new (Time.unix 10)))) ∧
      ∃ r v, present (fun _ => [0xab]) sampleLibrary sampleGrant sampleEnvelope sampleStatement
          presentedOptions sampleClock (.memory (some (.new (Time.unix 10)))) .envelope =
            (.ok r, v) ∧
        ∀ v' sysNow', v.Later v' → sampleClock.val ≤ sysNow'.val →
          ∃ e w, present (fun _ => [0xab]) sampleLibrary sampleGrant sampleEnvelope sampleStatement
            presentedOptions sysNow' v' .twoTokens = (.error e, w) := by
  have hca : ∀ cache, presentedOptions.replayCache = some cache → cache = CacheValue.cache :=
    fun cache h => (Option.some.inj h).symm
  have hiff := @transports_equivalent_iff Bytes (fun _ => [0xab]) sampleLibrary sampleGrant
    sampleEnvelope sampleStatement envelopedClaims presentedClaims sampleClock sampleLibrary_lawful
    reference_complete presentedOptions hca sample_presents (.memory (some (.new (Time.unix 10))))
  obtain ⟨hequiv, hnever⟩ := hiff.mpr fun _ _ _ => ⟨Time.unix 15, rfl, .inl (by decide)⟩
  obtain ⟨r, hju⟩ := Lib.isOk_iff_exists.mp sample_judged
  obtain ⟨-, -, keyID, hkey, hr⟩ := statement_of_judge sampleLibrary_lawful reference_complete
    sample_presents hju
  obtain rfl : lit "a1" = keyID := Option.some.inj (sample_keyID.symm.trans hkey)
  have hfst : (markSessionBindingUsed (some CacheValue.cache)
      (statementOf presentedOptions.sessionBinding presentedClaims (lit "a1"))
      (.memory (some (.new (Time.unix 10))))).1 = none := by
    decide +kernel
  rcases hused : markSessionBindingUsed (some CacheValue.cache)
    (statementOf presentedOptions.sessionBinding presentedClaims (lit "a1"))
    (.memory (some (.new (Time.unix 10)))) with ⟨err, v⟩
  rw [hused] at hfst
  obtain rfl : err = none := hfst
  have hac : present (fun _ => [0xab]) sampleLibrary sampleGrant sampleEnvelope sampleStatement
      presentedOptions sampleClock (.memory (some (.new (Time.unix 10)))) .envelope = (.ok r, v) := by
    rw [present_eq]
    exact Token.thenRecord_ok_iff.mpr ⟨(verdictOn_ok_iff sampleLibrary_lawful
      reference_complete sample_presents .envelope).mpr hju, by rw [hr]; exact hused⟩
  exact ⟨hequiv, r, v, hac, hnever .envelope .twoTokens r v (by decide) hac⟩

end SecureBinding.Agtp
