import SecureBinding.Clients.IdentityJWT
import Mathlib.Logic.Relation

/-!
# Clients.IdentityJWTSound

What `VerifySessionIdentityJWT` of `pkg/clients` guarantees.

* `verifySessionIdentityJWT_sound`: an accepted pair of tokens is what it should be,
  end to end: the statement names the exact grant, its signer is authorised by the
  grant and is not its issuer, binding, lifetimes and policy hold, and the replay
  cache records the use.
* `verifySessionIdentityJWT_fails_later_iff`: an accepted pair is accepted once,
  provided that the cache commits (`CacheValue.Durable`).
* `failed_calls_consume_nothing`: failing calls leave no trace.
-/

namespace SecureBinding.Clients

open Go IdentityPolicy JWT Token

variable {Key σ : Type} {sha256 : Bytes → Bytes} {lib : Library Key}
  {tokenString grantToken bindingToken : GoString} {sysNow sysNow' : SysTime}

/-! ### The two tokens -/

section Tokens

variable {opts : VerifyOptions Key}

/-- A parse of `pkg/clients` establishes what `Parsed` says. -/
theorem parsed_of_parseBindingJWT (hlib : Lawful lib) {claims : Claims} {signerKey : GoString}
    (h : parseBindingJWT lib tokenString opts sysNow = .ok (claims, signerKey)) :
    ∃ ev, Parsed lib (bindingJWTClaims lib) trimSpace opts (opts.time sysNow) tokenString claims
      signerKey ev := by
  simp only [parseBindingJWT, Lib.bind_ok_iff, Lib.mapError_ok_iff] at h
  obtain ⟨_, hscan, parserOpts, hopts, keyFunc, hkeys, hpar⟩ := h
  exact parsed_of_parseVerified hlib hscan hopts hkeys hpar

theorem parsed_of_verifyIdentityGrantJWT (hlib : Lawful lib) {grant : VerifiedGrant}
    (h : verifyIdentityGrantJWT sha256 lib tokenString opts sysNow = .ok grant) :
    ∃ claims signerKey ev,
      Parsed lib (bindingJWTClaims lib) trimSpace opts (opts.time sysNow) tokenString claims
        signerKey ev ∧
      grant = grantOf sha256 tokenString opts claims signerKey := by
  simp only [verifyIdentityGrantJWT, Lib.bind_ok_iff, Prod.exists, Lib.pure_ok_iff] at h
  obtain ⟨claims, signerKey, hpar, -, -, -, -, -, -, -, -, rfl⟩ := h
  obtain ⟨ev, hev⟩ := parsed_of_parseBindingJWT hlib hpar
  exact ⟨claims, signerKey, ev, hev, rfl⟩

theorem parsed_of_verifySessionBindingJWT (hlib : Lawful lib)
    {statement : VerifiedSessionBindingStatement}
    (h : verifySessionBindingJWT lib tokenString opts sysNow = .ok statement) :
    ∃ claims signerKey ev,
      Parsed lib (bindingJWTClaims lib) trimSpace opts (opts.time sysNow) tokenString claims
        signerKey ev ∧
      statement = statementOf opts claims signerKey := by
  simp only [verifySessionBindingJWT, Lib.bind_ok_iff, Prod.exists, Lib.pure_ok_iff] at h
  obtain ⟨claims, signerKey, hpar, -, -, -, -, -, -, rfl⟩ := h
  obtain ⟨ev, hev⟩ := parsed_of_parseBindingJWT hlib hpar
  exact ⟨claims, signerKey, ev, hev, rfl⟩

/-- A key id that is not blank is not empty after trimming. -/
theorem signerKey_ne_nil {fields : Json.StructType Claims} {now : Time} {claims : Claims}
    {signerKey : GoString} {ev : Evidence Key}
    (h : Parsed lib fields trimSpace opts now tokenString claims signerKey ev) :
    signerKey ≠ [] := by
  rw [h.signer]
  exact isBlank_eq_false_iff.mp h.keyIDGiven

end Tokens

/-! ### Soundness of the direct verifier -/

variable {opts : SessionIdentityJWTOptions Key σ}

/-- The options of a token, at the time both tokens are verified at. -/
theorem time_with_now {o : VerifyOptions Key} :
    ({ o with now := opts.time sysNow } : VerifyOptions Key).time sysNow' = opts.time sysNow := by
  have := opts.time_ne_zero sysNow
  simp [VerifyOptions.time, this]

/-- What the tokens of an accepted pair say, and how they were verified. -/
structure Accepted (sha256 : Bytes → Bytes) (lib : Library Key) (grantToken bindingToken : GoString)
    (opts : SessionIdentityJWTOptions Key σ) (now : Time) (r : SessionIdentityResult)
    (grantClaims bindingClaims : Claims) (grantEv bindingEv : Evidence Key) : Prop where
  grantParsed : Parsed lib (bindingJWTClaims lib) trimSpace { opts.grant with now } now grantToken
    grantClaims r.grant.issuerKey grantEv
  bindingParsed : Parsed lib (bindingJWTClaims lib) trimSpace { opts.sessionBinding with now } now
    bindingToken bindingClaims r.statement.signerKey bindingEv
  grant : r.grant = grantOf sha256 grantToken opts.grant grantClaims r.grant.issuerKey
  statement : r.statement = statementOf opts.sessionBinding bindingClaims r.statement.signerKey
  admissible : Admissible opts.toSessionOptions now r

theorem accepted_of_judge (hlib : Lawful lib) {r : SessionIdentityResult}
    (h : judgeSessionIdentityJWT sha256 lib grantToken bindingToken opts sysNow = .ok r) :
    ∃ grantClaims bindingClaims grantEv bindingEv,
      Accepted sha256 lib grantToken bindingToken opts (opts.time sysNow) r grantClaims
        bindingClaims grantEv bindingEv := by
  obtain ⟨-, -, hgr, hbin, hadm⟩ := judge_ok_iff.mp h
  obtain ⟨gc, gk, gev, hg, hgr⟩ := parsed_of_verifyIdentityGrantJWT hlib hgr
  obtain ⟨bc, bk, bev, hb, hstm⟩ := parsed_of_verifySessionBindingJWT hlib hbin
  rw [time_with_now] at hg hb
  obtain rfl : gk = r.grant.issuerKey := by rw [hgr]; rfl
  obtain rfl : bk = r.statement.signerKey := by rw [hstm]; rfl
  exact ⟨gc, bc, gev, bev, hg, hb, hgr, hstm, hadm⟩

/-- Acceptance: the pair is admitted and its use recorded. -/
theorem verifySessionIdentityJWT_ok_iff {w w' : σ} {r : SessionIdentityResult} :
    verifySessionIdentityJWT sha256 lib grantToken bindingToken opts sysNow w = (.ok r, w') ↔
      judgeSessionIdentityJWT sha256 lib grantToken bindingToken opts sysNow = .ok r ∧
      markSessionBindingUsed opts.replayCache r.statement w = (none, w') := by
  rw [verifySessionIdentityJWT_eq, thenRecord_ok_iff]

/-- The guarantees of the direct verifier for an accepted pair of tokens, with the
memory cache before and after the call. -/
structure SessionGuarantees (sha256 : Bytes → Bytes) (lib : Library Key)
    (grantToken bindingToken : GoString) (opts : SessionIdentityJWTOptions Key σ) (now : Time)
    (before after : MemoryReplayCache) (r : SessionIdentityResult)
    (grantClaims bindingClaims : Claims) (grantEv bindingEv : Evidence Key) : Prop where
  /-- The statement names the exact bytes of the grant. -/
  grantHash : r.statement.grantHash = identityGrantHash sha256 grantToken
  /-- The grant token verified, under the key of its header's key id. -/
  grantVerified : Parsed lib (bindingJWTClaims lib) trimSpace { opts.grant with now } now
    grantToken grantClaims r.grant.issuerKey grantEv
  /-- The statement token verified, under the key of its header's key id. -/
  bindingVerified : Parsed lib (bindingJWTClaims lib) trimSpace { opts.sessionBinding with now }
    now bindingToken bindingClaims r.statement.signerKey bindingEv
  /-- The grant authorises the key id of the statement. -/
  signerAuthorized : r.statement.signerKey = grantClaims.confirmationKeyID ∨
    r.statement.signerKey = grantClaims.values.agentPublicKey ∨
    r.statement.signerKey ∈ grantClaims.endpointKeyIDs
  /-- The two key ids differ. -/
  signerSeparate : r.statement.signerKey ≠ r.grant.issuerKey
  /-- Some field of the binding is expected. -/
  bindingExpected : ∃ f ∈ bindingFields, isBlank (f.get opts.expectedBinding) = false
  /-- Every field that is expected is the statement's. -/
  bindingMatches : ∀ f ∈ bindingFields, isBlank (f.get opts.expectedBinding) = false →
    f.get (bindingOf bindingClaims) = f.get opts.expectedBinding
  /-- The grant is neither expired nor issued in the future. -/
  grantLive : now < claimTime grantClaims.expiresAt ∧ ∀ t, grantClaims.issuedAt = some t → t ≤ now
  /-- Nor is the statement. -/
  bindingLive : now < claimTime bindingClaims.expiresAt ∧
    ∀ t, bindingClaims.issuedAt = some t → t ≤ now
  /-- Every required layer is satisfied by the grant's values. -/
  policy : Satisfies opts.policy (grantValues grantClaims)
  /-- The replay key was absent, or had expired. -/
  unused : ∀ e, before.seen (replayKey r.statement) = some e →
    MemoryReplayCache.expired before.now e = true
  /-- It is present afterwards, with the expiry of the statement. -/
  recorded : after.seen (replayKey r.statement) = some (claimTime bindingClaims.expiresAt)
  /-- Issuer and values come from the grant, the binding from the statement. -/
  assertion : r.assertion = ⟨grantClaims.issuer, grantValues grantClaims, bindingOf bindingClaims⟩

/-- Parsed claims are live at the verification time. -/
theorem live_of_parsed {fields : Json.StructType Claims} {o : VerifyOptions Key} {now : Time}
    {claims : Claims} {signerKey : GoString} {ev : Evidence Key}
    (h : Parsed lib fields trimSpace o now tokenString claims signerKey ev) :
    now < claimTime claims.expiresAt ∧ ∀ t, claims.issuedAt = some t → t ≤ now := by
  obtain ⟨e, he, hlt⟩ := h.notExpired
  exact ⟨by simpa [claimTime, he] using hlt, h.notFuture⟩

/-- A successful `MarkUsed` through a memory cache that is not nil. -/
theorem markSessionBindingUsed_memory {statement : VerifiedSessionBindingStatement}
    {c : MemoryReplayCache} {w : CacheValue}
    (h : markSessionBindingUsed (some CacheValue.cache) statement (.memory (some c)) = (none, w)) :
    ∃ c', w = .memory (some c') ∧
      (∀ e, c.seen (replayKey statement) = some e → MemoryReplayCache.expired c.now e = true) ∧
      c'.seen (replayKey statement) = some statement.binding.expiresAt := by
  obtain ⟨c', hmark, rfl⟩ :=
    CacheValue.markUsed_memory_eq_none_iff.mp (markSessionBindingUsed_cache.mp h)
  obtain ⟨-, hunu, -⟩ := MemoryReplayCache.markUsed_eq_none_iff.mp hmark
  exact ⟨c', rfl, MemoryReplayCache.purge_eq_none_iff.mp hunu,
    MemoryReplayCache.seen_of_markUsed hmark⟩

/-- **Soundness of the direct verifier.** -/
theorem verifySessionIdentityJWT_sound (hlib : Lawful lib)
    {opts : SessionIdentityJWTOptions Key CacheValue} {c : MemoryReplayCache} {w : CacheValue}
    {r : SessionIdentityResult} (hcache : opts.replayCache = some CacheValue.cache)
    (h : verifySessionIdentityJWT sha256 lib grantToken bindingToken opts sysNow
      (.memory (some c)) = (.ok r, w)) :
    ∃ c' grantClaims bindingClaims grantEv bindingEv, w = .memory (some c') ∧
      SessionGuarantees sha256 lib grantToken bindingToken opts (opts.time sysNow) c c' r
        grantClaims bindingClaims grantEv bindingEv := by
  obtain ⟨hju, hused⟩ := verifySessionIdentityJWT_ok_iff.mp h
  obtain ⟨gc, bc, gev, bev, hacc⟩ := accepted_of_judge hlib hju
  rw [hcache] at hused
  obtain ⟨c', rfl, hunu, hrecorded⟩ := markSessionBindingUsed_memory hused
  obtain ⟨hgp, hbp, hg, hs, hadm⟩ := hacc
  have hauth := hadm.authorizes
  have hvls : r.grant.values = grantValues gc := by rw [hg]; rfl
  have hbin : r.statement.binding = bindingOf bc := by rw [hs]; rfl
  have hiss : r.grant.issuer = gc.issuer := by rw [hg]; rfl
  refine ⟨c', gc, bc, gev, bev, rfl,
    { grantHash := ?_, grantVerified := hgp, bindingVerified := hbp, signerAuthorized := ?_
      signerSeparate := hauth.signer.separate (signerKey_ne_nil hgp)
      bindingExpected := hadm.binding.some, bindingMatches := ?_
      grantLive := live_of_parsed hgp, bindingLive := live_of_parsed hbp
      policy := hvls ▸ hadm.policy, unused := hunu, recorded := ?_, assertion := ?_ }⟩
  · rw [← hauth.sameGrant, hg]
    rfl
  · have := hauth.signer.authorized
    rw [hg] at this
    exact this
  · intro f hf hgiv
    rw [← hbin]
    exact (hadm.binding.each f hf hgiv).2
  · rw [hrecorded, hbin]
    rfl
  · rw [hadm.assertion, hiss, hvls, hbin]

def sampleOptions : SessionIdentityJWTOptions Bytes CacheValue :=
  { sampleSessionOptions CacheValue.cache with
    grant := sampleVerifyOptions (lit "m") (lit "m1") [1]
    sessionBinding := sampleVerifyOptions (lit "a") (lit "a1") [2] }

def sampleResult : SessionIdentityResult :=
  let grant : VerifiedGrant :=
    { issuer := lit "m", issuerKey := lit "m1", audience := lit "v", grantHash := lit "sha256:ab"
      values := { agent := lit "a" }, confirmationKey := lit "a1", expiresAt := Time.unix 20 }
  let statement : VerifiedSessionBindingStatement :=
    { grantHash := lit "sha256:ab", audience := lit "v", signerKey := lit "a1"
      binding :=
        { leafPublicKeySHA256 := lit "l", tlsExporterSHA256 := lit "x"
          requestContextSHA256 := lit "c", nonce := lit "n", expiresAt := Time.unix 15 } }
  ⟨grant, statement, ⟨lit "m", { agent := lit "a" }, statement.binding⟩⟩

def sampleNow : SysTime := ⟨Time.unix 10, by decide⟩

theorem sample_judged :
    judgeSessionIdentityJWT (fun _ => [0xab]) sampleLibrary sampleGrant sampleStatement
      sampleOptions sampleNow = .ok sampleResult := by
  unfold sampleGrant sampleStatement
  simp only [litPieces_cons]
  repeat rw [lit_ofList]
  decide +kernel

theorem sample_accepted :
    ∃ v, verifySessionIdentityJWT (fun _ => [0xab]) sampleLibrary sampleGrant sampleStatement
      sampleOptions sampleNow (.memory (some (.new (Time.unix 10)))) = (.ok sampleResult, v) :=
  have hmark : markSessionBindingUsed (some CacheValue.cache) sampleResult.statement
      (.memory (some (.new (Time.unix 10)))) = (none, _) := rfl
  ⟨_, verifySessionIdentityJWT_ok_iff.mpr ⟨sample_judged, hmark⟩⟩

/-- The sample tokens are accepted by a new cache, and come with the guarantees. -/
theorem verifySessionIdentityJWT_sound_sample :
    ∃ r w, verifySessionIdentityJWT (fun _ => [0xab]) sampleLibrary sampleGrant sampleStatement
        sampleOptions sampleNow (.memory (some (.new (Time.unix 10)))) = (.ok r, w) ∧
      ∃ c' grantClaims bindingClaims grantEv bindingEv, w = .memory (some c') ∧
        SessionGuarantees (fun _ => [0xab]) sampleLibrary sampleGrant sampleStatement sampleOptions
          (sampleOptions.time sampleNow) (.new (Time.unix 10)) c' r grantClaims bindingClaims
          grantEv bindingEv := by
  obtain ⟨w, h⟩ := sample_accepted
  exact ⟨_, w, h, verifySessionIdentityJWT_sound sampleLibrary_lawful rfl h⟩

/-! ### One-shot use -/

section Replay

variable {now now' : Time} {r r' : SessionIdentityResult}
  {grantClaims bindingClaims grantClaims' bindingClaims' : Claims}
  {grantEv bindingEv grantEv' bindingEv' : Evidence Key}

theorem Accepted.statement_unique
    (h : Accepted sha256 lib grantToken bindingToken opts now r grantClaims bindingClaims
      grantEv bindingEv)
    (h' : Accepted sha256 lib grantToken bindingToken opts now' r' grantClaims' bindingClaims'
      grantEv' bindingEv') :
    r.statement = r'.statement := by
  obtain ⟨hcl, hsnr⟩ := h.bindingParsed.unique h'.bindingParsed
  rw [h.statement, h'.statement, hcl, hsnr]

/-- Its expiry is the one in the payload of its token. -/
theorem Accepted.expiresAt
    (h : Accepted sha256 lib grantToken bindingToken opts now r grantClaims bindingClaims
      grantEv bindingEv) :
    (payloadClaims (bindingJWTClaims lib) bindingToken).bind (fun c => c.expiresAt) =
      some r.statement.binding.expiresAt := by
  obtain ⟨e, he, -⟩ := h.bindingParsed.notExpired
  rw [h.bindingParsed.payloadClaims_eq, h.statement]
  simp [statementOf, bindingOf, claimTime, he]

/-- **One-shot acceptance.** After a pair of tokens has been accepted, later calls with
the same tokens, options and cache all fail exactly when the cache was durable for the
expiry of the statement. A nil pointer in the interface is never durable. -/
theorem verifySessionIdentityJWT_fails_later_iff (hlib : Lawful lib)
    {opts : SessionIdentityJWTOptions Key CacheValue} {v v' : CacheValue}
    (hcache : opts.replayCache = some CacheValue.cache)
    (h : verifySessionIdentityJWT sha256 lib grantToken bindingToken opts sysNow v = (.ok r, v')) :
    (∀ v'' sysNow', v'.Later v'' → sysNow.val ≤ sysNow'.val →
        ∃ e w, verifySessionIdentityJWT sha256 lib grantToken bindingToken opts sysNow' v'' =
          (.error e, w)) ↔
      ∃ expiresAt, (payloadClaims (bindingJWTClaims lib) bindingToken).bind (fun c => c.expiresAt) =
          some expiresAt ∧ v.Durable expiresAt := by
  obtain ⟨hju, hused⟩ := verifySessionIdentityJWT_ok_iff.mp h
  obtain ⟨gc, bc, gev, bev, hacc⟩ := accepted_of_judge hlib hju
  have hsame : ∀ sysNow' r', judgeSessionIdentityJWT sha256 lib grantToken bindingToken opts sysNow' =
      .ok r' → r'.statement = r.statement := by
    intro sysNow' r' hju'
    obtain ⟨gc', bc', gev', bev', hacc'⟩ := accepted_of_judge hlib hju'
    exact hacc'.statement_unique hacc
  rw [hcache] at hused
  simp only [verifySessionIdentityJWT_eq, hcache, Token.fails_later_iff hsame hju hused,
    hacc.expiresAt, Option.some.injEq, exists_eq_left']

end Replay

/-- An interface that holds a nil pointer passes the guard against a missing cache, and
the sample tokens are accepted again and again. -/
theorem nil_cache_accepts_twice :
    ∃ v, verifySessionIdentityJWT (fun _ => [0xab]) sampleLibrary sampleGrant sampleStatement
        sampleOptions sampleNow (.memory none) = (.ok sampleResult, v) ∧
      verifySessionIdentityJWT (fun _ => [0xab]) sampleLibrary sampleGrant sampleStatement
        sampleOptions sampleNow v = (.ok sampleResult, v) :=
  have h := verifySessionIdentityJWT_ok_iff.mpr
    ⟨sample_judged, (rfl : markSessionBindingUsed (some CacheValue.cache) _ (.memory none) =
      (none, .memory none))⟩
  ⟨_, h, h⟩

/-- With a new memory cache the sample tokens are accepted once. -/
theorem verifySessionIdentityJWT_fails_later_sample :
    ∃ v, verifySessionIdentityJWT (fun _ => [0xab]) sampleLibrary sampleGrant sampleStatement
        sampleOptions sampleNow (.memory (some (.new (Time.unix 10)))) = (.ok sampleResult, v) ∧
      ∀ v' sysNow', v.Later v' → sampleNow.val ≤ sysNow'.val →
        ∃ e w, verifySessionIdentityJWT (fun _ => [0xab]) sampleLibrary sampleGrant
          sampleStatement sampleOptions sysNow' v' = (.error e, w) := by
  obtain ⟨v, h⟩ := sample_accepted
  obtain ⟨gc, bc, gev, bev, hacc⟩ := accepted_of_judge sampleLibrary_lawful sample_judged
  have hdur : (CacheValue.memory (some (.new (Time.unix 10)))).Durable
      sampleResult.statement.binding.expiresAt := .inl (by decide)
  exact ⟨v, h, (verifySessionIdentityJWT_fails_later_iff sampleLibrary_lawful rfl h).mpr
    ⟨_, hacc.expiresAt, hdur⟩⟩

/-! ### Failed attempts -/

section Failures

variable {opts : SessionIdentityJWTOptions Key CacheValue} {c c' : MemoryReplayCache}
  {w : CacheValue} {e : VerifyError}

theorem markSessionBindingUsed_memory_error {statement : VerifiedSessionBindingStatement}
    {err : Error}
    (h : markSessionBindingUsed (some CacheValue.cache) statement (.memory (some c)) =
      (some err, w)) :
    ∃ err', (c.markUsed (replayKey statement) statement.binding.expiresAt).1 = some err' ∧
      w = .memory (some (c.markUsed (replayKey statement) statement.binding.expiresAt).2) := by
  simp only [markSessionBindingUsed_some, Prod.mk.injEq, Option.map_eq_some_iff] at h
  obtain ⟨⟨err', hfst, -⟩, rfl⟩ := h
  exact ⟨err', hfst, rfl⟩

/-- A failing call leaves the cache as it is, or makes one failing `MarkUsed`. -/
theorem eq_or_markUsed_of_error (hca : opts.replayCache = some CacheValue.cache)
    (h : verifySessionIdentityJWT sha256 lib grantToken bindingToken opts sysNow
      (.memory (some c)) = (.error e, w)) :
    w = .memory (some c) ∨ ∃ key expiresAt err, (c.markUsed key expiresAt).1 = some err ∧
      w = .memory (some (c.markUsed key expiresAt).2) := by
  rw [verifySessionIdentityJWT_eq] at h
  rcases thenRecord_eq_error h with rfl | ⟨r, err, -, hmark⟩
  · exact .inl rfl
  · rw [hca] at hmark
    obtain ⟨err', hfst, rfl⟩ := markSessionBindingUsed_memory_error hmark
    exact .inr ⟨_, _, err', hfst, rfl⟩

/-- What may happen before a call: the clock of the cache moves on, or another call
fails, whatever its tokens and options. -/
inductive FailStep (sha256 : Bytes → Bytes) (lib : Library Key) :
    MemoryReplayCache → MemoryReplayCache → Prop
  | tick {c : MemoryReplayCache} {now : Time} (h : c.now ≤ now) : FailStep sha256 lib c { c with now }
  | call {c c' : MemoryReplayCache} {grantToken bindingToken : GoString}
      {opts : SessionIdentityJWTOptions Key CacheValue} {sysNow : SysTime} {e : VerifyError}
      (hcache : opts.replayCache = some CacheValue.cache)
      (h : verifySessionIdentityJWT sha256 lib grantToken bindingToken opts sysNow
        (.memory (some c)) = (.error e, .memory (some c'))) : FailStep sha256 lib c c'

theorem FailStep.seen_eq_none {key : GoString} (h : FailStep sha256 lib c c')
    (hkey : c.seen key = none) : c'.seen key = none := by
  cases h with
  | tick => exact hkey
  | call hca h =>
    rcases eq_or_markUsed_of_error hca h with heq | ⟨k, t, err, herr, heq⟩
    · obtain rfl : c' = c := by simpa using heq
      exact hkey
    · obtain rfl : c' = (c.markUsed k t).2 := by simpa using heq
      exact MemoryReplayCache.seen_markUsed_of_error herr hkey

theorem seen_eq_none_of_failSteps {key : GoString}
    (h : Relation.ReflTransGen (FailStep sha256 lib) c c') (hkey : c.seen key = none) :
    c'.seen key = none := by
  induction h with
  | refl => exact hkey
  | tail _ hstep ih => exact hstep.seen_eq_none ih

/-- Two caches with the same clock, neither of which has the key, give the same
verdict. -/
theorem markSessionBindingUsed_fst_congr {statement : VerifiedSessionBindingStatement}
    (hnow : c.now = c'.now) (hc : c.seen (replayKey statement) = none)
    (hc' : c'.seen (replayKey statement) = none) :
    (markSessionBindingUsed (some CacheValue.cache) statement (.memory (some c))).1 =
      (markSessionBindingUsed (some CacheValue.cache) statement (.memory (some c'))).1 := by
  have hsame : ∀ e, c.Unexpired (replayKey statement) e ↔ c'.Unexpired (replayKey statement) e :=
    fun e => by simp [MemoryReplayCache.Unexpired, hc, hc']
  simp only [markSessionBindingUsed_some, CacheValue.cache, CacheValue.markUsed]
  rw [MemoryReplayCache.markUsed_fst_congr hnow hsame]

/-- **Failed attempts consume nothing.** A failing call changes no unexpired key, and
after any sequence of failing calls a pair whose key is unused gets the verdict it
would have got without them, at the same clock value. -/
theorem failed_calls_consume_nothing :
    (∀ grantToken bindingToken (opts : SessionIdentityJWTOptions Key CacheValue) sysNow e w,
      opts.replayCache = some CacheValue.cache →
      verifySessionIdentityJWT sha256 lib grantToken bindingToken opts sysNow
        (.memory (some c)) = (.error e, w) →
      ∃ c', w = .memory (some c') ∧ c'.now = c.now ∧
        ∀ key t, c'.Unexpired key t ↔ c.Unexpired key t) ∧
    (∀ grantToken bindingToken (opts : SessionIdentityJWTOptions Key CacheValue) sysNow c',
      opts.replayCache = some CacheValue.cache →
      Relation.ReflTransGen (FailStep sha256 lib) c c' →
      (∀ r, judgeSessionIdentityJWT sha256 lib grantToken bindingToken opts sysNow = .ok r →
        c.seen (replayKey r.statement) = none) →
      (verifySessionIdentityJWT sha256 lib grantToken bindingToken opts sysNow
          (.memory (some c'))).1 =
        (verifySessionIdentityJWT sha256 lib grantToken bindingToken opts sysNow
          (.memory (some { c with now := c'.now }))).1) := by
  constructor
  · intro grantToken bindingToken opts sysNow e w hca h
    rcases eq_or_markUsed_of_error hca h with rfl | ⟨k, t, err, herr, rfl⟩
    · exact ⟨c, rfl, rfl, fun _ _ => .rfl⟩
    · exact ⟨_, rfl, MemoryReplayCache.markUsed_now,
        fun _ _ => MemoryReplayCache.unexpired_markUsed_of_error herr⟩
  · intro grantToken bindingToken opts sysNow c' hca hsteps hunu
    rw [verifySessionIdentityJWT_eq, verifySessionIdentityJWT_eq, hca]
    refine thenRecord_fst_congr fun r hr => markSessionBindingUsed_fst_congr rfl ?_ (hunu r hr)
    exact seen_eq_none_of_failSteps hsteps (hunu r hr)

end Failures

/-- An empty token fails and the sample tokens are accepted after it. -/
theorem failed_calls_consume_nothing_sample :
    FailStep (fun _ => [0xab]) sampleLibrary (.new (Time.unix 10)) (.new (Time.unix 10)) ∧
    (verifySessionIdentityJWT (fun _ => [0xab]) sampleLibrary sampleGrant sampleStatement
        sampleOptions sampleNow (.memory (some (.new (Time.unix 10))))).1 = .ok sampleResult ∧
    (verifySessionIdentityJWT (fun _ => [0xab]) sampleLibrary sampleGrant sampleStatement
        sampleOptions sampleNow (.memory (some (.new (Time.unix 10))))).1 =
      (verifySessionIdentityJWT (fun _ => [0xab]) sampleLibrary sampleGrant sampleStatement
        sampleOptions sampleNow (.memory (some { MemoryReplayCache.new (Time.unix 10) with
          now := (MemoryReplayCache.new (Time.unix 10)).now }))).1 := by
  have hfail : verifySessionIdentityJWT (fun _ => [0xab]) sampleLibrary [] [] sampleOptions sampleNow
      (.memory (some (.new (Time.unix 10)))) = (.error _, .memory (some (.new (Time.unix 10)))) := rfl
  have hstep : FailStep (fun _ => [0xab]) sampleLibrary (.new (Time.unix 10))
      (.new (Time.unix 10)) := .call rfl hfail
  obtain ⟨v, h⟩ := sample_accepted
  exact ⟨hstep, congrArg Prod.fst h,
    failed_calls_consume_nothing.2 _ _ sampleOptions _ _ rfl (.single hstep) fun _ _ => rfl⟩

end SecureBinding.Clients
