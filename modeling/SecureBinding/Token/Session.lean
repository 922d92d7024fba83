import SecureBinding.Token.Keys
import SecureBinding.IdentityPolicy.ReplayCacheSound

/-!
# Token.Session

The acceptance step of the session identity verifiers: the body that
`VerifySessionIdentityJWT` of `pkg/clients`, `VerifySessionIdentityJWT` of `pkg/agtp`
and `VerifySessionIdentityCWT` share once their own verifiers of the two tokens are
given, and what follows when it accepts.

The replay cache comes last: `verifySessionIdentity_eq` splits a call into a verdict
that does not depend on any state (`judge`) and the recording of its use
(`thenRecord`). `judge_ok_iff` says what an admitted pair of tokens has passed;
`thenRecord_eq_error` says that a failing call reaches the cache, if at all, through
one failing `MarkUsed`.
-/

namespace SecureBinding.Token

open Go IdentityPolicy

/-- `SessionIdentityJWTResult`, `SessionIdentityCWTResult`. -/
structure SessionIdentityResult where
  grant : VerifiedGrant
  statement : VerifiedSessionBindingStatement
  assertion : Assertion
  deriving Repr, DecidableEq

/-- What the options of a session identity verifier say besides the token options. -/
structure SessionOptions (σ : Type) where
  policy : Policy
  expectedBinding : Binding
  replayCache : Option (ReplayCache σ)
  now : Time

/-- The verification time: the options' own, or the system clock. -/
def SessionOptions.time {σ : Type} (opts : SessionOptions σ) (sysNow : SysTime) : Time :=
  if opts.now.isZero then sysNow.val else opts.now

theorem SessionOptions.time_ne_zero {σ : Type} (opts : SessionOptions σ) (sysNow : SysTime) :
    opts.time sysNow ≠ 0 := by
  unfold time
  split
  · exact sysNow.ne_zero
  · rename_i h
    simpa using h

section Session

variable {σ : Type}

/-- From a verified grant and statement to an accepted assertion. -/
def acceptSession (opts : SessionOptions σ) (now : Time) (grant : VerifiedGrant)
    (statement : VerifiedSessionBindingStatement) (w : σ) :
    Except VerifyError SessionIdentityResult × σ :=
  match newAssertionFromSessionBindingWithOptions grant statement { now := now } w with
  | (.error e, w) => (.error (.policy e), w)
  | (.ok assertion, w) =>
    match validateAssertion opts.policy assertion opts.expectedBinding now with
    | [] =>
      match markSessionBindingUsed opts.replayCache statement w with
      | (some e, w) => (.error (.policy e), w)
      | (none, w) => (.ok ⟨grant, statement, assertion⟩, w)
    | errs => (.error (.policy (.validations errs)), w)

/-- The shared body: the guards, the two tokens at the verification time, and the
acceptance step. -/
def verifySessionIdentity (verifyGrant : Time → Except VerifyError VerifiedGrant)
    (verifyBinding : Time → Except VerifyError VerifiedSessionBindingStatement)
    (opts : SessionOptions σ) (sysNow : SysTime) (w : σ) :
    Except VerifyError SessionIdentityResult × σ :=
  if !opts.policy.enabled then (.error (.sentinel .missingIdentityPolicy), w)
  else if opts.replayCache.isNone then (.error (.sentinel .missingReplayCache), w)
  else match verifyGrant (opts.time sysNow) with
    | .error e => (.error e, w)
    | .ok grant =>
      match verifyBinding (opts.time sysNow) with
      | .error e => (.error e, w)
      | .ok statement => acceptSession opts (opts.time sysNow) grant statement w

/-! ### The verdict before the cache -/

/-- No validation error may be reported. -/
def requireNil (errs : List ValidationError) : Except VerifyError Unit :=
  if errs = [] then .ok () else .error (.policy (.validations errs))

theorem requireNil_ok_iff {errs : List ValidationError} {u : Unit} :
    requireNil errs = .ok u ↔ errs = [] := by
  unfold requireNil
  split <;> simp_all

/-- The verdict on a grant and a statement before the cache is asked. -/
def judgePair (opts : SessionOptions σ) (now : Time) (grant : VerifiedGrant)
    (statement : VerifiedSessionBindingStatement) : Except VerifyError SessionIdentityResult := do
  let assertion : Assertion := ⟨grant.issuer, grant.values, statement.binding⟩
  requireNil (sessionBindingErrors grant statement now)
  requireNil (validateAssertion opts.policy assertion opts.expectedBinding now)
  return ⟨grant, statement, assertion⟩

/-- The verdict on the two tokens before the cache is asked. -/
def judge (verifyGrant : Time → Except VerifyError VerifiedGrant)
    (verifyBinding : Time → Except VerifyError VerifiedSessionBindingStatement)
    (opts : SessionOptions σ) (sysNow : SysTime) : Except VerifyError SessionIdentityResult := do
  require opts.policy.enabled .missingIdentityPolicy
  require opts.replayCache.isSome .missingReplayCache
  let grant ← verifyGrant (opts.time sysNow)
  let statement ← verifyBinding (opts.time sysNow)
  judgePair opts (opts.time sysNow) grant statement

/-- What follows a verdict: a good one is recorded, and turned down if that fails. -/
def thenRecord (cache : Option (ReplayCache σ)) (verdict : Except VerifyError SessionIdentityResult)
    (w : σ) : Except VerifyError SessionIdentityResult × σ :=
  match verdict with
  | .error e => (.error e, w)
  | .ok r =>
    match markSessionBindingUsed cache r.statement w with
    | (some e, w) => (.error (.policy e), w)
    | (none, w) => (.ok r, w)

section Record

variable {cache : Option (ReplayCache σ)} {verdict : Except VerifyError SessionIdentityResult}
  {r : SessionIdentityResult} {w w' : σ}

theorem thenRecord_ok_iff :
    thenRecord cache verdict w = (.ok r, w') ↔
      verdict = .ok r ∧ markSessionBindingUsed cache r.statement w = (none, w') := by
  unfold thenRecord
  rcases verdict with e | r'
  · simp
  · dsimp only
    split
    · rename_i e w₁ hmark
      constructor
      · intro h
        simp at h
      · rintro ⟨hr, hused⟩
        obtain rfl : r' = r := by simpa using hr
        simp [hmark] at hused
    · rename_i w₁ hmark
      constructor
      · intro h
        obtain ⟨rfl, rfl⟩ : r' = r ∧ w₁ = w' := by simpa using h
        exact ⟨rfl, hmark⟩
      · rintro ⟨hr, hused⟩
        obtain rfl : r' = r := by simpa using hr
        obtain rfl : w₁ = w' := by simpa [hmark] using hused
        rfl

/-- A failure leaves the state alone, or ends in one failing `MarkUsed`. -/
theorem thenRecord_eq_error {e : VerifyError} (h : thenRecord cache verdict w = (.error e, w')) :
    w' = w ∨ ∃ r err, verdict = .ok r ∧
      markSessionBindingUsed cache r.statement w = (some err, w') := by
  rcases verdict with e' | r
  · exact .inl (Prod.ext_iff.mp h).2.symm
  · simp only [thenRecord] at h
    split at h
    · rename_i err w₁ hmark
      obtain rfl : w₁ = w' := (Prod.ext_iff.mp h).2
      exact .inr ⟨r, err, rfl, hmark⟩
    · simp at h

/-- The outcome depends on the state only through the verdict of the cache. -/
theorem thenRecord_fst_congr
    (h : ∀ r, verdict = .ok r → (markSessionBindingUsed cache r.statement w).1 =
      (markSessionBindingUsed cache r.statement w').1) :
    (thenRecord cache verdict w).1 = (thenRecord cache verdict w').1 := by
  rcases verdict with e | r
  · rfl
  · have hfst := h r rfl
    simp only [thenRecord]
    rcases hw : markSessionBindingUsed cache r.statement w with ⟨_ | err, w₁⟩ <;>
      rcases hw' : markSessionBindingUsed cache r.statement w' with ⟨_ | err', w₂⟩ <;>
      simp_all

end Record

variable {opts : SessionOptions σ} {now : Time} {grant : VerifiedGrant}
  {statement : VerifiedSessionBindingStatement} {sysNow : SysTime} {w w' : σ}
  {r : SessionIdentityResult} {verifyGrant : Time → Except VerifyError VerifiedGrant}
  {verifyBinding : Time → Except VerifyError VerifiedSessionBindingStatement}

/-- The acceptance step is a verdict on the pair, which is then recorded. -/
theorem acceptSession_eq :
    acceptSession opts now grant statement w =
      thenRecord opts.replayCache (judgePair opts now grant statement) w := by
  unfold acceptSession judgePair newAssertionFromSessionBindingWithOptions
    validateSessionBindingStatementWithOptions requireNil thenRecord
  cases sessionBindingErrors grant statement now with
  | cons e errs => rfl
  | nil =>
    dsimp only [markSessionBindingUsed]
    cases validateAssertion opts.policy ⟨grant.issuer, grant.values, statement.binding⟩
        opts.expectedBinding now with
    | cons e errs => rfl
    | nil => rfl

theorem verifySessionIdentity_eq :
    verifySessionIdentity verifyGrant verifyBinding opts sysNow w =
      thenRecord opts.replayCache (judge verifyGrant verifyBinding opts sysNow) w := by
  unfold verifySessionIdentity judge require
  by_cases hen : opts.policy.enabled = true
  · rw [if_neg (by simp [hen]), if_pos hen, Lib.ok_bind]
    by_cases hca : opts.replayCache.isSome = true
    · rw [if_neg (by simpa [Option.isSome_iff_ne_none] using hca), if_pos hca, Lib.ok_bind]
      cases verifyGrant (opts.time sysNow) with
      | error e => rfl
      | ok grant =>
        cases verifyBinding (opts.time sysNow) with
        | error e => rfl
        | ok statement =>
          rw [Lib.ok_bind, Lib.ok_bind]
          exact acceptSession_eq
    · rw [if_pos (by simpa using hca), if_neg hca]
      rfl
  · rw [if_pos (by simpa using hen), if_neg hen]
    rfl

/-! ### Acceptance -/

/-- What an accepted pair of tokens has passed before the replay cache is asked. -/
structure Admissible (opts : SessionOptions σ) (now : Time) (r : SessionIdentityResult) :
    Prop where
  authorizes : Authorizes r.grant r.statement now
  assertion : r.assertion = ⟨r.grant.issuer, r.grant.values, r.statement.binding⟩
  binding : BindingMatches r.statement.binding opts.expectedBinding now
  policy : Satisfies opts.policy r.grant.values

theorem judgePair_ok_iff :
    judgePair opts now grant statement = .ok r ↔
      r.grant = grant ∧ r.statement = statement ∧ Admissible opts now r := by
  simp only [judgePair, Lib.bind_ok_iff, requireNil_ok_iff, Lib.pure_ok_iff,
    sessionBindingErrors_eq_nil_iff, validateAssertion_eq_nil_iff, exists_const]
  constructor
  · rintro ⟨hauth, ⟨hbin, hpol⟩, rfl⟩
    exact ⟨rfl, rfl, hauth, rfl, hbin, hpol⟩
  · rintro ⟨rfl, rfl, hadm⟩
    refine ⟨hadm.authorizes, ⟨hadm.binding, hadm.policy⟩, ?_⟩
    rw [← hadm.assertion]

theorem judge_ok_iff :
    judge verifyGrant verifyBinding opts sysNow = .ok r ↔
      opts.policy.enabled = true ∧ opts.replayCache.isSome = true ∧
      verifyGrant (opts.time sysNow) = .ok r.grant ∧
      verifyBinding (opts.time sysNow) = .ok r.statement ∧
      Admissible opts (opts.time sysNow) r := by
  simp only [judge, Lib.bind_ok_iff, require_ok_iff, judgePair_ok_iff, exists_const]
  constructor
  · rintro ⟨hen, hca, grant, hgr, statement, hstm, rfl, rfl, hadm⟩
    exact ⟨hen, hca, hgr, hstm, hadm⟩
  · rintro ⟨hen, hca, hgr, hstm, hadm⟩
    exact ⟨hen, hca, _, hgr, _, hstm, rfl, rfl, hadm⟩

/-- Acceptance: the two tokens are admitted and the cache records their use. -/
theorem accepts_iff :
    verifySessionIdentity verifyGrant verifyBinding opts sysNow w = (.ok r, w') ↔
      judge verifyGrant verifyBinding opts sysNow = .ok r ∧
      markSessionBindingUsed opts.replayCache r.statement w = (none, w') := by
  rw [verifySessionIdentity_eq, thenRecord_ok_iff]

/-! ### One-shot use -/

/-- The use of a statement is on record. A verdict that would admit it now, and never admits
another, is turned down at every later time exactly if the cache was durable. -/
theorem fails_later_iff {verdict : SysTime → Except VerifyError SessionIdentityResult}
    {r' : SessionIdentityResult} {v v' : CacheValue}
    (hsame : ∀ sysNow' r'', verdict sysNow' = .ok r'' → r''.statement = r.statement)
    (hok : verdict sysNow = .ok r')
    (hused : markSessionBindingUsed (some CacheValue.cache) r.statement v = (none, v')) :
    (∀ v'' sysNow', v'.Later v'' → sysNow.val ≤ sysNow'.val →
        ∃ e w, thenRecord (some CacheValue.cache) (verdict sysNow') v'' = (.error e, w)) ↔
      v.Durable r.statement.binding.expiresAt := by
  rw [markSessionBindingUsed_cache] at hused
  rw [← CacheValue.markUsed_later_fails_iff hused]
  constructor
  · intro hall v'' hlat hagain
    obtain ⟨e, w, herr⟩ := hall v'' sysNow hlat le_rfl
    have hac := thenRecord_ok_iff.mpr ⟨hok, by
      rw [markSessionBindingUsed_cache, hsame _ _ hok]
      exact Prod.ext hagain rfl⟩
    rw [herr] at hac
    cases hac
  · intro hfails v'' sysNow' hlat _
    rcases hcall : thenRecord (some CacheValue.cache) (verdict sysNow') v'' with ⟨err | r'', w⟩
    · exact ⟨err, w, rfl⟩
    · -- A second acceptance would record the same key again.
      obtain ⟨hok', hused'⟩ := thenRecord_ok_iff.mp hcall
      rw [markSessionBindingUsed_cache, hsame _ _ hok'] at hused'
      exact absurd (congrArg Prod.fst hused') (hfails v'' hlat)

end Session

/-- Options that require layer L4 with agent `a` and expect the nonce `n`, at second
10. -/
def sampleSessionOptions {σ : Type} (cache : ReplayCache σ) : SessionOptions σ where
  policy := { mode := modeRequired, require := { l4 := true }, expected := { agent := lit "a" } }
  expectedBinding := { nonce := lit "n" }
  replayCache := some cache
  now := Time.unix 10

end SecureBinding.Token
